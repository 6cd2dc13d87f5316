import FuseVolumes.Recovery.Pass
import FuseVolumes.Proofs.Program.Interleaving

/-!
Recovery passes whose tasks take turns. `Passes` lets the tasks of the planned volumes make their
requests in any order; the pass that runs one task after the other is one of them (`passes_pass`).
-/

namespace FuseVolumes.Recovery

open Program

/-- A pass: all volumes are planned, and then the tasks go on in the order that the trace tells,
until every one of them has its outcome. -/
structure Passes (handler : Handler Node.interface Node.Machine) (scope : Scope)
    (session : Orchestrator.Session) (m : Node.Machine) (prepared : List Prepared)
    (trace : List (Nat × Node.Call)) (outcomes : List Outcome) (m' : Node.Machine) : Prop where
  plans : (session.run (prepare scope)).1 = .ok prepared
  tasks : Finishes handler (prepared.map (·.task scope.root)) m trace outcomes m'

/-- A pass whose volumes are planned can run one task after the other. -/
theorem passes_runAll (handler : Handler Node.interface Node.Machine) {scope : Scope}
    {session : Orchestrator.Session} (m : Node.Machine) {prepared : List Prepared}
    (h : (session.run (prepare scope)).1 = .ok prepared) :
    ∃ trace, Passes handler scope session m prepared trace
      (runAll handler (prepared.map (·.task scope.root)) m).1
      (runAll handler (prepared.map (·.task scope.root)) m).2 := by
  obtain ⟨trace, finished⟩ := finishes_runAll handler (prepared.map (·.task scope.root)) m
  exact ⟨trace, h, finished⟩

/-- A pass can be made, and however its tasks take turns it ends like this. -/
def Passing (handler : Handler Node.interface Node.Machine) (scope : Scope)
    (session : Orchestrator.Session) (m : Node.Machine)
    (ends : List Outcome → Node.Machine → Prop) : Prop :=
  (∃ prepared trace outcomes m', Passes handler scope session m prepared trace outcomes m') ∧
    ∀ prepared trace outcomes m', Passes handler scope session m prepared trace outcomes m' →
      ends outcomes m'

/-- A pass over one volume ends as its task does. -/
theorem passing_singleton {handler : Handler Node.interface Node.Machine} {scope : Scope}
    {session : Orchestrator.Session} {m : Node.Machine} {x : Prepared}
    {ends : List Outcome → Node.Machine → Prop} (h : (session.run (prepare scope)).1 = .ok [x])
    (hends : ends [((x.task scope.root).run handler m).1] ((x.task scope.root).run handler m).2) :
    Passing handler scope session m ends := by
  constructor
  · obtain ⟨trace, passes⟩ := passes_runAll handler m h
    exact ⟨_, trace, _, _, passes⟩
  · intro prepared trace outcomes m' passes
    obtain rfl : [x] = prepared := Except.ok.inj (h.symm.trans passes.plans)
    obtain ⟨rfl, rfl⟩ := finishes_singleton passes.tasks
    exact hends

theorem runTasks_run (handler : Handler Node.interface Node.Machine) (root : String)
    (prepared : List Prepared) (m : Node.Machine) :
    (runTasks root prepared).run handler m = runAll handler (prepared.map (·.task root)) m := by
  induction prepared generalizing m with
  | nil => rfl
  | cons first rest ih =>
    change ((first.task root).bind _).run handler m = _
    rw [run_bind]
    change ((runTasks root rest).bind _).run handler _ = _
    rw [run_bind, ih]
    rfl

/-- What a pass reports of tasks that run one after the other. -/
theorem pass_report (handler : Handler Node.interface Node.Machine) {scope : Scope}
    {session : Orchestrator.Session} (m : Node.Machine) {prepared : List Prepared}
    (h : (session.run (prepare scope)).1 = .ok prepared) :
    (pass handler scope session m).1 =
      .ok (.count (runAll handler (prepared.map (·.task scope.root)) m).1) := by
  rw [← runTasks_run, pass]
  generalize session.run (prepare scope) = planned at h
  obtain ⟨_, after⟩ := planned
  cases h
  rfl

theorem passes_pass {handler : Handler Node.interface Node.Machine} {scope : Scope}
    {session session' : Orchestrator.Session} {m m' : Node.Machine} {report : Report}
    (h : pass handler scope session m = (.ok report, session', m')) :
    ∃ prepared trace outcomes, Passes handler scope session m prepared trace outcomes m' ∧
      report = .count outcomes := by
  rw [pass] at h
  split at h
  · cases h
  next prepared after planned =>
    cases h
    have plans : (session.run (prepare scope)).1 = .ok prepared := by rw [planned]
    obtain ⟨trace, passes⟩ := passes_runAll handler m plans
    rw [← runTasks_run] at passes
    exact ⟨prepared, trace, _, passes, rfl⟩

end FuseVolumes.Recovery
