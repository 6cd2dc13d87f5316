import FuseVolumes.Proofs.Recovery.Pass
import FuseVolumes.Proofs.Recovery.Planning
import FuseVolumes.Proofs.Recovery.Task

/-!
# Convergence of recovery

On a node where nothing fails a recovery pass brings back all mounts, whatever state they are in and
however its tasks take turns, even if they share paths (`recovery_converges`).

* `Going`: no task ever finds its name in use, so all replies are faultless.
* `Mended`: a path that a task cleared is one that it will mount on, so in the end no path is left
  without its mount.
* `Passes.idle`: where all mounts answer nothing is asked for that changes one.
-/

namespace FuseVolumes.Recovery

open Program Node Node.Machine

/-! ## Names in use -/

/-- Requests that reserve nothing. -/
def ReservesNot : Node.Call → Prop
  | .reserve _ => False
  | _ => True

/-- Requests that reserve and give back no name but one. -/
def NamesOnly (own : Option String) : Node.Call → Prop
  | .reserve name | .release name => own = some name
  | _ => True

def Releases (name : String) (call : Node.Call) : Prop := call = .release name

/-- What is left of a task: it reserves nothing any more, or its next request reserves a name that
it will give back. -/
inductive Orderly {α : Type} : Program Node.interface α → Prop
  | holding {p : Program Node.interface α} (h : p.Within ReservesNot) : Orderly p
  | starting {name : String} {next : Bool → Program Node.interface α}
      (h : ∀ taken, (next taken).Within ReservesNot)
      (owes : (next true).Owes Faultless (Releases name)) :
      Orderly (.ask (I := Node.interface) (.reserve name) next)

variable {root : String} {plan : Plan}

theorem covers_reservesNot {path : String} {call : Node.Call}
    (h : (Footprint.one path).Covers call) : ReservesNot call := by
  cases call <;> trivial

theorem recover_orderly (root : String) (plan : Plan) : Orderly (recover root plan) := by
  rw [recover_eq]
  refine .starting (fun taken => ?_) ?_
  · cases taken with
    | false => exact ⟨trivial, fun _ _ => trivial⟩
    | true => exact recoverReserved_within trivial fun _ _ _ => covers_reservesNot
  · refine owes_bind_right (obeys_trivial _ _) fun result _ => .inl rfl

/-- The name that the task of a prepared volume may reserve. -/
def nameAt (prepared : List Prepared) (i : Nat) : Option String :=
  prepared[i]?.bind Prepared.reserves

/-- Some task reserves nothing any more and still has to give back the name. -/
def Held (tasks : List (Program Node.interface Outcome)) (name : String) : Prop :=
  ∃ (i : Nat) (p : Program Node.interface Outcome), tasks[i]? = some p ∧
    p.Within ReservesNot ∧ p.Owes Faultless (Releases name)

/-- **Invariant.** Nothing fails, each task keeps to its own name, and every name in use is owed
back by the task that reserved it. -/
structure Going (prepared : List Prepared) (tasks : List (Program Node.interface Outcome))
    (m : Machine) : Prop where
  sound : m.Sound
  names : AllWithin (fun i => NamesOnly (nameAt prepared i)) tasks
  orderly : ∀ (i : Nat) p, tasks[i]? = some p → Orderly p
  held : ∀ name, m.bench.reservations.isReserved name = true → Held tasks name

theorem recover_names (root : String) (plan : Plan) :
    (recover root plan).Within (NamesOnly (some plan.volume.id)) := by
  rw [recover_eq]
  refine ⟨rfl, fun taken _ => ?_⟩
  cases taken with
  | false => exact ⟨trivial, fun _ _ => trivial⟩
  | true =>
    refine recoverReserved_within rfl fun path _ call h => ?_
    cases call <;> trivial

theorem nameAt_inj {prepared : List Prepared}
    (distinct : (prepared.filterMap Prepared.reserves).Nodup) {i j : Nat} {name : String}
    (hi : nameAt prepared i = some name) (hj : nameAt prepared j = some name) : i = j := by
  obtain ⟨x, hx, hxname⟩ := Option.bind_eq_some_iff.1 hi
  obtain ⟨y, hy, hyname⟩ := Option.bind_eq_some_iff.1 hj
  exact index_eq_of_nodup distinct hx hy hxname hyname

theorem task_of_getElem? {prepared : List Prepared} {i : Nat} {p : Program Node.interface Outcome}
    (h : (prepared.map (·.task root))[i]? = some p) :
    ∃ x, prepared[i]? = some x ∧ p = x.task root := by
  rw [List.getElem?_map] at h
  obtain ⟨x, hx, rfl⟩ := Option.map_eq_some_iff.1 h
  exact ⟨x, hx, rfl⟩

theorem Going.start {prepared : List Prepared} {m : Machine} (hm : m.Sound)
    (free : m.bench.reservations.names = []) :
    Going prepared (prepared.map (·.task root)) m where
  sound := hm
  names := by
    intro i p hp
    obtain ⟨x, hx, rfl⟩ := task_of_getElem? hp
    have own : nameAt prepared i = x.reserves := by rw [nameAt, hx, Option.bind_some]
    simp only [own]
    cases x with
    | counted outcome => trivial
    | planned plan => exact recover_names root plan
  orderly := by
    intro i p hp
    obtain ⟨x, hx, rfl⟩ := task_of_getElem? hp
    cases x with
    | counted outcome => exact .holding trivial
    | planned plan => exact recover_orderly root plan
  held := by
    intro name h
    simp [Reservations.isReserved, free] at h

/-- A name stays held until it is given back. -/
theorem Held.set {tasks : List (Program Node.interface Outcome)} {name : String}
    (held : Held tasks name) {i : Nat} {call : Node.Call}
    {next : call.Reply → Program Node.interface Outcome} {reply : call.Reply}
    (hi : tasks[i]? = some (.ask (I := Node.interface) call next))
    (hcall : ¬ Releases name call) (hr : Faultless call reply) :
    Held (tasks.set i (next reply)) name := by
  obtain ⟨j, p, hj, reserves, owes⟩ := held
  by_cases hij : i = j
  · subst hij
    obtain rfl := Option.some.inj (hj.symm.trans hi)
    have hlt := (List.getElem?_eq_some_iff.1 hi).1
    refine ⟨i, _, List.getElem?_set_self hlt, reserves.next reply, ?_⟩
    rcases owes with owes | owes
    · exact absurd owes hcall
    · exact owes reply hr
  · exact ⟨j, p, (List.getElem?_set_ne hij).trans hj, reserves, owes⟩

/-- **Step lemma.** Every reply is faultless, and the invariant goes on. -/
theorem Going.step {prepared : List Prepared} {tasks : List (Program Node.interface Outcome)}
    {m : Machine} (distinct : (prepared.filterMap Prepared.reserves).Nodup)
    (going : Going prepared tasks m) {i : Nat} {call : Node.Call}
    {next : call.Reply → Program Node.interface Outcome}
    (hi : tasks[i]? = some (.ask (I := Node.interface) call next)) :
    Faultless call (handle fuseMount call m).1 ∧
      Going prepared (tasks.set i (next (handle fuseMount call m).1))
        (handle fuseMount call m).2 := by
  -- A name that is about to be reserved is free: the task that holds it could only be this one.
  have free (name : String) (hcall : call = .reserve name) :
      m.bench.reservations.isReserved name = false := by
    subst hcall
    refine Bool.eq_false_iff.2 fun taken => ?_
    obtain ⟨j, p, hj, reserves, owes⟩ := going.held name taken
    obtain ⟨call, named, rfl⟩ := owes.exists_call (going.names j p hj) faultless_exists
    obtain rfl := nameAt_inj distinct named (going.names i _ hi).1
    obtain rfl := Option.some.inj (hj.symm.trans hi)
    exact reserves.1
  have faultless := handle_faultless going.sound call free
  have hlt : i < tasks.length := (List.getElem?_eq_some_iff.1 hi).1
  refine ⟨faultless, going.sound.handle call, going.names.set hi _, ?_, ?_⟩
  · refine forall_set going.orderly ?_
    cases going.orderly i _ hi with
    | holding h => exact .holding (h.next _)
    | starting h => exact .holding (h _)
  · intro name
    rw [handle_reserved fuseMount_failsByMount]
    intro reserved
    cases call with
    | reserve other =>
      by_cases hname : name = other
      · subst hname
        have taken : (handle fuseMount (.reserve name) m).1 = true := faultless
        rw [taken]
        cases going.orderly i _ hi with
        | holding h => exact h.1.elim
        | starting h owes => exact ⟨i, next true, List.getElem?_set_self hlt, h true, owes⟩
      · have before : m.bench.reservations.isReserved name = true := by
          simpa [hname] using reserved
        refine (going.held name before).set hi ?_ faultless
        intro h
        cases h
    | release other =>
      obtain ⟨hname, before⟩ := Bool.and_eq_true_iff.1 reserved
      refine (going.held name before).set hi ?_ faultless
      rintro ⟨⟩
      simp at hname
    | _ =>
      refine (going.held name reserved).set hi ?_ faultless
      intro h
      cases h

/-- **Run lemma.** What every step with a faultless reply keeps holds after any number of steps. -/
theorem Going.run {prepared : List Prepared} {tasks tasks' : List (Program Node.interface Outcome)}
    {m m' : Machine} {trace : List (Nat × Node.Call)}
    (inv : List (Program Node.interface Outcome) → Machine → Prop) (made : Node.Call → Prop)
    (distinct : (prepared.filterMap Prepared.reserves).Nodup) (going : Going prepared tasks m)
    (start : inv tasks m)
    (step : ∀ tasks m (i : Nat) (call : Node.Call)
      (next : call.Reply → Program Node.interface Outcome), m.Sound → inv tasks m →
      tasks[i]? = some (.ask (I := Node.interface) call next) →
      Faultless call (handle fuseMount call m).1 →
      made call ∧ inv (tasks.set i (next (handle fuseMount call m).1)) (handle fuseMount call m).2)
    (h : Reaches (handle fuseMount) tasks m trace tasks' m') :
    Going prepared tasks' m' ∧ inv tasks' m' ∧ ∀ i call, (i, call) ∈ trace → made call := by
  have both := h.preserves (fun tasks m => Going prepared tasks m ∧ inv tasks m)
    (fun _ call => made call) (fun tasks m i call next ⟨going, hinv⟩ hi => by
      obtain ⟨faultless, goes⟩ := going.step distinct hi
      obtain ⟨hmade, goesOn⟩ := step tasks m i call next going.sound hinv hi faultless
      exact ⟨hmade, goes, goesOn⟩) ⟨going, start⟩
  exact ⟨both.1.1, both.1.2, both.2⟩

/-- Once all tasks have ended no name is in use. -/
theorem Going.free {prepared : List Prepared} {outcomes : List Outcome} {m : Machine}
    (going : Going prepared (outcomes.map .done) m) : m.bench.reservations.names = [] := by
  refine List.eq_nil_iff_forall_not_mem.2 fun name hname => ?_
  have reserved : m.bench.reservations.isReserved name = true := by
    simpa [Reservations.isReserved] using hname
  obtain ⟨i, p, hi, -, owes⟩ := going.held name reserved
  exact not_someOwes_done ⟨i, p, hi, owes⟩

/-! ## Mounts that come back -/

/-- **Invariant.** The path is mounted on, or some task is about to mount on it; or it is as it was
at the start, and some task finds out what that means. -/
def Mended (t : Mount.Table) (path : String) (tasks : List (Program Node.interface Outcome))
    (m : Machine) : Prop :=
  m.table.state path = .mounted .healthy ∨ SomeOwes Faultless (Mounts path) tasks ∨
    m.table.spot path = t.spot path ∧
      SomeOwes (FaultlessAt t path) (Mounts path) tasks

theorem Mended.step {t : Mount.Table} {path : String}
    {tasks : List (Program Node.interface Outcome)} {m : Machine} (hm : m.Sound)
    (mended : Mended t path tasks m)
    (follows : ∀ (i : Nat) p, tasks[i]? = some p → p.Follows Faultless (Clears path) (Mounts path))
    {i : Nat} {call : Node.Call} {next : call.Reply → Program Node.interface Outcome}
    (hi : tasks[i]? = some (.ask (I := Node.interface) call next))
    (faultless : Faultless call (handle fuseMount call m).1) :
    Mended t path (tasks.set i (next (handle fuseMount call m).1)) (handle fuseMount call m).2 := by
  have hlt : i < tasks.length := (List.getElem?_eq_some_iff.1 hi).1
  by_cases mounts : Mounts path call
  · exact .inl (handle_mounts hm mounts)
  by_cases clears : Clears path call
  · exact .inr (.inl (someOwes_set hlt ((follows i _ hi _ faultless).1 clears)))
  -- What is at the path has not changed.
  have spot := handle_spot_eq (m := m) mounts clears
  rcases mended with healthy | owes | ⟨same, owes⟩
  · exact .inl ((Mount.Table.state_congr spot).trans healthy)
  · exact .inr (.inl (owes.set hi mounts faultless))
  · have shows := handle_shows hm same call
    exact .inr (.inr ⟨spot.trans same, owes.set hi mounts ⟨faultless, shows⟩⟩)

/-! ## Tasks where nothing fails -/

/-- What is counted for a volume where nothing fails. -/
def Prepared.outcome : Prepared → Outcome
  | .counted outcome => outcome
  | .planned _ => .recovered

theorem Prepared.task_outcome (root : String) (x : Prepared) :
    (x.task root).Obeys Faultless (fun _ => True) (· = x.outcome) := by
  cases x with
  | counted outcome => rfl
  | planned plan =>
    change (recover root plan).Obeys _ _ _
    rw [recover_eq]
    refine ⟨trivial, fun taken htaken => ?_⟩
    rw [show taken = true from htaken]
    refine recoverReserved_recovers (fun _ => trivial) trivial fun r hr => ?_
    exact restore_succeeds (Plan.mountsOn_of_mem_works hr)

theorem Prepared.task_follows (root path : String) (x : Prepared) :
    (x.task root).Follows Faultless (Clears path) (Mounts path) := by
  cases x with
  | counted outcome => trivial
  | planned plan =>
    change (recover root plan).Follows _ _ _
    rw [recover_eq]
    refine fun taken htaken => ⟨False.elim, ?_⟩
    rw [show taken = true from htaken]
    refine (follows_compositional fun _ => id).recoverReserved (fun r hr => ?_) ?_
    · exact restore_follows (Plan.mountsOn_of_mem_works hr) path
    · exact fun _ _ => ⟨False.elim, trivial⟩

theorem recover_owes {t : Mount.Table} {path : String} (hpath : path ∈ plan.paths root)
    (h : t.state path ≠ .mounted .healthy) :
    (recover root plan).Owes (FaultlessAt t path) (Mounts path) := by
  rw [recover_eq]
  refine .inr fun taken htaken => ?_
  rw [show taken = true from htaken.1]
  rw [← Plan.works_paths] at hpath
  obtain ⟨r, hr, rfl⟩ := List.mem_map.1 hpath
  refine recoverReserved_owes (fun r hr => ?_) ⟨r, hr, ?_⟩
  · exact (restore_succeeds (Plan.mountsOn_of_mem_works hr)).mono (fun _ _ h => h.1) (fun _ h => h)
      fun _ h => h
  · exact restore_owes (Plan.mountsOn_of_mem_works hr) h

theorem recover_idle {t : Mount.Table}
    (h : ∀ path ∈ plan.paths root, t.state path = .mounted .healthy) :
    (recover root plan).Obeys (FaultlessOn t) Idle fun _ => True := by
  rw [recover_eq]
  refine ⟨trivial, fun taken htaken => ?_⟩
  rw [show taken = true from htaken.1]
  refine (obeys_compositional fun _ => trivial).recoverReserved (fun r hr => ?_)
    ⟨trivial, fun _ _ => trivial⟩
  have healthy : t.state r.1 = .mounted .healthy := by
    refine h r.1 ?_
    rw [← Plan.works_paths]
    exact List.mem_map_of_mem hr
  exact (restore_idle healthy).mono (fun _ _ h => h.2 r.1) (fun _ h => h) fun _ _ => trivial

/-! ## Passes -/

section Passes

variable {scope : Scope} {session session' : Orchestrator.Session} {m m' m'' : Machine}
  {prepared : List Prepared} {trace trace' : List (Nat × Node.Call)}
  {outcomes outcomes' : List Outcome}

/-- All mounts of all planned volumes answer. -/
def Healed (root : String) (prepared : List Prepared) (t : Mount.Table) : Prop :=
  ∀ plan, .planned plan ∈ prepared → ∀ path ∈ plan.paths root, t.state path = .mounted .healthy

/-- A pass ends with all mounts in place, and leaves nothing behind that could hold up another. -/
theorem Passes.heals (hm : m.Sound) (free : m.bench.reservations.names = [])
    (distinct : (prepared.filterMap Prepared.reserves).Nodup)
    (h : Passes (handle fuseMount) scope session m prepared trace outcomes m') :
    Healed scope.root prepared m'.table ∧ m'.Sound ∧ m'.bench.reservations.names = [] := by
  have start (plan : Plan) (hplan : .planned plan ∈ prepared) (path : String)
      (hpath : path ∈ plan.paths scope.root) :
      Mended m.table path (prepared.map (·.task scope.root)) m := by
    by_cases healthy : m.table.state path = .mounted .healthy
    · exact .inl healthy
    · obtain ⟨i, hi⟩ := List.getElem?_of_mem hplan
      refine .inr (.inr ⟨rfl, i, recover scope.root plan, ?_, recover_owes hpath healthy⟩)
      rw [List.getElem?_map, hi]
      rfl
  have follows (path : String) (i : Nat) (p : Program Node.interface Outcome)
      (hp : (prepared.map (·.task scope.root))[i]? = some p) :
      p.Follows Faultless (Clears path) (Mounts path) := by
    obtain ⟨x, -, rfl⟩ := task_of_getElem? hp
    exact x.task_follows scope.root path
  obtain ⟨going, ⟨mended, -⟩, -⟩ := (Going.start hm free).run
    (fun tasks m' => (∀ plan, .planned plan ∈ prepared → ∀ path ∈ plan.paths scope.root,
        Mended m.table path tasks m') ∧
      ∀ path (i : Nat) p, tasks[i]? = some p → p.Follows Faultless (Clears path) (Mounts path))
    (fun _ => True) distinct ⟨start, follows⟩
    (fun tasks m' i call next sound ⟨mended, follows⟩ hi faultless => by
      refine ⟨trivial, fun plan hplan path hpath => ?_, fun path => ?_⟩
      · exact (mended plan hplan path hpath).step sound (follows path) hi faultless
      · exact forall_set (follows path) ((follows path i _ hi).next faultless)) h.tasks
  refine ⟨fun plan hplan path hpath => ?_, going.sound, going.free⟩
  rcases mended plan hplan path hpath with healthy | owes | ⟨-, owes⟩
  · exact healthy
  · exact absurd owes not_someOwes_done
  · exact absurd owes not_someOwes_done

/-- Where nothing fails every planned volume is recovered. -/
theorem Passes.outcomes_eq (hm : m.Sound) (free : m.bench.reservations.names = [])
    (distinct : (prepared.filterMap Prepared.reserves).Nodup)
    (h : Passes (handle fuseMount) scope session m prepared trace outcomes m') :
    outcomes = prepared.map Prepared.outcome := by
  have start (i : Nat) (p : Program Node.interface Outcome)
      (hp : (prepared.map (·.task scope.root))[i]? = some p) :
      p.Obeys Faultless (fun _ => True) (some · = (prepared.map Prepared.outcome)[i]?) := by
    obtain ⟨x, hx, rfl⟩ := task_of_getElem? hp
    refine (x.task_outcome scope.root).mono (fun _ _ h => h) (fun _ h => h) ?_
    rintro _ rfl
    rw [List.getElem?_map, hx, Option.map_some]
  obtain ⟨-, ended, -⟩ := (Going.start hm free).run
    (fun tasks _ => ∀ (i : Nat) p, tasks[i]? = some p →
      p.Obeys Faultless (fun _ => True) (some · = (prepared.map Prepared.outcome)[i]?))
    (fun _ => True) distinct start
    (fun tasks m' i call next sound obeys hi faultless => by
      refine ⟨trivial, forall_set obeys ?_⟩
      exact (obeys i _ hi).2 _ faultless) h.tasks
  have length : outcomes.length = (prepared.map Prepared.outcome).length := by
    simpa using h.tasks.length_eq
  refine List.ext_getElem? fun i => ?_
  by_cases hi : i < outcomes.length
  · rw [List.getElem?_eq_getElem hi]
    exact ended i (.done outcomes[i]) (by simp [hi])
  · rw [List.getElem?_eq_none (by omega), List.getElem?_eq_none (by omega)]

/-- A pass over mounts that all answer leaves them alone. -/
theorem Passes.idle (hm : m.Sound) (free : m.bench.reservations.names = [])
    (distinct : (prepared.filterMap Prepared.reserves).Nodup)
    (healed : Healed scope.root prepared m.table)
    (h : Passes (handle fuseMount) scope session m prepared trace outcomes m') :
    ∀ i call, (i, call) ∈ trace → Idle call := by
  have start (i : Nat) (p : Program Node.interface Outcome)
      (hp : (prepared.map (·.task scope.root))[i]? = some p) :
      p.Obeys (FaultlessOn m.table) Idle fun _ => True := by
    obtain ⟨x, hx, rfl⟩ := task_of_getElem? hp
    cases x with
    | counted outcome => trivial
    | planned plan => exact recover_idle (healed plan (List.mem_of_getElem? hx))
  obtain ⟨-, -, idle⟩ := (Going.start hm free).run
    (fun tasks m' => m'.table = m.table ∧ ∀ (i : Nat) (p : Program Node.interface Outcome),
      tasks[i]? = some p → p.Obeys (FaultlessOn m.table) Idle fun _ => True)
    Idle distinct ⟨rfl, start⟩
    (fun tasks m' i call next sound ⟨same, obeys⟩ hi faultless => by
      have task := obeys i _ hi
      have shows (path : String) : Shows m.table path call (handle fuseMount call m').1 :=
        handle_shows sound (congrArg (·.spot path) same) call
      refine ⟨task.1, (handle_idle task.1).trans same, forall_set obeys ?_⟩
      exact task.2 _ ⟨faultless, shows⟩) h.tasks
  exact idle

/-- **Convergence.** Where nothing fails and no name is in use, a pass brings back every mount of
every volume that it counts as recovered, and those are all planned ones. Another pass over the same
objects finds nothing to do and reports the same. -/
theorem recovery_converges
    (distinct : (handles (scope.volumes session)).Nodup)
    (failures : m.failures = .none) (refusals : m.refusals = [])
    (free : m.bench.reservations.names = [])
    (h : Passes (handle fuseMount) scope session m prepared trace outcomes m')
    (same : session'.store = session.store) :
    (∀ i : Nat, outcomes[i]? = some .recovered ↔ ∃ plan, prepared[i]? = some (.planned plan)) ∧
    (∀ (i : Nat) plan, outcomes[i]? = some .recovered → prepared[i]? = some (.planned plan) →
      ∀ path ∈ plan.paths scope.root, m'.table.state path = .mounted .healthy) ∧
    (∃ trace' outcomes' m'',
      Passes (handle fuseMount) scope session' m' prepared trace' outcomes' m'') ∧
    ∀ prepared' trace' outcomes' m'',
      Passes (handle fuseMount) scope session' m' prepared' trace' outcomes' m'' →
        (∀ i call, (i, call) ∈ trace' → Idle call) ∧
        Report.count outcomes' = Report.count outcomes := by
  have names := (prepare_reserves h.plans).nodup distinct
  have again : (session'.run (prepare scope)).1 = .ok prepared := (prepare_congr same).trans h.plans
  obtain ⟨healed, sound', free'⟩ := h.heals ⟨failures, refusals⟩ free names
  have outcomes_eq := h.outcomes_eq ⟨failures, refusals⟩ free names
  refine ⟨fun i => ?_, fun i plan _ hplan => healed plan (List.mem_of_getElem? hplan), ?_, ?_⟩
  · rw [outcomes_eq, List.getElem?_map, Option.map_eq_some_iff]
    constructor
    · rintro ⟨x, hx, recovered⟩
      cases x with
      | planned plan => exact ⟨plan, hx⟩
      | counted outcome =>
        obtain rfl : outcome = .recovered := recovered
        exact absurd (List.mem_of_getElem? hx) (prepare_counted h.plans)
    · rintro ⟨plan, hx⟩
      exact ⟨_, hx, rfl⟩
  · obtain ⟨trace', passes⟩ := passes_runAll (handle fuseMount) m' again
    exact ⟨trace', _, _, passes⟩
  · intro prepared' trace' outcomes' m'' h'
    obtain rfl : prepared = prepared' := Except.ok.inj (again.symm.trans h'.plans)
    refine ⟨h'.idle sound' free' names healed, ?_⟩
    rw [h'.outcomes_eq sound' free' names, outcomes_eq]

end Passes

/-! ## A node whose daemons were lost -/

/-- One attached volume, and a pod with a mount below it. -/
def attachedStore : Orchestrator.Store where
  nodes := []
  attachments := [some ⟨"n", "d", some "pv", true⟩]
  volumes := [some ⟨some "pv",
    some ⟨"d", "0001-1-0005-admin-0001-v", [], some ⟨some "s", some "ns"⟩⟩,
    some ⟨some "c", some "ns"⟩, none, []⟩]
  pods := [("n", some ⟨some "p", some "u", some "ns", none,
    some ⟨some "n", [⟨"data", some ⟨"c", false⟩⟩], [], [⟨"main", [⟨"data", some "logs"⟩]⟩]⟩⟩)]
  classes := []
  claims := []
  secrets := [⟨"s", "ns", some ⟨[], [("adminName", "admin"), ("adminSecretKey", "s3cr3t")]⟩⟩]
  refusals := []

/-- The global mount is disconnected, the pod's mount cannot be read, and the mount below it is
gone. -/
def brokenMachine : Machine :=
  { Machine.ofBench .start with
    table := ⟨[], [("/k/plugins/kubernetes.io/csi/pv/pv/globalmount", .disconnected),
      ("/k/pods/u/volumes/kubernetes.io~csi/pv/mount", .unreadable)]⟩ }

theorem recovery_converges_from_lost_daemons :
    let scope : Scope := ⟨"n", "d", "/k", ⟨[("1", "http://fcfs")]⟩⟩
    let session : Orchestrator.Session := ⟨attachedStore, [], []⟩
    (handles (scope.volumes session)).Nodup ∧
    brokenMachine.failures = .none ∧ brokenMachine.refusals = [] ∧
    brokenMachine.bench.reservations.names = [] ∧
    ∃ prepared trace outcomes m',
      Passes (handle fuseMount) scope session brokenMachine prepared trace outcomes m' ∧
      m'.table.state "/k/plugins/kubernetes.io/csi/pv/pv/globalmount" = .mounted .healthy ∧
      m'.table.state "/k/pods/u/volumes/kubernetes.io~csi/pv/mount" = .mounted .healthy ∧
      m'.table.state "/k/pods/u/volume-subpaths/data/main/0" = .mounted .healthy := by
  intro scope session
  have distinct : (handles (scope.volumes session)).Nodup := by decide
  have plans : (session.run (prepare scope)).1 = .ok [.planned ⟨"pv",
      ⟨"0001-1-0005-admin-0001-v", "v", "1", "http://fcfs", 0, false⟩,
      [("adminName", "admin"), ("adminSecretKey", "s3cr3t")], [],
      [⟨"u", "data", false, [⟨"main", 0, "logs"⟩]⟩]⟩] := by rfl
  refine ⟨distinct, rfl, rfl, rfl, ?_⟩
  obtain ⟨trace, passes⟩ := passes_runAll (handle fuseMount) brokenMachine plans
  obtain ⟨recovered, healthy, -, -⟩ :=
    recovery_converges distinct rfl rfl rfl passes (Eq.refl session.store)
  have healed := healthy 0 _ ((recovered 0).2 ⟨_, rfl⟩) rfl
  exact ⟨_, _, _, _, passes, healed _ (by decide), healed _ (by decide), healed _ (by decide)⟩

end FuseVolumes.Recovery
