import FuseVolumes.Proofs.Node.Locking
import FuseVolumes.Proofs.Program.Steps
import FuseVolumes.Proofs.Recovery.Task

/-!
# Requests and recoveries exclude each other

A node answers requests and recovers volumes at the same time, and each job reserves the name of its
volume. However the jobs take turns, and whatever fails, those of one volume work one after the
other; who finds the name taken is turned away without any work, and nobody else is; and when all
are over no name is in use (`jobs_exclude`).
-/

namespace FuseVolumes.Recovery

open Program Node

/-! ## Recovery under a name -/

theorem mendVolume_stays (root : String) (plan : Plan) :
    (mendVolume root plan).run.Within (locking.Stays .holding) := by
  refine (obeys_compositional fun _ => .inl rfl).mendVolume fun r hr => ?_
  exact (restore_within (Plan.mountsOn_of_mem_works hr)).mono fun _ => stays_of_covers

/-- A volume is skipped if and only if its name was taken. -/
structure Skips (phase : Phase) (outcome : Outcome) : Prop where
  skipped : outcome = .skipped ↔ phase = .refused
  asked : phase ≠ .waiting

theorem recover_heeds (root : String) (plan : Plan) :
    Heeds locking plan.volume.id Skips .waiting (recover root plan) := by
  rw [recover_eq]
  refine ⟨rfl, fun taken => ?_⟩
  cases taken with
  | false => exact ⟨trivial, fun _ => ⟨nofun, ⟨fun _ => rfl, fun _ => rfl⟩, nofun⟩⟩
  | true =>
    refine heeds_bind (mendVolume_stays root plan) fun result _ => ⟨rfl, fun _ => ?_⟩
    match result with
    | .ok () => exact ⟨nofun, ⟨nofun, nofun⟩, nofun⟩
    | .error e => exact ⟨trivial, fun _ => ⟨nofun, ⟨nofun, nofun⟩, nofun⟩⟩

/-! ## Jobs -/

/-- What a node is busy with. -/
inductive Job
  | request (request : Request)
  | recovery (plan : Plan)

/-- What becomes of a job. -/
inductive Ending
  | answered (result : Except Status Answer)
  | counted (outcome : Outcome)

namespace Job

/-- The volume a job is about. -/
def volumeId? : Job → Option String
  | .request r => r.volumeId?
  | .recovery plan => some plan.volume.id

def Valid : Job → Prop
  | .request r => r.Valid
  | .recovery _ => True

/-- What becomes of a job that finds the name taken. -/
def refusal (id : String) : Job → Ending
  | .request _ => .answered (.error (Reservations.InProgress.mk id).status)
  | .recovery _ => .counted .skipped

def program (clusters : Clusters) (info : Info) (root : String) : Job → Program interface Ending
  | .request r => (r.answer clusters info).run.bind fun result => .done (.answered result)
  | .recovery plan => (recover root plan).bind fun outcome => .done (.counted outcome)

end Job

/-- The endings of those who are turned away. -/
def Ending.Refused : Ending → Prop
  | .answered (.ok _) => False
  | .answered (.error status) => status.code = .aborted
  | .counted outcome => outcome = .skipped

/-- How a job ends in a phase. -/
structure Job.Ends (job : Job) (id : String) (phase : Phase) (ending : Ending) : Prop where
  refused : phase = .refused → ending = job.refusal id
  only : ending.Refused → phase = .refused ∧ job.volumeId?.isSome
  asked : job.Valid → job.volumeId?.isSome → phase ≠ .waiting

theorem Job.heeds {clusters : Clusters} {info : Info} {root : String} {job : Job} {id : String}
    (about : ∀ other, job.volumeId? = some other → other = id) :
    Heeds locking id (job.Ends id) .waiting (job.program clusters info root) := by
  cases job with
  | request r =>
    have heeds : Heeds locking id (r.Ends id) .waiting (r.answer clusters info).run := by
      cases h : r.volumeId? with
      | none => exact r.heeds_none id h
      | some other => exact r.heeds (h.trans (by rw [about other h]))
    refine heeds.map fun phase result ends => ⟨fun h => ?_, fun h => ?_, ends.asked⟩
    · rw [ends.refused h, refusal]
    · match result, h with
      | .error status, h => exact ends.aborted status rfl h
  | recovery plan =>
    obtain rfl := about plan.volume.id rfl
    refine (recover_heeds root plan).map fun phase outcome ends => ⟨fun h => ?_, ?_, fun _ _ => ?_⟩
    · rw [ends.skipped.2 h, refusal]
    · exact fun h => ⟨ends.skipped.1 h, rfl⟩
    · exact ends.asked

/-- A job whose work takes time. -/
def Job.steps (clusters : Clusters) (info : Info) (root : String) (job : Job) :
    Program (stepwise interface) Ending :=
  (job.program clusters info root).via locking.steps

/-! ## Exclusion -/

/-- Jobs of one volume exclude each other, on the way that the trace tells. -/
structure Excluding {σ : Type} (handler : Handler (stepwise interface) σ)
    (reservations : σ → Reservations) (jobs : List Job)
    (tasks : List (Program (stepwise interface) Ending)) (s : σ)
    (trace : List (Nat × (stepwise interface).Call))
    (tasks' : List (Program (stepwise interface) Ending)) (s' : σ) : Prop where
  /-- The work of two jobs of one volume never interleaves. -/
  apart : ∀ i j a b id, i ≠ j → jobs[i]? = some a → jobs[j]? = some b →
    a.volumeId? = some id → b.volumeId? = some id → Apart locking.overSteps.IsWork i j trace
  /-- A valid job that is over has asked for its name. -/
  asks : ∀ i job id ending, jobs[i]? = some job → job.Valid → job.volumeId? = some id →
    tasks'[i]? = some (.done ending) →
      ∃ step, (i, step) ∈ trace ∧ locking.overSteps.role step = .reserve id
  /-- Who finds the name taken is turned away and does no work. -/
  refuses : ∀ i job id, jobs[i]? = some job → job.volumeId? = some id →
    TurnedAway locking.overSteps handler reservations tasks s trace i id →
      (∀ step, (i, step) ∈ trace → ¬ locking.overSteps.IsWork step) ∧
        ∀ ending, tasks'[i]? = some (.done ending) → ending = job.refusal id
  /-- Nobody else is turned away. -/
  only : ∀ i job ending, jobs[i]? = some job → tasks'[i]? = some (.done ending) →
    ending.Refused → ∃ id, job.volumeId? = some id ∧
      TurnedAway locking.overSteps handler reservations tasks s trace i id
  /-- When all are over no name is in use. -/
  free : (∀ task ∈ tasks', ∃ ending, task = .done ending) → (reservations s').names = []

section Exclusion

variable {clusters : Clusters} {info : Info} {root : String} {jobs : List Job}

theorem jobs_keeping (clusters : Clusters) (info : Info) (root : String) (jobs : List Job)
    {reservations : Reservations} (free : reservations.names = []) :
    Keeping locking.overSteps (nameAt Job.volumeId? jobs)
      (fun i phase ending => ∀ job, jobs[i]? = some job →
        job.Ends (nameAt Job.volumeId? jobs i) phase ending)
      (fun _ => .waiting) (jobs.map (Job.steps clusters info root)) reservations :=
  .start_map jobs free fun _ _ about => heeds_steps (Job.heeds about)

/-- **Exclusion.** However jobs that share the names in use take turns, those of one volume work one
after the other, who finds the name taken is turned away, and in the end no name is in use. -/
theorem jobs_exclude {σ : Type} {handler : Handler (stepwise interface) σ}
    {reservations : σ → Reservations} (law : Reserves locking.overSteps handler reservations)
    {s s' : σ} {trace : List (Nat × (stepwise interface).Call)}
    {tasks' : List (Program (stepwise interface) Ending)} (free : (reservations s).names = [])
    (h : Reaches handler (jobs.map (Job.steps clusters info root)) s trace tasks' s') :
    Excluding handler reservations jobs (jobs.map (Job.steps clusters info root)) s trace tasks'
      s' := by
  have keeping := jobs_keeping clusters info root jobs free
  obtain ⟨phases, keeping', passage⟩ := keeping.run law h
  constructor
  case apart =>
    intro i j a b id hij ha hb hida hidb
    exact keeping.apart law h hij ((nameAt_eq ha hida).trans (nameAt_eq hb hidb).symm)
  case asks =>
    intro i job id ending hjob valid about done
    have ends := (keeping'.heeds i _ done).2 job hjob
    rcases passage.asked i (ends.asked valid (by rw [about]; rfl)) with waits | ⟨step, hstep, role⟩
    · exact absurd rfl waits
    · rw [nameAt_eq hjob about] at role
      exact ⟨step, hstep, role⟩
  case refuses =>
    intro i job id hjob about turned
    rw [← nameAt_eq hjob about] at turned
    obtain ⟨idle, refused⟩ := keeping.turnedAway law h turned
    refine ⟨idle, fun ending done => ?_⟩
    rw [← nameAt_eq hjob about]
    exact (refused ending done job hjob).refused rfl
  case only =>
    intro i job ending hjob done refused
    obtain ⟨phase, hsome⟩ := ((keeping'.heeds i _ done).2 job hjob).only refused
    obtain ⟨id, about⟩ := Option.isSome_iff_exists.1 hsome
    rcases passage.refused i phase with waits | turned
    · cases waits
    · rw [nameAt_eq hjob about] at turned
      exact ⟨id, about, turned⟩
  case free => exact keeping'.free

end Exclusion

/-! A volume is staged, recovered and unstaged at once, where its staging path cannot be created. -/

def busyJobs : List Job :=
  [.request (.stage ⟨"v", "/s", some ⟨none, none⟩, [], []⟩),
    .recovery ⟨"pv", ⟨"v", "v", "1", "http://fcfs", 0, false⟩, [], [], []⟩,
    .request (.unstage ⟨"v", "/s"⟩)]

def busyMachine : Machine :=
  { Machine.ofBench .start with failures := { Mount.Failures.none with makeDir := [("/s", 13)] } }

theorem jobs_exclude_while_staging :
    let handler := handleSteps (Machine.handle Machine.fuseMount)
    let names := fun m : Machine => m.bench.reservations
    let tasks := busyJobs.map (Job.steps ⟨[]⟩ ⟨"n", 0, []⟩ "/k")
    let run := takeTurns handler [0, 0, 1, 0, 0, 1, 0, 0, 2, 2, 2, 2] tasks busyMachine
    Reserves locking.overSteps handler names ∧ (names busyMachine).names = [] ∧
    Reaches handler tasks busyMachine run.1 run.2.1 run.2.2 ∧
    run.2.1 = [.done (.answered (.error
        (MountPointError.makeDirectory "/s" .permissionDenied).status)),
      .done (.counted .skipped), .done (.answered (.ok .done))] ∧
    Apart locking.overSteps.IsWork 0 2 run.1 ∧
    TurnedAway locking.overSteps handler names tasks busyMachine run.1 1 "v" ∧
    (∀ step, (1, step) ∈ run.1 → ¬ locking.overSteps.IsWork step) ∧ (names run.2.2).names = [] := by
  intro handler names tasks run
  have law : Reserves locking.overSteps handler names :=
    (Machine.handle_reserves Machine.fuseMount_failsByMount).steps
  have reached : Reaches handler tasks busyMachine run.1 run.2.1 run.2.2 := reaches_takeTurns ..
  have ended : run.2.1 = [.done (.answered (.error
        (MountPointError.makeDirectory "/s" .permissionDenied).status)),
      .done (.counted .skipped), .done (.answered (.ok .done))] := rfl
  have excluding := jobs_exclude law rfl reached
  obtain ⟨id, about, turned⟩ := excluding.only 1 _ (.counted .skipped) rfl rfl rfl
  obtain rfl : "v" = id := Option.some.inj about
  refine ⟨law, rfl, reached, ended, excluding.apart 0 2 _ _ "v" (by decide) rfl rfl rfl rfl, turned,
    (excluding.refuses 1 _ "v" rfl rfl turned).1, excluding.free ?_⟩
  rw [ended]
  simp

end FuseVolumes.Recovery
