import FuseVolumes.Engine.Bench
import FuseVolumes.Engine.Pool
import FuseVolumes.Proofs.Program.Overlap

/-!
# Commands under names

The commands of the tools are the work that is done under a name (`locking`). A bench keeps the
names in use (`Bench.handle_reserves`), and so do surroundings where nothing fails and nothing else
is kept (`smooth`). Work on the pool runs commands for its volume only and leaves a task with its
name (`Pool.Uses`).
-/

namespace FuseVolumes.Engine

open Program

/-! ## Names in calls -/

/-- Commands are work; files, events and forwarded mounts are not. -/
def Call.role : Call → Role
  | .reserve name => .reserve name
  | .release name => .release name
  | .run _ _ => .work
  | .log _ | .makeDirectories _ | .stageKey _ _ | .dropKey _ | .forward _ _ => .aside

def locking : Locking interface where
  role := Call.role
  grants
    | .reserve _, taken => taken
    | _, _ => false

/-- What keeps the names in use: a name is granted and given back as the book of names has it, and
nothing else is noted there. -/
theorem reserves_of_book {σ : Type} {handler : Handler interface σ}
    {reservations : σ → Reservations}
    (granted : ∀ name s,
      (handler (.reserve name) s).1 = ((reservations s).tryAcquire name).1)
    (reserved : ∀ name s,
      reservations (handler (.reserve name) s).2 = ((reservations s).tryAcquire name).2)
    (released : ∀ name s,
      reservations (handler (.release name) s).2 = (reservations s).release name)
    (spared : ∀ call s, call.role = .work ∨ call.role = .aside →
      reservations (handler call s).2 = reservations s) :
    Reserves locking handler reservations where
  grants call s name role := by
    cases call <;> cases role
    simp only [locking, granted, Reservations.tryAcquire]
    split <;> simp_all
  acquires call s name role := by
    cases call <;> cases role
    exact reserved name s
  releases call s name role := by
    cases call <;> cases role
    exact released name s
  spares := spared

/-- A bench keeps the names in use. -/
theorem Bench.handle_reserves :
    Reserves locking (Bench.handle Bench.recorded Bench.strangers) Bench.reservations := by
  refine reserves_of_book (fun _ _ => rfl) (fun _ _ => rfl) (fun _ _ => rfl) fun call b role => ?_
  cases call with
  | reserve name | release name => rcases role with role | role <;> cases role
  | run program arguments =>
    simp only [Bench.handle, Bench.recorded]
    split <;> rfl
  | log event | makeDirectories path | stageKey directory key | dropKey file
  | forward endpoint request => rfl

/-- Nothing fails, and names are all there is to keep. -/
def smooth : Handler interface Reservations
  | .reserve name, r => r.tryAcquire name
  | .release name, r => ((), r.release name)
  | .log _, r => ((), r)
  | .makeDirectories _, r => (.ok (), r)
  | .stageKey _ _, r => (.ok "", r)
  | .dropKey _, r => ((), r)
  | .run _ _, r => (.ok ⟨some 0, ""⟩, r)
  | .forward _ _, r => (.ok "", r)

theorem smooth_steady : Steady locking smooth where
  reserves := by
    refine reserves_of_book (fun _ _ => rfl) (fun _ _ => rfl) (fun _ _ => rfl) fun call r role => ?_
    cases call with
    | reserve name | release name => rcases role with role | role <;> cases role
    | log event | makeDirectories path | stageKey directory key | dropKey file
    | run program arguments | forward endpoint request => rfl
  replies call r r' same := by
    cases call with
    | reserve name =>
      have taken := same name rfl
      simp only [smooth, Reservations.tryAcquire, taken]
      split <;> rfl
    | release name | log event | makeDirectories path | stageKey directory key | dropKey file
    | run program arguments | forward endpoint request => rfl

/-! ## Work as a tree -/

section Runs

variable {ε α : Type}

/-- The name is asked for first, and given back last. -/
theorem reserving_run (name : String) (taken : ε) (work : Work ε α) :
    (reserving name taken work).run = .ask (I := interface) (.reserve name) fun
      | true => work.run.bind fun result =>
        .ask (I := interface) (.release name) fun _ => .done result
      | false => .done (.error taken) := by
  change Program.ask _ _ = Program.ask _ _
  congr 1
  funext granted
  cases granted <;> rfl

/-- The key is staged for the work and dropped after it. -/
theorem withCredentials_run (kind : Credentials.Kind) (secrets : Dict)
    (words : Credentials.Error → ε) (work : Credentials → Work ε α) :
    (withCredentials kind secrets words work).run = match Credentials.select kind secrets with
      | .error e => .done (.error (words e))
      | .ok (user, key) =>
        .ask (I := interface) (.stageKey Credentials.keyDirectory key) fun
          | .error fault => .done (.error (words (.keyFile Credentials.keyDirectory fault)))
          | .ok file => (work ⟨user, file⟩).run.bind fun result =>
            .ask (I := interface) (.dropKey file) fun _ => .done result := by
  rw [withCredentials, openCredentials]
  cases Credentials.select kind secrets with
  | error e => rfl
  | ok pair =>
    change Program.ask _ _ = Program.ask _ _
    congr 1
    funext reply
    cases reply <;> rfl

section Obeys

variable {fair : (call : Call) → call.Reply → Prop} {allowed : Call → Prop}
  {wanted : Except ε α → Prop} {name : String} {taken : ε} {work : Work ε α}
  {kind : Credentials.Kind} {secrets : Dict} {words : Credentials.Error → ε}

/-- Work under a name asks for no more than the work and the name, and ends as the work does
unless the name is taken. -/
theorem reserving_obeys (reserve : allowed (.reserve name)) (release : allowed (.release name))
    (refused : wanted (.error taken)) (h : work.run.Obeys (I := interface) fair allowed wanted) :
    (reserving name taken work).run.Obeys (I := interface) fair allowed wanted := by
  rw [reserving_run]
  refine ⟨reserve, fun granted _ => ?_⟩
  cases granted with
  | true => exact obeys_bind h fun _ told => ⟨release, fun _ _ => told⟩
  | false => exact refused

theorem reserving_within (reserve : allowed (.reserve name)) (release : allowed (.release name))
    (h : work.run.Within allowed) : (reserving name taken work).run.Within allowed :=
  reserving_obeys reserve release trivial h

/-- Work with credentials asks for no more than the work and a key file, and ends as the work does
unless there are no credentials. -/
theorem withCredentials_obeys {work : Credentials → Work ε α}
    (stage : ∀ directory key, allowed (.stageKey directory key))
    (drop : ∀ file, allowed (.dropKey file)) (refused : ∀ e, wanted (.error (words e)))
    (h : ∀ c, (work c).run.Obeys (I := interface) fair allowed wanted) :
    (withCredentials kind secrets words work).run.Obeys (I := interface) fair allowed wanted := by
  rw [withCredentials_run]
  match Credentials.select kind secrets with
  | .error e => exact refused e
  | .ok (user, key) =>
    refine ⟨stage _ _, fun reply _ => ?_⟩
    match reply with
    | .error fault => exact refused _
    | .ok file => exact obeys_bind (h _) fun _ told => ⟨drop _, fun _ _ => told⟩

theorem withCredentials_within {work : Credentials → Work ε α}
    (stage : ∀ directory key, allowed (.stageKey directory key))
    (drop : ∀ file, allowed (.dropKey file)) (h : ∀ c, (work c).run.Within allowed) :
    (withCredentials kind secrets words work).run.Within allowed :=
  withCredentials_obeys stage drop (fun _ => trivial) h

end Obeys

end Runs

/-! ## Work on the pool -/

/-- Requests that leave a task with its name. -/
def Stays : Call → Prop := locking.Stays .holding

namespace Pool

/-- Commands for volumes of a kind, and what is logged about them. -/
def Uses (about : Volume → Prop) : Call → Prop
  | .run program arguments => ∃ v c operation operands, about v ∧ program = poolTool ∧
    arguments = Pool.arguments v c operation operands
  | .log _ => True
  | _ => False

variable {about : Volume → Prop}

theorem Uses.stays {call : Call} (h : Uses about call) : Stays call := by
  cases call with
  | run program arguments => exact .inr ⟨rfl, rfl⟩
  | log event => exact .inl rfl
  | reserve name | release name | makeDirectories path | stageKey directory key | dropKey file
  | forward endpoint request => exact h.elim

section Verbs

variable {v : Volume} {c : Credentials} (h : about v)
include h

theorem run_uses (operation : Operation) (operands : List String) :
    (run v c operation operands).run.Within (Uses about) :=
  within_orFail (within_request ⟨v, c, operation, operands, h, rfl, rfl⟩)

omit h in
theorem fail_uses {α : Type} (operation : Operation) (output : Output) :
    (fail v operation output : Work Error α).run.Within (Uses about) :=
  ⟨trivial, fun _ _ => trivial⟩

theorem create_uses : (create v c).run.Within (Uses about) := by
  refine within_run_bind (run_uses h _ _) fun output => ?_
  split
  · exact fail_uses _ _
  · trivial

theorem exists_uses : (exists? v c).run.Within (Uses about) := by
  refine within_run_bind (run_uses h _ _) fun output => ?_
  split
  · trivial
  · split
    · exact fail_uses _ _
    · trivial

theorem delete_uses : (delete v c).run.Within (Uses about) := by
  refine within_run_bind (run_uses h _ _) fun output => ?_
  split
  · exact fail_uses _ _
  · trivial

theorem resize_uses : (resize v c).run.Within (Uses about) := by
  refine within_run_bind (run_uses h _ _) fun output => ?_
  split
  · exact fail_uses _ _
  · trivial

end Verbs

end Pool

end FuseVolumes.Engine
