import FuseVolumes.Proofs.Controller.Granted
import FuseVolumes.Proofs.Engine.Exchanges

/-!
# Sizes that are sent and told

A volume is created with its size rounded up, and expanded to the size that is asked for. Both are
the same number of GiB (`Service.create_obeys`, `Service.expand_obeys`), and the answer tells of the
size rounded up. So the quota holds the size in the answer, which holds the one that is asked for,
and up to the last whole GiB the first two are equal (`quota_holds_capacity`).
-/

namespace FuseVolumes

open Program

namespace Engine

/-! ## Commands that give a quota -/

/-- The quota that an order gives. -/
def Order.gib? : Order → Option Int
  | .create _ n | .quota _ n => some n
  | .delete _ | .plist _ _ => none

/-- A command of the pool tool that gives this quota, if any. -/
def Gives (quota : Int) (program : String) (arguments : List String) : Prop :=
  program = poolTool ∧ ∃ (order : Order) (user key url : String),
    arguments = order.arguments user key url ∧ ∀ n, order.gib? = some n → n = quota

/-- Nothing is run but commands that give this quota, if any. -/
def Sends (quota : Int) : Call → Prop
  | .run program arguments => Gives quota program arguments
  | .reserve _ | .release _ | .log _ | .makeDirectories _ | .stageKey _ _ | .dropKey _
  | .forward _ _ => True

namespace Pool

variable {fair : (call : Call) → call.Reply → Prop} {v : Volume} {c : Credentials} {quota : Int}

theorem create_sends (same : Capacity.wholeGib v.capacity = quota) :
    (create v c).run.Within (Sends quota) := by
  rw [create_eq]
  refine judge_obeys ⟨rfl, .create v.name (Capacity.wholeGib v.capacity), _, _, _, rfl, ?_⟩
    (fun _ => trivial) fun _ => trivial
  rintro n ⟨⟩
  exact same

theorem exists_sends : (exists? v c).run.Within (Sends quota) := by
  rw [exists_eq]
  exact judge_obeys ⟨rfl, .plist c.user v.name, _, _, _, rfl, nofun⟩ (fun _ => trivial)
    fun _ => trivial

theorem delete_sends : (delete v c).run.Within (Sends quota) := by
  rw [delete_eq]
  exact judge_obeys ⟨rfl, .delete v.name, _, _, _, rfl, nofun⟩ (fun _ => trivial) fun _ => trivial

theorem resize_sends (same : Capacity.wholeGib v.capacity = quota) :
    (resize v c).run.Obeys (I := interface) fair (Sends quota) fun result =>
      ∀ capacity, result = .ok capacity → capacity = Capacity.roundUp v.capacity := by
  rw [resize_eq]
  refine judge_obeys ⟨rfl, .quota v.name (Capacity.wholeGib v.capacity), _, _, _, rfl, ?_⟩
    (fun _ => trivial) fun reply capacity told => ?_
  · rintro n ⟨⟩
    exact same
  · cases reply with
    | error fault => cases told
    | ok output =>
      cases success : output.success with
      | true =>
        simp only [judged, success, if_true, Except.ok.injEq] at told
        exact told.symm
      | false => simp [judged, success] at told

end Pool

end Engine

namespace Controller

open Engine (Sends Work exchanges)

/-- If the answer tells of a capacity, it is this one. -/
def Tells {α : Type} (capacity? : α → Option Int) (capacity : Int) (result : Except Status α) :
    Prop :=
  ∀ answer told, result = .ok answer → capacity? answer = some told → told = capacity

theorem Tells.error {α : Type} {capacity? : α → Option Int} {capacity : Int} (e : Status) :
    Tells capacity? capacity (.error e) := nofun

/-! ## Services -/

namespace Service

variable {fair : (call : Engine.Call) → call.Reply → Prop} (clusters : Clusters)

theorem provide_sends (v : Volume) (c : Credentials) :
    (provide v c).run.Within (Sends (Capacity.wholeGib v.capacity)) := by
  refine within_run_bind (within_orFail Engine.Pool.exists_sends) fun found => ?_
  split
  · exact within_run_bind (within_orFail (Engine.Pool.create_sends rfl)) fun _ =>
      ⟨trivial, fun _ _ => trivial⟩
  · trivial

/-- A volume is created with the quota that is asked for, and the answer tells of its size. -/
theorem create_obeys (r : CreateRequest) :
    (create clusters r).run.Obeys (I := Engine.interface) (fun _ _ => True)
      (Sends (Request.create r).gib)
      (Tells (some ·.capacity) (Capacity.roundUp (Request.create r).required)) := by
  rcases create_cases clusters r with ⟨message, refused⟩ | granted
  · rw [refused]
    exact .error _
  rw [granted]
  refine Engine.withCredentials_obeys (fun _ _ => trivial) (fun _ => trivial) (fun e => .error _)
    fun c => Engine.reserving_obeys trivial trivial (.error _) ?_
  unfold createExclusively
  split
  · exact .error _
  next v made =>
    have size : v.capacity = Capacity.roundUp (Request.create r).required :=
      (Volume.known_of_ofRequest made).2
    have sends := provide_sends v c
    rw [size] at sends
    refine obeys_run_bind sends (fun _ _ => ?_) fun e _ => .error e
    rintro _ told ⟨⟩ ⟨⟩
    rfl

/-- A volume is expanded to as many GiB as hold the size that is asked for, and the answer tells of
that size rounded up. -/
theorem expand_obeys {r : ExpandRequest} (size : (Request.expand r).required ≤ Capacity.maxBytes) :
    (expand clusters r).run.Obeys (I := Engine.interface) (fun _ _ => True)
      (Sends (Request.expand r).gib)
      (Tells (some ·.capacity) (Capacity.roundUp (Request.expand r).required)) := by
  rcases expand_cases clusters r with ⟨message, refused⟩ | ⟨required, ⟨given, positive⟩, granted⟩
  · rw [refused]
    exact .error _
  have asked : (Request.expand r).required = required := by
    rw [Request.required, given, Option.getD_some]
  rw [asked] at size ⊢
  rw [granted]
  refine Engine.reserving_obeys trivial trivial (.error _) <|
    Engine.withCredentials_obeys (fun _ _ => trivial) (fun _ => trivial) (fun e => .error _)
      fun c => ?_
  unfold expandExclusively
  split
  · exact .error _
  next v made =>
    have exact : v.capacity = required := (Volume.known_of_ofHandle made).2
    -- The size is not rounded before it is sent. It needs as many GiB as if it were.
    have same : Capacity.wholeGib v.capacity = (Request.expand r).gib := by
      rw [exact, Request.gib, asked, Capacity.wholeGib_roundUp_of_pos size positive]
    have resized : (onPool (Engine.Pool.resize v c)).run.Obeys (I := Engine.interface)
        (fun _ _ => True) (Sends (Request.expand r).gib)
        fun result => ∀ capacity, result = .ok capacity → capacity = Capacity.roundUp required := by
      refine obeys_bind (Engine.Pool.resize_sends same) fun result told capacity granted => ?_
      rw [← exact]
      exact told capacity (mapError_eq_ok_iff.1 granted)
    refine obeys_run_bind resized (fun capacity told => ⟨trivial, fun _ _ => ?_⟩) fun e _ => .error e
    rintro _ _ ⟨⟩ ⟨⟩
    exact told capacity rfl

theorem delete_sends (r : DeleteRequest) (quota : Int) :
    (delete clusters r).run.Within (Sends quota) := by
  rcases delete_cases clusters r with ⟨message, refused⟩ | granted
  · rw [refused]
    trivial
  rw [granted]
  refine Engine.withCredentials_within (fun _ _ => trivial) (fun _ => trivial) fun c =>
    Engine.reserving_within trivial trivial ?_
  unfold deleteExclusively
  split
  · exact ⟨trivial, fun _ _ => trivial⟩
  · trivial
  · exact within_run_bind (within_orFail Engine.Pool.delete_sends) fun _ =>
      ⟨trivial, fun _ _ => trivial⟩

end Service

/-! ## Requests -/

namespace Request

/-- The answer tells of the capacity that work ends in. -/
theorem told_obeys {α : Type} {work : Work Status α} {answer : α → Answer} {capacity : α → Int}
    {allowed : Engine.Call → Prop} {wanted : Int}
    (tells : ∀ a, (answer a).capacity? = some (capacity a))
    (h : work.run.Obeys (I := Engine.interface) (fun _ _ => True) allowed
      (Tells (some <| capacity ·) wanted)) :
    (do return answer (← work) : Work Status Answer).run.Obeys (I := Engine.interface)
      (fun _ _ => True) allowed (Tells Answer.capacity? wanted) := by
  refine obeys_run_bind h (fun a told => ?_) fun e _ => .error e
  rintro _ capacity' ⟨⟩ same
  rw [tells] at same
  exact told a capacity' rfl same

/-- **Sizes.** All quotas that a request sends and the capacity in its answer are those that follow
from the size it asks for. -/
theorem answer_obeys (clusters : Clusters) {r : Request} (size : r.required ≤ Capacity.maxBytes) :
    (r.answer clusters).run.Obeys (I := Engine.interface) (fun _ _ => True) (Sends r.gib)
      (Tells Answer.capacity? (Capacity.roundUp r.required)) := by
  cases r with
  | create r => exact told_obeys (fun _ => rfl) (Service.create_obeys clusters r)
  | expand r => exact told_obeys (fun _ => rfl) (Service.expand_obeys clusters size)
  | delete r =>
    refine obeys_run_bind (Service.delete_sends clusters r _) (fun _ _ => ?_) fun e _ => .error e
    rintro _ _ ⟨⟩ ⟨⟩
  | validate r =>
    have untold (answer : Validated) :
        Tells Answer.capacity? (Capacity.roundUp 0) (.ok (.validated answer)) := by
      rintro _ _ ⟨⟩ ⟨⟩
    rcases Service.validate_cases r with ⟨message, refused⟩ | ⟨answer, given⟩
    · rw [Request.answer, refused]
      exact Tells.error _
    · rw [Request.answer, given]
      exact untold answer
  | capabilities => rintro _ _ ⟨⟩ ⟨⟩
  | other => exact .error _

end Request

/-- **Quotas and capacities.** Rounding a size of 64 bits has no step that overflows. Rounding up
gives the least whole number of GiB that holds the size and one GiB at least, or the largest size if
there is no such one, and nothing is left to round up afterwards. Neither the size in GiB nor the
one that is rounded up is less for a greater size. All quotas that a request sends, and the capacity
in its answer, are those of the rounded size. So the quota holds the capacity, the capacity holds
what is asked for and a GiB at least, and up to the last whole GiB the quota is the capacity. -/
theorem quota_holds_capacity (clusters : Clusters) :
    (∀ bytes, Capacity.IsSize bytes →
      Capacity.wholeGib? bytes = some (Capacity.wholeGib bytes) ∧
      Capacity.roundUp? bytes = some (Capacity.roundUp bytes) ∧
      (∃ least, IsLeast {n | Capacity.gib ∣ n ∧ max bytes Capacity.gib ≤ n} least ∧
        Capacity.roundUp bytes = if Capacity.IsSize least then least else 2 ^ 63 - 1) ∧
      Capacity.roundUp (Capacity.roundUp bytes) = Capacity.roundUp bytes ∧
      Capacity.wholeGib (Capacity.roundUp bytes) = max 1 (Capacity.wholeGib bytes)) ∧
    (∀ bytes bytes', bytes ≤ bytes' → Capacity.wholeGib bytes ≤ Capacity.wholeGib bytes' ∧
      Capacity.roundUp bytes ≤ Capacity.roundUp bytes') ∧
    ∀ r : Request, Capacity.IsSize r.required →
      let capacity := Capacity.roundUp r.required
      let quota := Capacity.wholeGib capacity
      (∀ (σ : Type) (handler : Handler Engine.interface σ) (s : σ),
        (∀ x ∈ exchanges handler (r.answer clusters).run s,
          Engine.Gives quota x.program x.arguments) ∧
        ∀ answer told, ((r.answer clusters).run.run handler s).1 = .ok answer →
          answer.capacity? = some told → told = capacity) ∧
      max r.required Capacity.gib ≤ capacity ∧ capacity ≤ quota * Capacity.gib ∧
      (r.required ≤ 2 ^ 63 - 2 ^ 30 → capacity = quota * Capacity.gib) := by
  refine ⟨fun bytes size => ⟨Capacity.wholeGib?_eq size, Capacity.roundUp?_eq size,
    ⟨_, Capacity.isLeast_roundedGib bytes, Capacity.roundUp_eq_ite bytes⟩,
    Capacity.roundUp_roundUp bytes, ?_⟩,
    fun _ _ less => ⟨Capacity.wholeGib_mono less, Capacity.roundUp_mono less⟩, ?_⟩
  · rw [Capacity.wholeGib_roundUp size.2, Capacity.roundedGib, max_comm]
  · intro r size capacity quota
    have obeys := r.answer_obeys clusters size.2
    refine ⟨fun σ handler s => ⟨fun x sent => ?_, ?_⟩, Capacity.max_le_roundUp size.2,
      Capacity.le_wholeGib_mul _, fun whole => (Capacity.wholeGib_roundUp_mul whole).symm⟩
    · have within : (r.answer clusters).run.Within (Sends quota) :=
        obeys.mono (fun _ _ h => h) (fun _ h => h) fun _ _ => trivial
      exact Engine.allowed_of_mem_exchanges within sent
    · have ended := obeys.mono (fun _ _ h => h) (fun _ _ => trivial) fun _ h => h
      exact ended.answer handler s

/-! A volume is expanded up to the last whole GiB, and one is created that needs a GiB beyond. -/

/-- The words of the commands of one more request, without those that are the same for all. -/
def commandsAfter (requests : List Request) (r : Request) : List (List String) :=
  (exchanges Engine.quiet.keeper (r.answer oneCluster).run (leftBy requests)).map
    (·.arguments.drop 6)

theorem quota_holds_capacity_at_limit :
    let last := 8589934591 * Capacity.gib
    commandsAfter [creationOf 1] (expansionOf last) =
      [["quota", "csi-vol-pvc-1", "8589934591g"]] ∧
    toldAfter [creationOf 1] (expansionOf last) = some last ∧
    (∀ told, toldAfter [creationOf 1] (expansionOf last) = some told → told = last) ∧
    commandsAfter [] (creationOf (last + 1)) =
      [["plist", "admin", "csi-vol-pvc-1"], ["create", "csi-vol-pvc-1", "8589934592g"]] ∧
    toldAfter [] (creationOf (last + 1)) = some (2 ^ 63 - 1) ∧
    (∀ told, toldAfter [] (creationOf (last + 1)) = some told →
      last + 1 ≤ told ∧ told ≤ 8589934592 * Capacity.gib) ∧
    Capacity.roundUp? (last + 1) = some (2 ^ 63 - 1) := by
  intro last
  obtain ⟨sizes, -, requests⟩ := quota_holds_capacity oneCluster
  obtain ⟨runs, -, -, whole⟩ := requests (expansionOf last) (by decide)
  obtain ⟨runs', holds, held, -⟩ := requests (creationOf (last + 1)) (by decide)
  obtain ⟨-, rounded, -⟩ := sizes (last + 1) (by decide)
  refine ⟨by decide +kernel, by decide +kernel, fun told h => ?_, by decide +kernel,
    by decide +kernel, fun told h => ?_, rounded⟩
  · obtain ⟨answer, answered, capacity⟩ := exists_of_told h
    rw [(runs _ _ _).2 answer told answered capacity]
    exact whole (by decide)
  · obtain ⟨answer, answered, capacity⟩ := exists_of_told h
    rw [(runs' _ _ _).2 answer told answered capacity]
    exact ⟨(le_max_left _ _).trans holds, held⟩

end Controller

end FuseVolumes
