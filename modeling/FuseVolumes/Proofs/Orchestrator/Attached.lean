import FuseVolumes.Orchestrator.Reader
import FuseVolumes.Proofs.Orchestrator.Store

/-!
# Attached volumes

The volumes that a driver has attached to a node are found in two lists, which are joined by names.
A volume is among them if it is one of the driver's and some attachment that is done for the node
and the driver names it (`isAttached_attachedNames_iff`). So whatever surroundings list, the answer
is the list of volumes without the others, and nothing but the attachments that are done counts
(`attached_volumes_exact`).
-/

namespace FuseVolumes.Orchestrator

variable {σ τ : Type} {node driver : String} {attachments attachments' : List Attachment}
  {volumes : List PersistentVolume}

/-! ## Joining -/

/-- It is of this node and this driver, and the volume is attached by now. -/
def Attachment.Done (a : Attachment) (node driver : String) : Prop :=
  a.node = node ∧ a.attacher = driver ∧ a.attached = true

instance (a : Attachment) (node driver : String) : Decidable (a.Done node driver) :=
  inferInstanceAs (Decidable (_ ∧ _ ∧ _))

/-- A volume of the driver, which some attachment names that is done. -/
def PersistentVolume.AttachedBy (v : PersistentVolume) (attachments : List Attachment)
    (node driver : String) : Prop :=
  (∃ source ∈ v.source, source.driver = driver) ∧
    ∃ name ∈ v.name, ∃ a ∈ attachments, a.Done node driver ∧ a.volume = some name

instance (v : PersistentVolume) (attachments : List Attachment) (node driver : String) :
    Decidable (v.AttachedBy attachments node driver) :=
  inferInstanceAs (Decidable (_ ∧ _))

theorem mem_attachedNames_iff {name : String} :
    name ∈ Metadata.attachedNames attachments node driver ↔
      ∃ a ∈ attachments, a.Done node driver ∧ a.volume = some name := by
  simp only [Metadata.attachedNames, List.mem_filterMap, List.mem_filter, Bool.and_eq_true,
    beq_iff_eq, Attachment.Done, and_assoc]

theorem isAttached_attachedNames_iff {v : PersistentVolume} :
    Metadata.isAttached (Metadata.attachedNames attachments node driver) driver v = true ↔
      v.AttachedBy attachments node driver := by
  simp only [isAttached_iff, PersistentVolume.AttachedBy, mem_attachedNames_iff]

/-- Only attachments that are done count, however often and in whichever order they are there. -/
theorem attachedBy_congr (same : ∀ a : Attachment, a.Done node driver →
    (a ∈ attachments' ↔ a ∈ attachments)) (v : PersistentVolume) :
    v.AttachedBy attachments' node driver ↔ v.AttachedBy attachments node driver := by
  refine and_congr_right' (exists_congr fun name => and_congr_right' (exists_congr fun a => ?_))
  constructor
  · rintro ⟨mem, done, named⟩
    exact ⟨(same a done).1 mem, done, named⟩
  · rintro ⟨mem, done, named⟩
    exact ⟨(same a done).2 mem, done, named⟩

/-! ## Asking -/

/-- Surroundings that list these attachments when asked for them, and then these volumes. -/
def Lists (handler : Program.Handler interface σ) (s : σ) (attachments : List Attachment)
    (volumes : List PersistentVolume) : Prop :=
  ((ask .attachments).run handler s).1 = .ok attachments ∧
    ((ask .volumes).run handler ((ask .attachments).run handler s).2).1 = .ok volumes

/-- What is told of the volumes that a driver has attached to a node. -/
def attachedTo (node driver : String) (handler : Program.Handler interface σ) (s : σ) :
    Except Metadata.Error (List PersistentVolume) :=
  ((Metadata.attachedVolumes node driver).run.run handler s).1

/-- If no name is found, the volumes are not asked for; none of them would be attached. -/
theorem attachedTo_of_lists {handler : Program.Handler interface σ} {s : σ}
    (listed : Lists handler s attachments volumes) :
    attachedTo node driver handler s = .ok (volumes.filter
      (Metadata.isAttached (Metadata.attachedNames attachments node driver) driver)) := by
  obtain ⟨first, second⟩ := listed
  rw [attachedTo, Metadata.attachedVolumes, Program.run_bind_orFail_of_ok _ _ first]
  dsimp only
  split
  next empty =>
    have none : Metadata.attachedNames attachments node driver = [] := List.isEmpty_iff.1 empty
    rw [none, filter_isAttached_nil]
    rfl
  next =>
    rw [Program.run_bind_orFail_of_ok _ _ second]
    rfl

theorem attachedTo_eq {handler : Program.Handler interface σ} {s : σ}
    (listed : Lists handler s attachments volumes) : attachedTo node driver handler s =
      .ok (volumes.filter (·.AttachedBy attachments node driver)) := by
  rw [attachedTo_of_lists listed]
  refine congrArg Except.ok (List.filter_congr fun v _ => ?_)
  rw [Bool.eq_iff_iff, isAttached_attachedNames_iff, decide_eq_true_iff]

/-! ## Reading -/

theorem isTrue_iff {j : Json} : j.isTrue = true ↔ j = .bool true := by
  cases j <;> simp [Json.isTrue]

theorem object?_eq_some_iff {j inner : Json} {key : String} :
    j.object? key = some inner ↔ j.member key = inner ∧ inner.isObject = true := by
  rw [Json.object?]
  split
  next object =>
    rw [Option.some.injEq]
    exact ⟨fun same => ⟨same, same ▸ object⟩, And.left⟩
  next other =>
    refine iff_of_false nofun ?_
    rintro ⟨rfl, object⟩
    exact other object

/-- Only what is an object has members. -/
theorem member_member_eq_iff {j value : Json} {key key' : String} (given : value ≠ .null) :
    (j.member key).member key' = value ↔
      ∃ inner, j.object? key = some inner ∧ inner.member key' = value := by
  constructor
  · rintro rfl
    refine ⟨_, object?_eq_some_iff.2 ⟨rfl, ?_⟩, rfl⟩
    cases h : j.member key with
    | object members => rfl
    | null | bool | number | string | array =>
      rw [h] at given
      exact absurd rfl given
  · rintro ⟨inner, found, rfl⟩
    rw [(object?_eq_some_iff.1 found).1]

/-- Without a status, or without the flag in it, nothing is attached yet. -/
theorem attached_attachment_iff {j : Json} : (Reader.attachment j).attached = true ↔
    ∃ status, j.object? "status" = some status ∧ status.member "attached" = .bool true :=
  isTrue_iff.trans (member_member_eq_iff nofun)

theorem source_persistentVolume_eq_some_iff {j : Json} {source : DriverSource} :
    (Reader.persistentVolume j).source = some source ↔
      ∃ spec csi, j.object? "spec" = some spec ∧ spec.object? "csi" = some csi ∧
        source = Reader.source csi := by
  change ((j.member "spec").object? "csi").map Reader.source = some source ↔ _
  rw [Option.map_eq_some_iff]
  constructor
  · rintro ⟨csi, found, rfl⟩
    obtain ⟨found, object⟩ := object?_eq_some_iff.1 found
    have given : csi ≠ .null := by
      rintro rfl
      cases object
    obtain ⟨spec, outer, inner⟩ := (member_member_eq_iff given).1 found
    exact ⟨spec, csi, outer, object?_eq_some_iff.2 ⟨inner, object⟩, rfl⟩
  · rintro ⟨spec, csi, outer, inner, rfl⟩
    rw [(object?_eq_some_iff.1 outer).1]
    exact ⟨csi, inner, rfl⟩

/-- **Attached.** If attachments and volumes are listed, the answer is all volumes of the driver
that an attachment names which is done, in their order and as often as they are there. In which
order and how often the attachments are there makes no difference, and neither do those that are of
another node or driver or not done. Done are those with a status that says so, and a volume is of
the driver if its specification has a source of the driver. -/
theorem attached_volumes_exact (node driver : String) {handler : Program.Handler interface σ}
    {s : σ} {attachments : List Attachment} {volumes : List PersistentVolume}
    (listed : Lists handler s attachments volumes) :
    attachedTo node driver handler s =
      .ok (volumes.filter (·.AttachedBy attachments node driver)) ∧
    (∀ (τ : Type) (handler' : Program.Handler interface τ) (t : τ) (attachments' : List Attachment),
      Lists handler' t attachments' volumes →
      (∀ a : Attachment, a.Done node driver → (a ∈ attachments' ↔ a ∈ attachments)) →
      attachedTo node driver handler' t = attachedTo node driver handler s) ∧
    (∀ j : Json, (Reader.attachment j).attached = true ↔
      ∃ status, j.object? "status" = some status ∧ status.member "attached" = .bool true) ∧
    ∀ (j : Json) (source : DriverSource), (Reader.persistentVolume j).source = some source ↔
      ∃ spec csi, j.object? "spec" = some spec ∧ spec.object? "csi" = some csi ∧
        source = Reader.source csi := by
  refine ⟨attachedTo_eq listed, ?_, fun _ => attached_attachment_iff,
    fun _ _ => source_persistentVolume_eq_some_iff⟩
  intro τ handler' t attachments' listed' same
  rw [attachedTo_eq listed, attachedTo_eq listed']
  simp only [attachedBy_congr same]

/-- Of volumes that are listed twice, have no name, or are of another driver, on another node or not
attached yet, one is left, twice. It still is if attachments are repeated, told in another order, or
left out if they do not count. -/
theorem attached_volumes_exact_in_other_order :
    ∃ (s t : Session) (v : PersistentVolume) (attachments : List Attachment)
      (volumes : List PersistentVolume),
      Lists handle s attachments volumes ∧ volumes.length = 8 ∧
      v.AttachedBy attachments "n" "d" ∧ s.store.attachments ≠ t.store.attachments ∧
      attachedTo "n" "d" handle s = .ok [v, v] ∧
      attachedTo "n" "d" handle t = attachedTo "n" "d" handle s := by
  let source (driver : String) : DriverSource := ⟨driver, "", [], none⟩
  let volume (name : Option String) (source : Option DriverSource) : PersistentVolume :=
    ⟨name, source, none, none, []⟩
  let v := volume (some "a") (some (source "d"))
  let volumes := [volume (some "b") (some (source "d")), v, volume (some "a") none,
    volume (some "c") (some (source "d")), v, volume none (some (source "d")),
    volume (some "a") (some (source "e")), volume (some "e") (some (source "d"))]
  let attachments : List Attachment := [⟨"n", "d", some "b", false⟩, ⟨"n", "d", some "a", false⟩,
    ⟨"m", "d", some "c", true⟩, ⟨"n", "d", some "a", true⟩, ⟨"n", "e", some "e", true⟩,
    ⟨"n", "d", none, true⟩]
  let attachments' : List Attachment := [⟨"n", "d", none, true⟩, ⟨"n", "d", some "a", true⟩,
    ⟨"m", "d", some "a", true⟩, ⟨"n", "d", some "a", true⟩]
  let session (attachments : List Attachment) : Session :=
    ⟨⟨[], attachments.map some, volumes.map some, [], [], [], [], []⟩, [], []⟩
  have listed : Lists handle (session attachments) attachments volumes := ⟨rfl, rfl⟩
  have listed' : Lists handle (session attachments') attachments' volumes := ⟨rfl, rfl⟩
  obtain ⟨answer, alike, -, -⟩ := attached_volumes_exact "n" "d" listed
  refine ⟨session attachments, session attachments', v, attachments, volumes, listed, rfl,
    by decide, by decide, ?_, alike _ _ _ _ listed' ?_⟩
  · rw [answer]
    refine congrArg Except.ok ?_
    decide
  · rintro ⟨node, attacher, name, attached⟩ ⟨rfl, rfl, rfl⟩
    simp [attachments, attachments', or_comm]

end FuseVolumes.Orchestrator
