import FuseVolumes.Proofs.Mount.Options
import FuseVolumes.Proofs.Node.Source

/-!
# What publishing binds

A request to publish binds nothing unless it is valid, and then the staging path on the target path
with the options of the request (`publish_asks_bindMount_iff`): those that are asked for
(`mem_publishOptions`), none of them twice (`nodup_publishOptions`).
-/

namespace FuseVolumes.Node

open Program

variable {α : Type} {source target : String} {options : List String} {q : PublishRequest}

/-- A path may turn out to have no mount that answers. -/
theorem MountPoint.ensure_answers_false (path : String) :
    (ensure path).run.Answers (.ok false) := by
  rw [ensure_run]
  exact ⟨.ok false, rfl⟩

namespace Service

theorem nodup_publishOptions (flags : List String) (readOnly : Bool) :
    (publishOptions flags readOnly).Nodup := by
  have distinct := Mount.nodup_unionOptions Mount.bindOptions flags
  rw [publishOptions]
  split
  next missing =>
    have new : "ro" ∉ Mount.unionOptions Mount.bindOptions flags := by
      simpa using (Bool.and_eq_true_iff.1 missing).2
    grind [List.nodup_append]
  next => exact distinct

/-- The options are those of every bind mount, the flags, and read-only if it is asked for. -/
theorem mem_publishOptions {flags : List String} {readOnly : Bool} {o : String} :
    o ∈ publishOptions flags readOnly ↔
      o ∈ Mount.bindOptions ∨ o ∈ flags ∨ readOnly = true ∧ o = "ro" := by
  rw [publishOptions, ← or_assoc, ← Mount.mem_unionOptions]
  cases readOnly with
  | false => simp
  | true =>
    by_cases said : "ro" ∈ Mount.unionOptions Mount.bindOptions flags
    · have there : o = "ro" → o ∈ Mount.unionOptions Mount.bindOptions flags := by
        rintro rfl
        exact said
      simpa [said] using there
    · simp [said]

/-- The name of a volume makes no difference to what is bound under it. -/
theorem exclusively_asks_bindMount_iff {volumeId : String} {work : Work Status α} :
    (exclusively volumeId work).run.Asks (.bindMount source target options) ↔
      work.run.Asks (.bindMount source target options) := by
  have released (result : Except Status α) : ¬ (Program.ask (I := interface) (.release volumeId)
      fun _ => .done result).Asks (.bindMount source target options) := by
    simp [asks_ask_iff, not_asks_done]
  rw [exclusively_run, asks_ask_iff]
  constructor
  · rintro (h | ⟨taken, h⟩)
    · cases h
    · cases taken with
      | false => exact absurd h (not_asks_done _ _)
      | true =>
        rcases asks_bind_iff.1 h with h | ⟨result, -, h⟩
        · exact h
        · exact absurd h (released result)
  · intro h
    exact .inr ⟨true, asks_bind_iff.2 (.inl h)⟩

theorem publishExclusively_asks_bindMount_iff :
    (publishExclusively q).run.Asks (.bindMount source target options) ↔
      source = q.stagingPath ∧ target = q.targetPath ∧
        options = publishOptions (mountFlags q.capability) q.readOnly := by
  have ready : ¬ (atMountPoint (MountPoint.ensure q.targetPath)).run.Asks
      (.bindMount source target options) :=
    (within_orFail (MountPoint.ensure_bindless q.targetPath)).not_asks id
  rw [publishExclusively_eq, asks_run_bind_iff, or_iff_right ready]
  constructor
  · rintro ⟨found, -, h⟩
    cases found with
    | true => exact absurd h (not_asks_done _ _)
    | false =>
      rcases asks_ask_iff.1 h with h | ⟨reply, h⟩
      · cases h
        exact ⟨rfl, rfl, rfl⟩
      · exact absurd h ((concludePublish_bindless q reply).not_asks id)
  · rintro ⟨rfl, rfl, rfl⟩
    exact ⟨false, answers_orFail_ok (MountPoint.ensure_answers_false _), .here _ _⟩

end Service

/-- A request to publish binds the staging path on the target path, if it is valid. -/
theorem publish_asks_bindMount_iff {clusters : Clusters} {info : Info} :
    ((Request.publish q).answer clusters info).run.Asks (.bindMount source target options) ↔
      (Request.publish q).Valid ∧ source = q.stagingPath ∧ target = q.targetPath ∧
        options = Service.publishOptions (Service.mountFlags q.capability) q.readOnly := by
  by_cases valid : (Request.publish q).Valid
  · rw [Request.answer_of_valid valid rfl, Service.exclusively_asks_bindMount_iff,
      and_iff_right valid]
    have last : ((Request.publish q).work clusters info).run.Asks
        (.bindMount source target options) ↔
          (Service.publishExclusively q).run.Asks (.bindMount source target options) :=
      asks_run_bind_iff_of_last fun _ => not_asks_done _ _
    exact last.trans Service.publishExclusively_asks_bindMount_iff
  · obtain ⟨message, refused⟩ : Service.Refuses ((Request.publish q).answer clusters info) :=
      Request.answer_of_not_valid valid
    rw [refused]
    have quiet := Service.fail_bindless (α := Answer) .invalidArgument message
    exact iff_of_false (quiet.not_asks id) fun h => valid h.1

end FuseVolumes.Node
