import FuseVolumes.Proofs.Mount.Flags
import FuseVolumes.Proofs.Node.Publish

/-!
# Flags of what is published

A request to publish sets a flag if its option is among those of the volume, and the one for
read-only also if the request says so (`PublishRequest.Sets`). The options that are passed on stand
for just these flags (`published_flags`), so nothing that is asked for beside read-only gives a pod
leave to write. There is one more mount for them, unless there are none.
-/

namespace FuseVolumes.Node

open Program
open Mount (Flag HasFlag remountFlags)

variable {q : PublishRequest} {flag : Flag} {options : List String}

/-- A request asks for a flag, by its option or by being read-only. -/
def PublishRequest.Sets (q : PublishRequest) (flag : Flag) : Prop :=
  flag.option ∈ Service.mountFlags q.capability ∨ flag = .readOnly ∧ q.readOnly = true

theorem PublishRequest.exists_sets_iff : (∃ flag, q.Sets flag) ↔
    q.readOnly = true ∨ ∃ flag : Flag, flag.option ∈ Service.mountFlags q.capability := by
  constructor
  · rintro ⟨flag, listed | ⟨-, readOnly⟩⟩
    · exact .inr ⟨flag, listed⟩
    · exact .inl readOnly
  · rintro (readOnly | ⟨flag, listed⟩)
    · exact ⟨.readOnly, .inr ⟨rfl, readOnly⟩⟩
    · exact ⟨flag, .inl listed⟩

/-- The options of every bind mount stand for no flag. -/
theorem option_mem_publishOptions_iff :
    flag.option ∈ Service.publishOptions (Service.mountFlags q.capability) q.readOnly ↔
      q.Sets flag := by
  have unset : flag.option ∉ Mount.bindOptions := by cases flag <;> decide
  have readOnly : flag.option = "ro" ↔ flag = .readOnly := by cases flag <;> decide
  rw [Service.mem_publishOptions, or_iff_right unset, readOnly, and_comm]
  rfl

/-- **Flags.** A request to publish that binds its target passes on options that stand for the flags
that it sets, and for nothing else. They are the same as those of another request if and only if
both set the same flags. When the mount is in place, it is mounted again with its flags if and only
if the request is read-only or the option of a flag is listed. -/
theorem published_flags (clusters : Clusters) (info : Info) (q : PublishRequest)
    (source target : String) (options : List String)
    (asked : ((Request.publish q).answer clusters info).run.Asks
      (.bindMount source target options)) :
    (∀ flag, HasFlag (remountFlags options) flag ↔
      flag.option ∈ Service.mountFlags q.capability ∨ flag = .readOnly ∧ q.readOnly = true) ∧
    (∀ i, (remountFlags options).testBit i = true → ∃ flag : Flag, q.Sets flag ∧ i = flag.index) ∧
    (∀ q' source' target' options',
      ((Request.publish q').answer clusters info).run.Asks
        (.bindMount source' target' options') →
      (remountFlags options' = remountFlags options ↔ ∀ flag, q'.Sets flag ↔ q.Sets flag)) ∧
    ∀ (σ : Type) (handler : Handler Mount.Kernel.interface σ) (s : σ)
      (source' target' : String) (flags : Nat),
      Mount.Kernel.Call.remount source' target' flags ∈
        ((Mount.Kernel.bindMount source target options).run.met handler s).map Prod.fst ↔
      (handler (.bind source target) s).1 = .ok () ∧
        (q.readOnly = true ∨ ∃ flag : Flag, flag.option ∈ Service.mountFlags q.capability) ∧
        source' = source ∧ target' = target ∧ flags = remountFlags options := by
  obtain ⟨-, -, -, rfl⟩ := publish_asks_bindMount_iff.1 asked
  refine ⟨fun flag => ?_, fun i set => ?_, fun q' source' target' options' asked' => ?_, ?_⟩
  · rw [Mount.hasFlag_remountFlags_iff, option_mem_publishOptions_iff]
    rfl
  · obtain ⟨flag, there, at_flag⟩ := Mount.testBit_remountFlags_iff.1 set
    exact ⟨flag, option_mem_publishOptions_iff.1 there, at_flag⟩
  · obtain ⟨-, -, -, rfl⟩ := publish_asks_bindMount_iff.1 asked'
    rw [Mount.remountFlags_eq_iff]
    exact forall_congr' fun flag =>
      iff_congr option_mem_publishOptions_iff option_mem_publishOptions_iff
  · intro σ handler s source' target' flags
    rw [Mount.Kernel.remount_mem_bindMount_iff, ← PublishRequest.exists_sets_iff]
    simp only [option_mem_publishOptions_iff]

/-! A volume is published read-only by a request, with options that say otherwise and others that
say things twice. -/

def contradicted : PublishRequest :=
  ⟨"data", "/staging", "/target",
    some ⟨some (.mount "" ["rw", "noexec", "defaults", "noexec", "acl"]), some 1⟩, true⟩

/-- A kernel that mounts whatever it is asked to. -/
def willing : Handler Mount.Kernel.interface Unit
  | .device _, s => (.ok 0, s)
  | .realPath path, s => (.ok path, s)
  | .mountList, s => (.ok "", s)
  | .readDirectory _, s | .makeDirectories _, s | .bind _ _, s | .remount _ _ _, s
  | .unmount _ _, s => (.ok (), s)
  | .log _, s => ((), s)

theorem published_flags_contradicted :
    let options := ["bind", "_netdev", "rw", "noexec", "defaults", "acl", "ro"]
    ((Request.publish contradicted).answer .empty ⟨"n", 0, []⟩).run.Asks
      (.bindMount "/staging" "/target" options) ∧
    HasFlag (remountFlags options) .readOnly ∧ HasFlag (remountFlags options) .noExec ∧
    ¬ HasFlag (remountFlags options) .noSuid ∧ remountFlags options = 9 ∧
    Mount.Kernel.Call.remount "/staging" "/target" 9 ∈
      ((Mount.Kernel.bindMount "/staging" "/target" options).run.met willing ()).map Prod.fst := by
  intro options
  have asked : ((Request.publish contradicted).answer .empty ⟨"n", 0, []⟩).run.Asks
      (.bindMount "/staging" "/target" options) :=
    publish_asks_bindMount_iff.2
      ⟨⟨by decide, by decide, by decide, by decide⟩, rfl, rfl, by decide⟩
  obtain ⟨flags, -, -, again⟩ := published_flags .empty ⟨"n", 0, []⟩ contradicted _ _ options asked
  refine ⟨asked, (flags _).2 (.inr ⟨rfl, rfl⟩), (flags _).2 (.inl (by decide)), ?_, rfl, ?_⟩
  · intro set
    rcases (flags _).1 set with listed | ⟨other, -⟩
    · exact absurd listed (by decide)
    · cases other
  · exact (again _ _ _ _ _ _).2 ⟨rfl, .inl rfl, rfl, rfl, rfl⟩

end FuseVolumes.Node
