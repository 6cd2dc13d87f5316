import FuseVolumes.Recovery.PodIndex
import FuseVolumes.Proofs.Dict

/-!
Which pods the index tells of a claim: of each pod that uses it, the first use
(`mem_pods_iff_find?`). So each pod is told of by itself as it is among others
(`mem_pods_iff_exists`), and a claim that is removed leaves the others alone.
-/

namespace FuseVolumes.Recovery

open Orchestrator

/-! ## Pods in the order of their uids -/

/-- Strictly by uid, so that each uid is there once. -/
def Sorted (pods : List PodMount) : Prop := pods.Pairwise fun a b => a.uid < b.uid

theorem mem_insertPod_iff {pod x : PodMount} {pods : List PodMount} (sorted : Sorted pods) :
    x ∈ insertPod pod pods ↔ x ∈ pods ∨ x = pod ∧ ∀ y ∈ pods, y.uid ≠ pod.uid := by
  induction pods with
  | nil => simp [insertPod]
  | cons other rest ih =>
    obtain ⟨before, sorted⟩ := List.pairwise_cons.1 sorted
    rw [insertPod]
    split
    next same =>
      have same : pod.uid = other.uid := by simpa using same
      simp [same]
    next differ =>
      have differ : pod.uid ≠ other.uid := by simpa using differ
      split
      next first =>
        have apart : ∀ y ∈ other :: rest, y.uid ≠ pod.uid := by
          refine List.forall_mem_cons.2 ⟨differ.symm, fun y hy => ?_⟩
          exact (String.ne_of_lt (String.lt_trans first (before y hy))).symm
        rw [List.mem_cons, or_comm, and_iff_left apart]
      next =>
        have head : other.uid ≠ pod.uid := differ.symm
        rw [List.mem_cons, ih sorted, List.mem_cons, or_assoc, List.forall_mem_cons,
          and_iff_right head]

theorem insertPod_sorted {pod : PodMount} {pods : List PodMount} (sorted : Sorted pods) :
    Sorted (insertPod pod pods) := by
  induction pods with
  | nil => exact List.pairwise_singleton _ _
  | cons other rest ih =>
    obtain ⟨before, tail⟩ := List.pairwise_cons.1 sorted
    rw [insertPod]
    split
    next => exact sorted
    next differ =>
      have differ : pod.uid ≠ other.uid := by simpa using differ
      split
      next first =>
        refine List.pairwise_cons.2 ⟨?_, sorted⟩
        exact List.forall_mem_cons.2 ⟨first, fun y hy => String.lt_trans first (before y hy)⟩
      next last =>
        have behind : other.uid < pod.uid :=
          Std.lt_of_le_of_ne (String.not_lt.1 last) differ.symm
        refine List.pairwise_cons.2 ⟨fun y hy => ?_, ih tail⟩
        rcases (mem_insertPod_iff tail).1 hy with hy | ⟨rfl, -⟩
        · exact before y hy
        · exact behind

/-- Pods gathered from uses, one after the other. -/
def gather (uses : List PodMount) (pods : List PodMount) : List PodMount :=
  uses.foldl (fun pods pod => insertPod pod pods) pods

theorem gather_sorted (uses : List PodMount) {pods : List PodMount} (sorted : Sorted pods) :
    Sorted (gather uses pods) := by
  induction uses generalizing pods with
  | nil => exact sorted
  | cons pod uses ih => exact ih (insertPod_sorted sorted)

theorem Sorted.others {before after : List PodMount} {use other : PodMount}
    (sorted : Sorted (before ++ use :: after)) (h : other ∈ before ++ after) :
    use.uid ≠ other.uid := by
  obtain ⟨-, behind, across⟩ := List.pairwise_append.1 sorted
  rcases List.mem_append.1 h with h | h
  · exact (String.ne_of_lt (across other h use List.mem_cons_self)).symm
  · exact String.ne_of_lt ((List.pairwise_cons.1 behind).1 other h)

/-- Of several uses with the same uid the first is gathered, unless the uid is there already. -/
theorem mem_gather_iff {x : PodMount} (uses : List PodMount) {pods : List PodMount}
    (sorted : Sorted pods) :
    x ∈ gather uses pods ↔ x ∈ pods ∨
      (∀ y ∈ pods, y.uid ≠ x.uid) ∧ uses.find? (·.uid == x.uid) = some x := by
  induction uses generalizing pods with
  | nil => simp [gather]
  | cons pod uses ih =>
    change x ∈ gather uses (insertPod pod pods) ↔ _
    rw [ih (insertPod_sorted sorted), mem_insertPod_iff sorted, List.find?_cons]
    by_cases same : pod.uid = x.uid
    · have present : ∃ y ∈ insertPod pod pods, y.uid = x.uid := by
        by_cases before : ∃ y ∈ pods, y.uid = pod.uid
        · obtain ⟨y, hy, hyuid⟩ := before
          exact ⟨y, (mem_insertPod_iff sorted).2 (.inl hy), hyuid.trans same⟩
        · have fresh : ∀ y ∈ pods, y.uid ≠ pod.uid := fun y hy h => before ⟨y, hy, h⟩
          exact ⟨pod, (mem_insertPod_iff sorted).2 (.inr ⟨rfl, fresh⟩), same⟩
      obtain ⟨y, hy, hyuid⟩ := present
      have closed : ¬ ∀ y ∈ insertPod pod pods, y.uid ≠ x.uid := fun h => h y hy hyuid
      simp only [closed, false_and, or_false, same, beq_self_eq_true, Option.some.injEq]
      rw [and_comm, eq_comm (a := x)]
    · have other : (pod.uid == x.uid) = false := by simpa using same
      have kept : (∀ y ∈ insertPod pod pods, y.uid ≠ x.uid) ↔ ∀ y ∈ pods, y.uid ≠ x.uid := by
        constructor
        · intro h y hy
          exact h y ((mem_insertPod_iff sorted).2 (.inl hy))
        · intro h y hy
          rcases (mem_insertPod_iff sorted).1 hy with hy | ⟨rfl, -⟩
          · exact h y hy
          · exact same
      have differ : x ≠ pod := by
        rintro rfl
        exact same rfl
      simp only [other, kept, differ, false_and, or_false]

/-! ## The index -/

theorem pods_add (index : PodIndex) (claim other : String × String) (pod : PodMount) :
    (index.add claim pod).pods (some other) =
      if other = claim then insertPod pod (index.pods (some other))
      else index.pods (some other) := by
  induction index with
  | nil =>
    by_cases h : other = claim
    · simp [PodIndex.add, PodIndex.pods, h, insertPod]
    · have differ : (other == claim) = false := by simpa using h
      simp [PodIndex.add, PodIndex.pods, h, List.lookup_cons, differ]
  | cons entry rest ih =>
    obtain ⟨key, pods⟩ := entry
    simp only [PodIndex.pods] at ih ⊢
    by_cases hk : key = claim
    · subst hk
      by_cases ho : other = key
      · simp [PodIndex.add, ho]
      · have differ : (other == key) = false := by simpa using ho
        simp [PodIndex.add, List.lookup_cons, ho, differ]
    · by_cases ho : other = key
      · subst ho
        simp [PodIndex.add, hk]
      · have differ : (other == key) = false := by simpa using ho
        simp [PodIndex.add, hk, List.lookup_cons, differ, ih]

/-- The index without a claim is as it was for other claims. -/
theorem pods_remove (index : PodIndex) {claim other : Option (String × String)}
    (h : ∀ key, claim = some key → other ≠ some key) :
    (index.remove claim).pods other = index.pods other := by
  cases claim with
  | none => rfl
  | some claim =>
    cases other with
    | none => rfl
    | some other =>
      have differ : (other == claim) = false := by
        rw [beq_eq_false_iff_ne]
        rintro rfl
        exact h other rfl rfl
      simp [PodIndex.remove, PodIndex.pods, Dict.lookup_filter_ne, differ]

/-- A claim that was taken out of the index has no pods any more. -/
theorem pods_remove_self (index : PodIndex) (claim : Option (String × String)) :
    (index.remove claim).pods claim = [] := by
  cases claim with
  | none => rfl
  | some claim => simp [PodIndex.remove, PodIndex.pods, Dict.lookup_filter_ne]

/-- The uses of a claim among those of some pods. -/
def usesOf (claim : String × String) (pods : List Pod) : List PodMount :=
  (pods.flatMap podUses).filterMap fun (key, pod) => if key = claim then some pod else none

theorem pods_ofPods (claim : String × String) (pods : List Pod) :
    (PodIndex.ofPods pods).pods (some claim) = gather (usesOf claim pods) [] := by
  have run (uses : List ((String × String) × PodMount)) (index : PodIndex) :
      (uses.foldl (fun index (key, pod) => index.add key pod) index).pods (some claim) =
        gather (uses.filterMap fun (key, pod) => if key = claim then some pod else none)
          (index.pods (some claim)) := by
    induction uses generalizing index with
    | nil => rfl
    | cons use uses ih =>
      obtain ⟨key, pod⟩ := use
      rw [List.foldl_cons, ih, pods_add, List.filterMap_cons]
      by_cases h : key = claim
      · simp [h, gather]
      · simp [h, Ne.symm h]
  exact run (pods.flatMap podUses) []

theorem pods_sorted (pods : List Pod) (claim : Option (String × String)) :
    Sorted ((PodIndex.ofPods pods).pods claim) := by
  cases claim with
  | none => exact List.Pairwise.nil
  | some claim =>
    rw [pods_ofPods]
    exact gather_sorted _ List.Pairwise.nil

/-! ## Pods on their own -/

/-- Every use that a pod makes of a claim is through one of its volumes. -/
theorem mem_podUses {pod : Pod} {claim : String × String} {use : PodMount}
    (h : (claim, use) ∈ podUses pod) :
    pod.uid = some use.uid ∧ ∃ spec, pod.spec = some spec ∧ ∃ volume ∈ spec.volumes,
      use.volume = volume.name ∧ use.subMounts = subMounts spec volume.name ∧
      volume.claim.map (fun c => (pod.«namespace».getD "", c.claim)) = some claim := by
  rw [podUses] at h
  split at h
  next uid spec huid hspec =>
    split at h
    · cases h
    · obtain ⟨volume, hvolume, h⟩ := List.mem_filterMap.1 h
      obtain ⟨source, hsource, h⟩ := Option.map_eq_some_iff.1 h
      cases h
      exact ⟨huid, spec, hspec, volume, hvolume, rfl, rfl, by rw [hsource]; rfl⟩
  next => cases h

theorem usesOf_cons (claim : String × String) (pod : Pod) (pods : List Pod) :
    usesOf claim (pod :: pods) = usesOf claim [pod] ++ usesOf claim pods := by
  simp [usesOf]

theorem mem_usesOf {claim : String × String} {pods : List Pod} {use : PodMount}
    (h : use ∈ usesOf claim pods) : ∃ pod ∈ pods, (claim, use) ∈ podUses pod := by
  obtain ⟨⟨key, _⟩, huse, h⟩ := List.mem_filterMap.1 h
  obtain ⟨pod, hpod, huse⟩ := List.mem_flatMap.1 huse
  dsimp only at h
  split at h
  next same =>
    cases h
    exact ⟨pod, hpod, same ▸ huse⟩
  next => cases h

theorem mem_usesOf_of_mem_podUses {claim : String × String} {pods : List Pod} {pod : Pod}
    {use : PodMount} (hpod : pod ∈ pods) (h : (claim, use) ∈ podUses pod) :
    use ∈ usesOf claim pods :=
  List.mem_filterMap.2 ⟨(claim, use), List.mem_flatMap.2 ⟨pod, hpod, h⟩, if_pos rfl⟩

theorem mem_pods_iff_find? {claim : String × String} {pods : List Pod} {x : PodMount} :
    x ∈ (PodIndex.ofPods pods).pods (some claim) ↔
      (usesOf claim pods).find? (·.uid == x.uid) = some x := by
  rw [pods_ofPods, mem_gather_iff _ List.Pairwise.nil]
  simp

/-- A use is told of, or one that came before it with the same uid. -/
theorem exists_told {claim : String × String} {pods : List Pod} {use : PodMount}
    (h : use ∈ usesOf claim pods) :
    ∃ x ∈ (PodIndex.ofPods pods).pods (some claim), x.uid = use.uid := by
  have present : ((usesOf claim pods).find? (·.uid == use.uid)).isSome = true :=
    List.find?_isSome.2 ⟨use, h, beq_self_eq_true use.uid⟩
  obtain ⟨x, found⟩ := Option.isSome_iff_exists.1 present
  have same : x.uid = use.uid := by simpa using List.find?_some found
  exact ⟨x, mem_pods_iff_find?.2 (same ▸ found), same⟩

theorem mem_podUses_of_mem_pods {claim : Option (String × String)} {pods : List Pod}
    {x : PodMount} (h : x ∈ (PodIndex.ofPods pods).pods claim) :
    ∃ key, claim = some key ∧ ∃ pod ∈ pods, (key, x) ∈ podUses pod := by
  cases claim with
  | none => cases h
  | some key =>
    have found := List.mem_of_find?_eq_some (mem_pods_iff_find?.1 h)
    exact ⟨key, rfl, mem_usesOf found⟩

/-- Among pods with distinct uids each is told of as it is by itself. -/
theorem mem_pods_iff_exists {claim : Option (String × String)} {pods : List Pod}
    (distinct : (pods.filterMap (·.uid)).Nodup) {x : PodMount} :
    x ∈ (PodIndex.ofPods pods).pods claim ↔
      ∃ pod ∈ pods, x ∈ (PodIndex.ofPods [pod]).pods claim := by
  cases claim with
  | none => simp [PodIndex.pods]
  | some claim =>
    simp only [mem_pods_iff_find?]
    have apart := List.pairwise_filterMap.1 distinct
    clear distinct
    induction pods with
    | nil => simp [usesOf]
    | cons pod pods ih =>
      obtain ⟨first, apart⟩ := List.pairwise_cons.1 apart
      rw [usesOf_cons, List.find?_append, Option.or_eq_some_iff]
      constructor
      · rintro (h | ⟨-, h⟩)
        · exact ⟨pod, List.mem_cons_self, h⟩
        · obtain ⟨other, hother, h⟩ := (ih apart).1 h
          exact ⟨other, List.mem_cons_of_mem _ hother, h⟩
      · rintro ⟨other, hother, h⟩
        rcases List.mem_cons.1 hother with rfl | later
        · exact .inl h
        · refine .inr ⟨List.find?_eq_none.2 fun use huse same => ?_, (ih apart).2 ⟨other, later, h⟩⟩
          obtain ⟨owner, howner, hown⟩ := mem_usesOf huse
          obtain ⟨holder, hholder, hheld⟩ := mem_usesOf (List.mem_of_find?_eq_some h)
          rw [List.mem_singleton.1 howner] at hown
          rw [List.mem_singleton.1 hholder] at hheld
          have same : use.uid = x.uid := by simpa using same
          exact first other later use.uid (mem_podUses hown).1 x.uid (mem_podUses hheld).1 same

theorem pods_singleton {claim : Option (String × String)} {pod : Pod} {x : PodMount}
    (h : x ∈ (PodIndex.ofPods [pod]).pods claim) :
    (PodIndex.ofPods [pod]).pods claim = [x] := by
  have uid (y : PodMount) (hy : y ∈ (PodIndex.ofPods [pod]).pods claim) :
      pod.uid = some y.uid := by
    obtain ⟨key, -, owner, howner, huse⟩ := mem_podUses_of_mem_pods hy
    obtain rfl := List.mem_singleton.1 howner
    exact (mem_podUses huse).1
  have sorted := pods_sorted [pod] claim
  match hpods : (PodIndex.ofPods [pod]).pods claim with
  | [] =>
    rw [hpods] at h
    cases h
  | [y] =>
    rw [hpods] at h
    rw [List.mem_singleton.1 h]
  | y :: z :: rest =>
    rw [hpods] at sorted uid
    have before := (List.pairwise_cons.1 sorted).1 z List.mem_cons_self
    have hy := uid y List.mem_cons_self
    have hz := uid z (List.mem_cons_of_mem _ List.mem_cons_self)
    obtain same : y.uid = z.uid := Option.some.inj (hy.symm.trans hz)
    exact absurd same (String.ne_of_lt before)

end FuseVolumes.Recovery
