import FuseVolumes.Proofs.Recovery.Planned
import FuseVolumes.Proofs.Secret.Reference

/-!
Volumes that are passed over when plans are made. None is planned if no pod uses the volume, or if
no secret is named for it by itself or by its class (`preparedFor_eq_skipped_iff`). A class has no
say before the claim of the volume was looked up.
-/

namespace FuseVolumes.Recovery

open Program Orchestrator

variable {scope : Scope} {s : Session} {v : PersistentVolume} {source : DriverSource}

/-! ## Pods -/

/-- A pod refers to a claim by one of its volumes. -/
def RefersTo (pod : Pod) (claim : String × String) : Prop :=
  ∃ spec, pod.spec = some spec ∧ ∃ volume ∈ spec.volumes,
    volume.claim.map (fun c => (pod.«namespace».getD "", c.claim)) = some claim

/-- None of the pods refers to the claim of the volume, but for those that have run to their end. -/
def Unused (pods : List Pod) (v : PersistentVolume) : Prop :=
  ∀ pod ∈ pods, pod.isTerminated = false → ∀ claim, claimKey v = some claim → ¬ RefersTo pod claim

theorem exists_use_iff {pod : Pod} {claim : String × String} :
    (∃ use, (claim, use) ∈ podUses pod) ↔
      pod.uid.isSome = true ∧ pod.isTerminated = false ∧ RefersTo pod claim := by
  rw [podUses]
  split
  next uid spec huid hspec =>
    split
    next ended => simp [ended]
    next running =>
      have named : RefersTo pod claim ↔ ∃ volume ∈ spec.volumes, ∃ c,
          volume.claim = some c ∧ (pod.«namespace».getD "", c.claim) = claim := by
        simp only [RefersTo, hspec, Option.some.injEq, exists_eq_left', Option.map_eq_some_iff]
      rw [named]
      constructor
      · rintro ⟨use, h⟩
        obtain ⟨volume, hvolume, h⟩ := List.mem_filterMap.1 h
        obtain ⟨c, hc, h⟩ := Option.map_eq_some_iff.1 h
        exact ⟨by rw [huid]; rfl, by simpa using running, volume, hvolume, c, hc, congrArg (·.1) h⟩
      · rintro ⟨-, -, volume, hvolume, c, hc, rfl⟩
        exact ⟨_, List.mem_filterMap.2 ⟨volume, hvolume, by rw [hc]; rfl⟩⟩
  next none =>
    constructor
    · rintro ⟨_, ⟨⟩⟩
    · rintro ⟨hasUid, -, spec, hspec, -⟩
      obtain ⟨uid, huid⟩ := Option.isSome_iff_exists.1 hasUid
      exact absurd hspec (none uid spec huid)

/-- A pod is told of if and only if it has a uid. -/
theorem users_eq_nil_iff {pods : List Pod} :
    users pods v = [] ↔ Unused (pods.filter (·.uid.isSome)) v := by
  constructor
  · intro unused pod hpod running claim hclaim refers
    obtain ⟨hpod, hasUid⟩ := List.mem_filter.1 hpod
    obtain ⟨use, huse⟩ := exists_use_iff.2 ⟨hasUid, running, refers⟩
    obtain ⟨first, found, -⟩ := exists_told (mem_usesOf_of_mem_podUses hpod huse)
    have told : first ∈ users pods v := by
      rw [users, hclaim]
      exact found
    rw [unused] at told
    cases told
  · intro unused
    refine List.eq_nil_iff_forall_not_mem.2 fun use huse => ?_
    obtain ⟨claim, hclaim, pod, hpod, huse⟩ := mem_podUses_of_mem_pods huse
    obtain ⟨hasUid, running, refers⟩ := exists_use_iff.1 ⟨use, huse⟩
    exact unused pod (List.mem_filter.2 ⟨hpod, hasUid⟩) running claim hclaim refers

/-! ## Secrets -/

/-- The parameters of the class that a volume names, if that is one of the driver's. -/
def Scope.parametersOf (scope : Scope) (s : Session) (v : PersistentVolume) : Option Dict :=
  v.className.bind fun name => (byName (s.store.classesOf scope.driver)).lookup name

/-- The claim of the volume can be looked up, if it has one. -/
def ClaimTold (s : Session) (v : PersistentVolume) : Prop :=
  ∀ claim, claimKey v = some claim → ∃ found, (s.run (Metadata.claim claim.1 claim.2)).1 = .ok found

/-- No secret is named for a volume. -/
inductive Secretless (scope : Scope) (s : Session) (v : PersistentVolume) (source : DriverSource) :
    Prop
  /-- The volume has a reference to a secret without a name. -/
  | unnamed {r : ObjectReference} (own : source.stageSecret = some r) (nameless : r.name = none)
  /-- The volume leaves it to its class, and there is none. -/
  | unclassed (own : source.stageSecret = none) (missing : scope.parametersOf s v = none)
  /-- The class, asked about the claim, names none. -/
  | untold {parameters : Dict} (own : source.stageSecret = none)
      (found : scope.parametersOf s v = some parameters)
      (silent : Secret.stageKeys.chosen parameters = .ok none) (told : ClaimTold s v)

/-- Once the claim was looked up, a class names no secret if and only if it has no templates. -/
theorem run_reference_eq_none_iff {parameters : Dict} {name : String}
    {claim : Option Secret.Claim} :
    (s.run (do
      Orchestrator.logAll (Secret.stageKeys.warnings parameters)
      match Secret.stageKeys.reference parameters name claim with
      | .ok reference => return reference
      | .error cause => throw (.secretReference name cause) : Work _)).1 = .ok none ↔
      Secret.stageKeys.chosen parameters = .ok none := by
  rw [Session.run_bind_eq_ok_iff, ← Secret.Keys.reference_eq_none_iff]
  simp only [Session.run_liftM, true_and, exists_const]
  cases Secret.stageKeys.reference parameters name claim with
  | ok reference =>
    change Except.ok reference = Except.ok none ↔ _
    rw [Except.ok.injEq, Except.ok.injEq]
  | error cause => exact iff_of_false (by rintro ⟨⟩) (by rintro ⟨⟩)

theorem secretOfClass_eq_none_iff {classes : List (String × Dict)} {name : String} :
    (s.run (secretOfClass classes name v)).1 = .ok none ↔
      (v.className.bind fun name => classes.lookup name) = none ∨
        ∃ parameters, (v.className.bind fun name => classes.lookup name) = some parameters ∧
          Secret.stageKeys.chosen parameters = .ok none ∧ ClaimTold s v := by
  rw [secretOfClass]
  cases v.className.bind fun name => classes.lookup name with
  | none => exact iff_of_true rfl (.inl rfl)
  | some parameters =>
    simp only [reduceCtorEq, false_or, Option.some.injEq, exists_eq_left']
    rw [ClaimTold, claimKey]
    cases v.claim.bind (·.key?) with
    | none =>
      dsimp only
      rw [Session.run_bind_eq_ok_iff]
      constructor
      · rintro ⟨claim, -, h⟩
        exact ⟨run_reference_eq_none_iff.1 h, by rintro _ ⟨⟩⟩
      · rintro ⟨h, -⟩
        exact ⟨none, rfl, run_reference_eq_none_iff.2 h⟩
    | some key =>
      dsimp only
      rw [Session.run_bind_eq_ok_iff]
      constructor
      · rintro ⟨claim, told, h⟩
        refine ⟨run_reference_eq_none_iff.1 h, ?_⟩
        rintro _ ⟨⟩
        exact ⟨claim, Session.run_orFail_eq_ok_iff.1 told⟩
      · rintro ⟨h, told⟩
        obtain ⟨claim, told⟩ := told key rfl
        exact ⟨claim, Session.run_orFail_eq_ok_iff.2 told,
          run_reference_eq_none_iff.2 h⟩

theorem secretOf_eq_none_iff :
    (s.run (secretOf (byName (s.store.classesOf scope.driver)) (v.name.getD "") v source)).1 =
      .ok none ↔ Secretless scope s v source := by
  rw [secretOf]
  cases own : source.stageSecret with
  | some r =>
    change Except.ok (r.name.map _) = .ok none ↔ _
    rw [Except.ok.injEq, Option.map_eq_none_iff]
    constructor
    · exact .unnamed own
    · rintro (⟨own', nameless⟩ | ⟨own', -⟩ | ⟨own', -, -, -⟩)
      · cases own.symm.trans own'
        exact nameless
      · cases own.symm.trans own'
      · cases own.symm.trans own'
  | none =>
    dsimp only
    rw [secretOfClass_eq_none_iff]
    constructor
    · rintro (missing | ⟨parameters, found, silent, told⟩)
      · exact .unclassed own missing
      · exact .untold own found silent told
    · rintro (⟨own', -⟩ | ⟨-, missing⟩ | ⟨-, found, silent, told⟩)
      · cases own.symm.trans own'
      · exact .inl missing
      · exact .inr ⟨_, found, silent, told⟩

/-! ## Volumes -/

theorem mountable_eq_none_iff {classes : List (String × Dict)} {cache : SecretCache} :
    ((mountable scope classes v source cache).run handle s).1.1 = .ok none ↔
      (s.run (secretOf classes (v.name.getD "") v source)).1 = .ok none := by
  rw [mountable, run_bind_fst]
  change _ ↔ ((secretOf classes (v.name.getD "") v source).run.run handle s).1 = _
  cases ((secretOf classes (v.name.getD "") v source).run.run handle s).1 with
  | error e => exact iff_of_false (by rintro ⟨⟩) (by rintro ⟨⟩)
  | ok found =>
    cases found with
    | none => exact iff_of_true rfl rfl
    | some reference =>
      refine iff_of_false ?_ (by rintro ⟨⟩)
      dsimp only
      rw [run_bind_fst]
      obtain ⟨values, cache⟩ := ((fetchSecret cache reference).run handle s).1
      cases values with
      | none => rintro ⟨⟩
      | some values =>
        dsimp only
        cases Volume.resolve source.handle source.attributes scope.clusters <;> rintro ⟨⟩

/-- **Passed over.** A volume is counted as skipped when plans are made if and only if nobody uses
it or no secret is named for it. -/
theorem preparedFor_eq_skipped_iff {pods : List Pod} :
    preparedFor scope s v (users pods v) = .counted .skipped ↔
      ∃ source, v.source = some source ∧
        (Unused (pods.filter (·.uid.isSome)) v ∨ Secretless scope s v source) := by
  rw [preparedFor, planned]
  cases v.source with
  | none => exact iff_of_false (by rintro ⟨⟩) (by rintro ⟨_, ⟨⟩, -⟩)
  | some source =>
    have secretless : Secretless scope s v source ↔
        ((mountable scope (byName (s.store.classesOf scope.driver)) v source []).run handle
          s).1.1 = .ok none :=
      secretOf_eq_none_iff.symm.trans mountable_eq_none_iff.symm
    simp only [Option.some.injEq, exists_eq_left', ← users_eq_nil_iff, secretless,
      List.isEmpty_iff]
    by_cases unused : users pods v = []
    · exact iff_of_true (by rw [if_pos unused]; rfl) (.inl unused)
    · rw [if_neg unused, or_iff_right unused]
      cases ((mountable scope (byName (s.store.classesOf scope.driver)) v source []).run handle
        s).1.1 with
      | error e => exact iff_of_false (by rintro ⟨⟩) (by rintro ⟨⟩)
      | ok m =>
        cases m with
        | none => exact iff_of_true rfl rfl
        | some m => exact iff_of_false (by rintro ⟨⟩) (by rintro ⟨⟩)

end FuseVolumes.Recovery
