import FuseVolumes.Proofs.Recovery.Accounting
import FuseVolumes.Proofs.Recovery.Credentials
import FuseVolumes.Proofs.Recovery.Lookups

/-!
# Secrets looked up once

A pass looks up each secret once at most, and only for volumes that some pod uses. What was found is
used for every volume that names the secret. If it was not found none of them is mounted, while
volumes that name others are planned as if it had been (`secrets_looked_up_once`).
-/

namespace FuseVolumes.Recovery

open Program Node Node.Machine Orchestrator

variable {s t : Session} {scope : Scope} {v : PersistentVolume} {i : Nat} {r : Secret.Reference}

/-! ## Shares -/

section Shares

variable {volumes : List PersistentVolume} {index : PodIndex}

/-- No volume before the position is bound to the claim of this one. -/
def First (volumes : List PersistentVolume) (i : Nat) (v : PersistentVolume) : Prop :=
  ∀ (j : Nat) w, j < i → volumes[j]? = some w →
    ∀ claim, claimKey w = some claim → claimKey v ≠ some claim

theorem pods_after_of_ne {w : PersistentVolume}
    (ne : ∀ claim, claimKey w = some claim → claimKey v ≠ some claim) :
    (index.after w).pods (claimKey v) = index.pods (claimKey v) := by
  rw [PodIndex.after]
  split
  · exact pods_remove index ne
  · rfl

theorem pods_after_of_nil (w : PersistentVolume) (none : index.pods (claimKey v) = []) :
    (index.after w).pods (claimKey v) = [] := by
  by_cases same : claimKey w = claimKey v
  · rw [PodIndex.after, same]
    split
    · exact pods_remove_self index _
    · exact none
  · rw [pods_after_of_ne fun claim hw hv => same (hw.trans hv.symm), none]

theorem shares_volumes (index : PodIndex) (volumes : List PersistentVolume) :
    (shares index volumes).map (·.1) = volumes := by
  induction volumes generalizing index with
  | nil => rfl
  | cons w volumes ih => rw [shares, List.map_cons, ih]

theorem volume_of_share {users : List PodMount}
    (h : (shares index volumes)[i]? = some (v, users)) : volumes[i]? = some v := by
  rw [← shares_volumes index volumes, List.getElem?_map, h]
  rfl

theorem shares_first (hv : volumes[i]? = some v) (first : First volumes i v) :
    (shares index volumes)[i]? = some (v, index.pods (claimKey v)) := by
  induction volumes generalizing index i with
  | nil => cases hv
  | cons w volumes ih =>
    cases i with
    | zero =>
      cases hv
      rfl
    | succ i =>
      have rest : First volumes i v := fun j u lt hu => first (j + 1) u (by omega) hu
      have spared : (index.after w).pods (claimKey v) = index.pods (claimKey v) :=
        pods_after_of_ne (first 0 w (by omega) rfl)
      rw [shares, List.getElem?_cons_succ, ih hv rest, spared]

theorem shares_of_nil (hv : volumes[i]? = some v) (none : index.pods (claimKey v) = []) :
    (shares index volumes)[i]? = some (v, []) := by
  induction volumes generalizing index i with
  | nil => cases hv
  | cons w volumes ih =>
    cases i with
    | zero =>
      cases hv
      rw [shares, none]
      rfl
    | succ i => exact ih hv (pods_after_of_nil w none)

/-- A volume whose claim another one is bound to already is planned for no pods. -/
theorem shares_later (sources : ∀ w ∈ volumes, w.source.isSome = true) (hv : volumes[i]? = some v)
    (later : ¬ First volumes i v) : (shares index volumes)[i]? = some (v, []) := by
  induction volumes generalizing index i with
  | nil => cases hv
  | cons w volumes ih =>
    obtain ⟨source, rest⟩ := List.forall_mem_cons.1 sources
    cases i with
    | zero => exact absurd (fun j _ lt => absurd lt (Nat.not_lt_zero j)) later
    | succ i =>
      -- Either the head takes the pods away, and nobody gives them back, or it is not the one.
      by_cases bound : ∃ claim, claimKey w = some claim ∧ claimKey v = some claim
      · obtain ⟨claim, hw, hclaim⟩ := bound
        have none : (index.after w).pods (claimKey v) = [] := by
          rw [PodIndex.after, if_pos source, hw, hclaim]
          exact pods_remove_self index _
        rw [shares, List.getElem?_cons_succ]
        exact shares_of_nil hv none
      · have behind : ¬ First volumes i v := by
          intro first
          refine later fun j u lt hu claim hclaim hv => ?_
          cases j with
          | zero =>
            cases hu
            exact bound ⟨claim, hclaim, hv⟩
          | succ j => exact first j u (by omega) hu claim hclaim hv
        exact ih rest hv behind

end Shares

/-! ## Attached volumes -/

theorem source_of_attached (h : v ∈ scope.volumes s) : v.source.isSome = true := by
  obtain ⟨⟨source, sourced, -⟩, -⟩ := isAttached_iff.1 (List.mem_filter.1 h).2
  exact Option.isSome_iff_exists.2 ⟨source, sourced⟩

/-- The secret that is named for an attached volume. -/
def Scope.referenceOf (scope : Scope) (s : Session) (v : PersistentVolume) :
    Option Secret.Reference :=
  Recovery.referenceOf s (byName (s.store.classesOf scope.driver)) v

/-- Some pod of the node uses the volume. -/
def Used (scope : Scope) (s : Session) (v : PersistentVolume) : Prop :=
  ¬ Unused ((scope.pods s).filter (·.uid.isSome)) v

/-- The share of an attached volume: all pods of its claim, or none. -/
theorem share_cases (hv : (scope.volumes s)[i]? = some v) :
    (First (scope.volumes s) i v ∧ (shares (.ofPods (scope.pods s)) (scope.volumes s))[i]? =
        some (v, users (scope.pods s) v)) ∨
      (¬ First (scope.volumes s) i v ∧
        (shares (.ofPods (scope.pods s)) (scope.volumes s))[i]? = some (v, [])) := by
  by_cases first : First (scope.volumes s) i v
  · exact .inl ⟨first, shares_first hv first⟩
  · exact .inr ⟨first, shares_later (fun _ => source_of_attached) hv first⟩

theorem mem_needs : r ∈ scope.needs s ↔ ∃ (i : Nat) (v : PersistentVolume),
    (scope.volumes s)[i]? = some v ∧ First (scope.volumes s) i v ∧ Used scope s v ∧
      scope.referenceOf s v = some r := by
  rw [Scope.needs, List.mem_filterMap]
  constructor
  · rintro ⟨⟨v, users⟩, hshare, named⟩
    obtain ⟨i, hi⟩ := List.getElem?_of_mem hshare
    have hv : (scope.volumes s)[i]? = some v := volume_of_share hi
    -- Without pods no secret is needed, so the share is not the empty one.
    have used : users ≠ [] := by
      rintro rfl
      cases named
    rw [needed_of_ne_nil used] at named
    rcases share_cases hv with ⟨first, own⟩ | ⟨-, none⟩
    · cases hi.symm.trans own
      exact ⟨i, v, hv, first, fun unused => used (users_eq_nil_iff.2 unused), named⟩
    · cases hi.symm.trans none
      exact absurd rfl used
  · rintro ⟨i, v, hv, first, used, named⟩
    have some : users (scope.pods s) v ≠ [] := fun none => used (users_eq_nil_iff.1 none)
    refine ⟨_, List.mem_of_getElem? (shares_first hv first), ?_⟩
    exact (needed_of_ne_nil some).trans named

theorem lookups_nodup (scope : Scope) (s : Session) :
    ((lookups (prepare scope).run s).map (·.1)).Nodup := by
  rw [lookups_prepare]
  cases (s.run (prepare scope)).1 with
  | error e => exact List.nodup_nil
  | ok prepared =>
    rw [ifOk, map_fst_withValues]
    exact nodup_fresh [] (scope.needs s)

theorem mem_needs_of_mem_lookups (h : r ∈ (lookups (prepare scope).run s).map (·.1)) :
    r ∈ scope.needs s := by
  rw [lookups_prepare] at h
  cases hprepare : (s.run (prepare scope)).1 with
  | error e =>
    rw [hprepare] at h
    cases h
  | ok prepared =>
    rw [hprepare, ifOk, map_fst_withValues] at h
    exact (mem_fresh.1 h).1

/-! ## Passes -/

section Passes

variable {handler : Handler Node.interface Machine} {m m' : Machine} {prepared : List Prepared}
  {trace : List (Nat × Node.Call)} {outcomes : List Outcome}

theorem Passes.mem_lookups_iff (h : Passes handler scope s m prepared trace outcomes m')
    {values : Option Dict} : (r, values) ∈ lookups (prepare scope).run s ↔
      r ∈ scope.needs s ∧ values = valuesOf s r := by
  rw [lookups_prepare, h.plans, ifOk, mem_withValues, mem_fresh]
  simp

/-- What is prepared for an attached volume is prepared for its share of the pods. -/
theorem Passes.prepared_share (h : Passes handler scope s m prepared trace outcomes m')
    {x : Prepared} : prepared[i]? = some x ↔
      ∃ v users, (shares (.ofPods (scope.pods s)) (scope.volumes s))[i]? = some (v, users) ∧
        preparedFor scope s v users = x := by
  rw [prepare_eq_shares h.plans, List.getElem?_map, Option.map_eq_some_iff, Prod.exists]

/-- What the tasks of the volumes are allowed to ask for bounds what is asked for in the pass. -/
theorem Passes.within (h : Passes handler scope s m prepared trace outcomes m')
    {allowed : Nat → Node.Call → Prop} (each : ∀ (i : Nat) x, prepared[i]? = some x →
      (x.task scope.root).Within (allowed i)) {call : Node.Call} (asked : (i, call) ∈ trace) :
    allowed i call :=
  Reaches.within h.tasks (allWithin_map each) i call asked

/-- Nothing is asked for at the position of a volume that is counted when plans are made. -/
theorem Passes.silent (h : Passes handler scope s m prepared trace outcomes m') {outcome : Outcome}
    (hi : prepared[i]? = some (.counted outcome)) (call : Node.Call) : (i, call) ∉ trace := by
  have each (j : Nat) (x : Prepared) (hx : prepared[j]? = some x) :
      (x.task scope.root).Within fun _ => j ≠ i := by
    by_cases own : j = i
    · rw [own, hi] at hx
      cases hx
      trivial
    · exact within_of_forall (fun _ => own) _
  exact fun asked => h.within each asked rfl

/-- A volume is planned with what its secret was found to be. -/
theorem Passes.secrets_found (h : Passes handler scope s m prepared trace outcomes m') {plan : Plan}
    (hi : prepared[i]? = some (.planned plan)) : ∃ v r,
      (scope.volumes s)[i]? = some v ∧ scope.referenceOf s v = some r ∧
        (r, some plan.secrets) ∈ lookups (prepare scope).run s := by
  obtain ⟨v, users, share, planned⟩ := h.prepared_share.1 hi
  obtain ⟨used, r, named, found⟩ := values_of_planned (settled_eq_planned planned)
  refine ⟨v, r, volume_of_share share, named, h.mem_lookups_iff.2 ⟨?_, found.symm⟩⟩
  exact List.mem_filterMap.2
    ⟨_, List.mem_of_getElem? share, (needed_of_ne_nil used).trans named⟩

/-- So it is mounted. -/
theorem Passes.mounted_with_found (h : Passes handler scope s m prepared trace outcomes m')
    {volume : Volume} {target : String} {secrets : Dict}
    (mounted : (i, .fuseMount volume target secrets) ∈ trace) : ∃ v r,
      (scope.volumes s)[i]? = some v ∧ scope.referenceOf s v = some r ∧
        (r, some secrets) ∈ lookups (prepare scope).run s := by
  have each (j : Nat) (x : Prepared) (hx : prepared[j]? = some x) : (x.task scope.root).Within
      fun call => ∃ plan, prepared[j]? = some (.planned plan) ∧
        FuseMounts (fun v _ secrets => v = plan.volume ∧ secrets = plan.secrets) call := by
    cases x with
    | counted outcome => trivial
    | planned plan => exact (recover_fuseMounts _ plan).mono fun call asked => ⟨plan, hx, asked⟩
  obtain ⟨plan, hi, -, rfl⟩ := h.within each mounted
  exact h.secrets_found hi

end Passes

/-! ## Secrets that are missing -/

/-- A volume whose secret is missing fails as it is planned, unless it is planned for no pods. -/
theorem preparedFor_of_missing (named : scope.referenceOf s v = some r)
    (missing : valuesOf s r = none) (users : List PodMount) :
    preparedFor scope s v users = .counted (if users = [] then .skipped else .failed) := by
  rw [preparedFor]
  by_cases used : users = []
  · obtain ⟨source, hsource, -⟩ := referenceOf_eq_some_iff.1 named
    rw [if_pos used, used, planned, hsource]
    rfl
  · obtain ⟨source, -, planned⟩ :
        ∃ source, v.source = some source ∧ planned s scope _ v users = _ :=
      planned_of_reference named used
    rw [if_neg used, planned, missing]
    rfl

section Missing

variable {handler : Handler Node.interface Machine} {m m' : Machine} {prepared : List Prepared}
  {trace : List (Nat × Node.Call)} {outcomes : List Outcome}

theorem Passes.of_missing (h : Passes handler scope s m prepared trace outcomes m')
    (missing : (r, none) ∈ lookups (prepare scope).run s) (hv : (scope.volumes s)[i]? = some v)
    (named : scope.referenceOf s v = some r) :
    (∀ call, (i, call) ∉ trace) ∧
      (Used scope s v → First (scope.volumes s) i v → outcomes[i]? = some .failed) ∧
      (¬ First (scope.volumes s) i v → outcomes[i]? = some .skipped) := by
  have unavailable : valuesOf s r = none := (h.mem_lookups_iff.1 missing).2.symm
  rcases share_cases hv with ⟨first, share⟩ | ⟨later, share⟩
  · have hi := h.prepared_share.2 ⟨v, _, share, preparedFor_of_missing named unavailable _⟩
    refine ⟨h.silent hi, fun used _ => ?_, fun later => absurd first later⟩
    have some : users (scope.pods s) v ≠ [] := fun none => used (users_eq_nil_iff.1 none)
    rw [if_neg some] at hi
    exact (h.counts hi).1
  · have hi := h.prepared_share.2 ⟨v, _, share, preparedFor_of_missing named unavailable _⟩
    exact ⟨h.silent hi, fun _ first => absurd first later, fun _ => (h.counts hi).1⟩

end Missing

/-! ## Volumes that name others -/

section Others

variable {α : Type} {classes : List (String × Dict)} {handler : Handler Node.interface Machine}
  {fuse : FuseMounter} {m m' m'' : Machine} {prepared prepared' : List Prepared}
  {trace trace' : List (Nat × Node.Call)} {outcomes outcomes' : List Outcome}

/-- Sessions that tell the same of everything but secrets. -/
def AlikeAside (s t : Session) : Prop :=
  ∀ call, Aside call → (handle call s).1 = (handle call t).1

/-- Sessions that tell the same of everything but one of the secrets that are named for volumes. -/
structure AlikeBut (scope : Scope) (r : Secret.Reference) (s t : Session) : Prop where
  aside : AlikeAside s t
  others : ∀ v ∈ scope.volumes s, ∀ other, scope.referenceOf s v = some other → other ≠ r →
    valuesOf t other = valuesOf s other

theorem local_alikeAside : Local handle Aside AlikeAside := by
  intro call aside s t h
  refine ⟨h call aside, fun other hother => ?_⟩
  rw [handle_congr (handle_store call s), handle_congr (handle_store call t)]
  exact h other hother

theorem run_alikeAside (h : AlikeAside s t) {p : Program Orchestrator.interface α}
    (aside : p.Within Aside) : (p.run handle t).1 = (p.run handle s).1 :=
  (run_agree local_alikeAside aside h).1.symm

theorem planned_alikeAside (h : AlikeAside s t)
    (same : ∀ r, referenceOf s classes v = some r → valuesOf t r = valuesOf s r)
    (users : List PodMount) :
    planned t scope classes v users = planned s scope classes v users := by
  rw [planned, planned]
  cases hsource : v.source with
  | none => rfl
  | some source =>
    have named : (t.run (secretOf classes (v.name.getD "") v source)).1 =
        (s.run (secretOf classes (v.name.getD "") v source)).1 :=
      run_alikeAside h ((secretOf_within _ _ _ _).mono fun _ => Names.aside)
    dsimp only
    rw [mountable_run_nil, mountable_run_nil, named]
    cases found : (s.run (secretOf classes (v.name.getD "") v source)).1 with
    | error e => rfl
    | ok reference =>
      cases reference with
      | none => rfl
      | some r =>
        dsimp only
        rw [same r (referenceOf_eq_some_iff.2 ⟨source, hsource, found⟩)]

/-- The objects that a pass is about are told of in the same way. -/
theorem prepare_alikeAside (h : AlikeAside s t) (plans : (s.run (prepare scope)).1 = .ok prepared) :
    (∃ prepared', (t.run (prepare scope)).1 = .ok prepared') ∧
      scope.volumes t = scope.volumes s ∧
      (scope.volumes s ≠ [] → scope.pods t = scope.pods s ∧
        t.store.classesOf scope.driver = s.store.classesOf scope.driver) := by
  obtain ⟨volumes, hvolumes, rest⟩ := prepare_eq_ok_iff.1 plans
  have told : (t.run (Metadata.attachedVolumes scope.node scope.driver)).1 = .ok volumes :=
    (run_alikeAside h (attachedVolumes_aside _ _)).trans hvolumes
  have volumes_eq : volumes = scope.volumes s := attached_of_run hvolumes
  have same : scope.volumes t = scope.volumes s := (attached_of_run told).symm.trans volumes_eq
  rcases rest with ⟨none, -⟩ | ⟨filled, classes, pods, hclasses, hpods, -⟩
  · refine ⟨⟨[], prepare_eq_ok_iff.2 ⟨volumes, told, .inl ⟨none, rfl⟩⟩⟩, same, fun filled => ?_⟩
    exact absurd (volumes_eq.symm.trans none) filled
  · have classesTold : (t.run (Metadata.storageClasses scope.driver)).1 = .ok classes :=
      (run_alikeAside h (storageClasses_within (fun _ => rfl) _)).trans hclasses
    have podsTold : (t.run (Metadata.podsOnNode scope.node)).1 = .ok pods :=
      (run_alikeAside h (podsOnNode_aside _)).trans hpods
    refine ⟨⟨_, prepare_eq_ok_iff.2
      ⟨volumes, told, .inr ⟨filled, classes, pods, classesTold, podsTold, rfl⟩⟩⟩, same, fun _ => ?_⟩
    exact ⟨(podsOn_of_run podsTold).symm.trans (podsOn_of_run hpods),
      (classesOf_of_run classesTold).symm.trans (classesOf_of_run hclasses)⟩

theorem preparedFor_alikeBut (alike : AlikeBut scope r s t)
    (classes : t.store.classesOf scope.driver = s.store.classesOf scope.driver)
    (hv : v ∈ scope.volumes s) (other : scope.referenceOf s v ≠ some r) (users : List PodMount) :
    preparedFor scope t v users = preparedFor scope s v users := by
  have same (wanted : Secret.Reference) (named : scope.referenceOf s v = some wanted) :
      valuesOf t wanted = valuesOf s wanted := by
    refine alike.others v hv wanted named ?_
    rintro rfl
    exact other named
  rw [preparedFor, classes, planned_alikeAside alike.aside same]
  rfl

/-- What is prepared for a volume does not depend on a secret that is not named for it. -/
theorem Passes.prepared_alikeBut (h : Passes handler scope s m prepared trace outcomes m')
    (alike : AlikeBut scope r s t) (plans : (t.run (prepare scope)).1 = .ok prepared')
    (hv : (scope.volumes s)[i]? = some v) (other : scope.referenceOf s v ≠ some r) :
    prepared'[i]? = prepared[i]? := by
  obtain ⟨-, volumes, rest⟩ := prepare_alikeAside alike.aside h.plans
  have mem : v ∈ scope.volumes s := List.mem_of_getElem? hv
  obtain ⟨pods, classes⟩ := rest (List.ne_nil_of_mem mem)
  obtain ⟨users, share⟩ : ∃ users,
      (shares (.ofPods (scope.pods s)) (scope.volumes s))[i]? = some (v, users) := by
    rcases share_cases hv with ⟨-, share⟩ | ⟨-, share⟩ <;> exact ⟨_, share⟩
  rw [prepare_eq_shares plans, prepare_eq_shares h.plans, pods, volumes, List.getElem?_map,
    List.getElem?_map, share]
  exact congrArg some (preparedFor_alikeBut alike classes mem other users)

/-- Neither does what becomes of it. -/
theorem Passes.isolated_alikeBut (hfuse : FailsByMount fuse)
    (wf : WellFormed (scope.volumes s) (scope.pods s))
    (h : Passes (handle fuse) scope s m prepared trace outcomes m') (alike : AlikeBut scope r s t)
    (h' : Passes (handle fuse) scope t m prepared' trace' outcomes' m'')
    (hv : (scope.volumes s)[i]? = some v) (other : scope.referenceOf s v ≠ some r) :
    outcomes'[i]? = outcomes[i]? ∧
      Agree (volumeFootprint scope.root v (users (scope.pods s) v)) m'' m' := by
  obtain ⟨-, volumes, rest⟩ := prepare_alikeAside alike.aside h.plans
  have mem : v ∈ scope.volumes s := List.mem_of_getElem? hv
  obtain ⟨pods, classes⟩ := rest (List.ne_nil_of_mem mem)
  have same : taskOf scope t v = taskOf scope s v := by
    rw [taskOf, taskOf, pods, preparedFor_alikeBut alike classes mem other]
  obtain ⟨ended, agree⟩ := h.isolated hfuse wf hv
  obtain ⟨ended', agree'⟩ := h'.isolated hfuse (volumes ▸ pods ▸ wf) (volumes ▸ hv)
  rw [same] at ended' agree'
  rw [pods] at agree'
  exact ⟨ended'.trans ended.symm,
    (agree_equivalence _).trans agree' ((agree_equivalence _).symm agree)⟩

end Others

/-! ## Each secret once -/

/-- **Shared secrets.** No secret is looked up twice in a pass, and none that is not named for a
volume in use. Each volume that is mounted is mounted with what was found for its own. If nothing
was found, no volume with the secret makes a request, and it fails if it is in use, but for one that
is bound to the claim of a volume before it, whose pods that one has; volumes with other secrets are
planned, and end, as if it had been found. -/
theorem secrets_looked_up_once (scope : Scope) (session : Session) :
    let asked := lookups (prepare scope).run session
    (asked.map (·.1)).Nodup ∧
    (∀ r ∈ asked.map (·.1), ∃ v ∈ scope.volumes session,
      Used scope session v ∧ scope.referenceOf session v = some r) ∧
    ∀ handler m prepared trace outcomes m',
      Passes handler scope session m prepared trace outcomes m' →
      (∀ (i : Nat) volume target secrets, (i, .fuseMount volume target secrets) ∈ trace →
        ∃ v r, (scope.volumes session)[i]? = some v ∧ scope.referenceOf session v = some r ∧
          (r, some secrets) ∈ asked) ∧
      ∀ r, (r, none) ∈ asked →
        (∀ (i : Nat) v, (scope.volumes session)[i]? = some v →
          scope.referenceOf session v = some r →
          (∀ call, (i, call) ∉ trace) ∧
          (Used scope session v → First (scope.volumes session) i v →
            outcomes[i]? = some .failed) ∧
          (¬ First (scope.volumes session) i v → outcomes[i]? = some .skipped)) ∧
        ∀ t, AlikeBut scope r session t → (∃ prepared', (t.run (prepare scope)).1 = .ok prepared') ∧
          ∀ prepared' trace' outcomes' m'',
            Passes handler scope t m prepared' trace' outcomes' m'' →
            ∀ (i : Nat) v, (scope.volumes session)[i]? = some v →
              scope.referenceOf session v ≠ some r →
              prepared'[i]? = prepared[i]? ∧
              ∀ fuse, handler = Machine.handle fuse → FailsByMount fuse →
                WellFormed (scope.volumes session) (scope.pods session) →
                outcomes'[i]? = outcomes[i]? ∧
                  Agree (volumeFootprint scope.root v (users (scope.pods session) v)) m'' m' := by
  intro asked
  refine ⟨lookups_nodup scope session, fun r hr => ?_, fun handler m prepared trace outcomes m' h =>
    ⟨fun i volume target secrets => h.mounted_with_found, fun r missing =>
      ⟨fun i v => h.of_missing missing, fun t alike =>
        ⟨(prepare_alikeAside alike.aside h.plans).1, ?_⟩⟩⟩⟩
  · obtain ⟨i, v, hv, -, used, named⟩ := mem_needs.1 (mem_needs_of_mem_lookups hr)
    exact ⟨v, List.mem_of_getElem? hv, used, named⟩
  · intro prepared' trace' outcomes' m'' h' i v hv other
    refine ⟨h.prepared_alikeBut alike h'.plans hv other, ?_⟩
    rintro fuse rfl hfuse wf
    exact h.isolated_alikeBut hfuse wf alike h' hv other

/-! Two volumes that name a secret that is not there, and one that names another. -/

def spareVolume : PersistentVolume :=
  ⟨some "c", some ⟨"d", "0001-1-0005-admin-0001-x", [], some ⟨some "t", some "ns"⟩⟩,
    some ⟨some "cc", some "ns"⟩, none, []⟩

/-- The values of both secrets. -/
def adminValues : Dict := [("adminName", "admin"), ("adminSecretKey", "s3cr3t")]

def lackingStore : Store := { crowdedStore with
  volumes := sharedStore.volumes ++ [some spareVolume]
  secrets := [⟨"t", "ns", some ⟨[], adminValues⟩⟩] }

/-- The session with other secrets. -/
def withSecrets (s : Session) (secrets : List (Entry SecretObject)) : Session :=
  { s with store := { s.store with secrets := secrets } }

theorem alikeAside_withSecrets (s : Session) (secrets : List (Entry SecretObject)) :
    AlikeAside s (withSecrets s secrets) := by
  intro call aside
  cases call with
  | secret ns name => cases aside s
  | node name | claim ns name =>
    simp only [Orchestrator.handle, withSecrets, Session.find]
    split <;> rfl
  | _ => rfl

theorem secrets_looked_up_once_of_missing_secret :
    let scope : Scope := ⟨"n", "d", "/k", ⟨[("1", "http://fcfs")]⟩⟩
    let session : Session := ⟨lackingStore, [], []⟩
    let told := withSecrets session (lackingStore.secrets ++ sharedStore.secrets)
    let handler := Machine.handle fuseMount
    let m : Machine := .ofBench .start
    lookups (prepare scope).run session =
        [(⟨"ns", "s"⟩, none), (⟨"ns", "t"⟩, some adminValues)] ∧
    AlikeBut scope ⟨"ns", "s"⟩ session told ∧
    ∃ prepared trace m', Passes handler scope session m prepared trace
        [.failed, .failed, .recovered] m' ∧
      (∀ call, (0, call) ∉ trace ∧ (1, call) ∉ trace) ∧
      (∀ volume target secrets, (2, .fuseMount volume target secrets) ∈ trace →
        secrets = adminValues) ∧
      ∃ prepared' trace' m'', Passes handler scope told m prepared' trace'
          [.recovered, .recovered, .recovered] m'' ∧
        prepared'[2]? = prepared[2]? ∧
        Agree (volumeFootprint scope.root spareVolume (users (scope.pods session) spareVolume))
          m'' m' := by
  intro scope session told handler m
  have asked : lookups (prepare scope).run session =
      [(⟨"ns", "s"⟩, none), (⟨"ns", "t"⟩, some adminValues)] := by decide +kernel
  have missing : (⟨"ns", "s"⟩, none) ∈ lookups (prepare scope).run session := by
    rw [asked]
    exact List.mem_cons_self
  have alike : AlikeBut scope ⟨"ns", "s"⟩ session told := by
    refine ⟨alikeAside_withSecrets _ _, fun v hv other named ne => ?_⟩
    have volumes : scope.volumes session = [refusedVolume, mountedVolume, spareVolume] := by decide
    rw [volumes] at hv
    simp only [List.mem_cons, List.not_mem_nil, or_false] at hv
    obtain rfl | rfl | rfl := hv
    · cases named
      exact absurd rfl ne
    · cases named
      exact absurd rfl ne
    · cases named
      rfl
  have wf : WellFormed (scope.volumes session) (scope.pods session) :=
    ⟨by decide, by decide, by decide, by decide, by decide, by decide, by decide, by decide,
      by decide⟩
  obtain ⟨prepared, plans, ended⟩ : ∃ prepared, (session.run (prepare scope)).1 = .ok prepared ∧
      (runAll handler (prepared.map (·.task scope.root)) m).1 = [.failed, .failed, .recovered] :=
    ⟨_, rfl, by decide +kernel⟩
  obtain ⟨prepared', plans', ended'⟩ : ∃ prepared', (told.run (prepare scope)).1 = .ok prepared' ∧
      (runAll handler (prepared'.map (·.task scope.root)) m).1 =
        [.recovered, .recovered, .recovered] :=
    ⟨_, rfl, by decide +kernel⟩
  obtain ⟨trace, passes⟩ := passes_runAll handler m plans
  obtain ⟨trace', passes'⟩ := passes_runAll handler m plans'
  rw [ended] at passes
  rw [ended'] at passes'
  obtain ⟨-, -, each⟩ := secrets_looked_up_once scope session
  obtain ⟨mounted, unmounted⟩ := each _ _ _ _ _ _ passes
  obtain ⟨silent, others⟩ := unmounted _ missing
  obtain ⟨-, others⟩ := others told alike
  have named : scope.referenceOf session spareVolume = some ⟨"ns", "t"⟩ := rfl
  have other : scope.referenceOf session spareVolume ≠ some ⟨"ns", "s"⟩ := by
    rw [named]
    decide
  obtain ⟨same, ending⟩ := others _ _ _ _ passes' 2 spareVolume rfl other
  refine ⟨asked, alike, prepared, trace, _, passes, fun call => ?_,
    fun volume target secrets h => ?_, prepared', trace', _, passes', same,
    (ending fuseMount rfl fuseMount_failsByMount wf).2⟩
  · exact ⟨(silent 0 refusedVolume rfl rfl).1 call, (silent 1 mountedVolume rfl rfl).1 call⟩
  · obtain ⟨v, r, -, -, found⟩ := mounted 2 volume target secrets h
    simp only [asked, List.mem_cons, Prod.mk.injEq, Option.some.injEq, reduceCtorEq, and_false,
      false_or, List.not_mem_nil, or_false] at found
    exact found.2

/-- Two volumes that are bound to one claim, with a secret that is not there. -/
def twinStore : Store := { sharedStore with
  volumes := [some { refusedVolume with claim := mountedVolume.claim }, some mountedVolume]
  secrets := [] }

/-- **Exception.** Of two volumes that are bound to one claim the first one has the pods, and the
second one is skipped. -/
theorem second_of_claim_skipped :
    let scope : Scope := ⟨"n", "d", "/k", ⟨[("1", "http://fcfs")]⟩⟩
    let session : Session := ⟨twinStore, [], []⟩
    let r : Secret.Reference := ⟨"ns", "s"⟩
    (r, none) ∈ lookups (prepare scope).run session ∧
    ∃ prepared trace outcomes m',
      Passes (Machine.handle fuseMount) scope session (.ofBench .start) prepared trace outcomes m' ∧
      ¬ ∀ (i : Nat) v, (scope.volumes session)[i]? = some v → Used scope session v →
        scope.referenceOf session v = some r → outcomes[i]? = some .failed := by
  intro scope session r
  have plans : (session.run (prepare scope)).1 = .ok [.counted .failed, .counted .skipped] := rfl
  obtain ⟨trace, passes⟩ := passes_runAll (Machine.handle fuseMount) (.ofBench .start) plans
  refine ⟨?_, _, trace, _, _, passes, fun failed => ?_⟩
  · have found : lookups (prepare scope).run session = [(r, none)] := rfl
    rw [found]
    exact List.mem_singleton.2 rfl
  · have used : Used scope session mountedVolume := by
      intro unused
      refine unused failingPod (by decide) rfl _ rfl ?_
      exact ⟨_, rfl, _, List.mem_singleton.2 rfl, rfl⟩
    cases failed 1 mountedVolume rfl used rfl

end FuseVolumes.Recovery
