import FuseVolumes.Proofs.Program.Effects
import FuseVolumes.Proofs.Recovery.Planned

/-!
What is looked up while volumes are planned. The secrets that it takes are looked up when they are
needed for the first time (`lookups_planAll`): the list of what is needed with all repetitions left
out (`fresh`).
-/

namespace FuseVolumes.Recovery

open Program Orchestrator

variable {α β ε : Type} {s t : Session}

/-! ## Lookups in a run -/

/-- The secret that is looked up by a request, with what is found. -/
def lookup? (s : Session) : Orchestrator.Call → Option (Secret.Reference × Option Dict)
  | .secret ns name => some (⟨ns, name⟩, valuesOf s ⟨ns, name⟩)
  | _ => none

/-- The lookups of secrets in a run, in their order. -/
def lookups (p : Program Orchestrator.interface α) (s : Session) :
    List (Secret.Reference × Option Dict) :=
  (p.met handle s).filterMap fun x => lookup? x.2 x.1

/-- Requests that are not for a secret. -/
def Aside (call : Orchestrator.Call) : Prop := ∀ s, lookup? s call = none

theorem Names.aside {call : Orchestrator.Call} (h : Names call) : Aside call := by
  intro s
  cases call <;> first | rfl | exact h.elim

theorem lookup?_congr (same : t.store = s.store) : lookup? t = lookup? s := by
  funext call
  cases call <;> simp only [lookup?, valuesOf_congr same]

theorem lookups_ask (call : Orchestrator.Call)
    (next : call.Reply → Program Orchestrator.interface α) (s : Session) :
    lookups (.ask (I := interface) call next) s =
      (lookup? s call).toList ++ lookups (next (handle call s).1) (handle call s).2 := by
  rw [lookups, met, List.filterMap_cons]
  dsimp only
  cases lookup? s call <;> rfl

/-- What is looked up does not depend on what was asked for before. -/
theorem lookups_congr (p : Program Orchestrator.interface α) (same : t.store = s.store) :
    lookups p t = lookups p s := by
  induction p generalizing s t with
  | done a => rfl
  | ask call next ih =>
    have after : (handle call t).2.store = (handle call s).2.store := by
      rw [handle_store, handle_store, same]
    rw [lookups_ask, lookups_ask, lookup?_congr same, handle_congr same, ih _ after]

theorem lookups_bind (p : Program Orchestrator.interface α)
    (f : α → Program Orchestrator.interface β) (s : Session) :
    lookups (p.bind f) s = lookups p s ++ lookups (f (p.run handle s).1) s := by
  rw [← lookups_congr (f _) (run_store p s), lookups, met_bind, List.filterMap_append]
  rfl

theorem lookups_run_bind (x : Orchestrator.Work ε α) (f : α → Orchestrator.Work ε β)
    (s : Session) :
    lookups (x >>= f).run s = lookups x.run s ++
      match (s.run x).1 with
      | .ok a => lookups (f a).run s
      | .error _ => [] := by
  change lookups (x.run.bind (ExceptT.bindCont f)) s = _
  rw [lookups_bind]
  change _ ++ lookups (ExceptT.bindCont f (s.run x).1) s = _
  cases (s.run x).1 <;> rfl

theorem lookups_of_within {p : Program Orchestrator.interface α} (h : p.Within Aside) :
    lookups p s = [] := by
  refine List.filterMap_eq_nil_iff.2 fun x hx => ?_
  exact h.met hx x.2

theorem lookups_secret (r : Secret.Reference) (s : Session) :
    lookups (Metadata.secret r).run s = [(r, valuesOf s r)] := by
  rw [Metadata.secret, lookups_run_bind]
  have asked : lookups ((ask (.secret r.«namespace» r.name)).orFail
      (.api s!"secret {r.display}") : Orchestrator.Work Metadata.Error _).run s =
        [(r, valuesOf s r)] := rfl
  rw [asked]
  split
  next found _ => cases found <;> rfl
  next => rfl

/-! ## Repetitions -/

section Fresh

variable {known wanted : List Secret.Reference} {r : Secret.Reference}

/-- What is wanted and not known, each once, where it is wanted for the first time. -/
def fresh (known : List Secret.Reference) : List Secret.Reference → List Secret.Reference
  | [] => []
  | r :: rest => if r ∈ known then fresh known rest else r :: fresh (r :: known) rest

theorem mem_fresh : r ∈ fresh known wanted ↔ r ∈ wanted ∧ r ∉ known := by
  induction wanted generalizing known with
  | nil => simp [fresh]
  | cons first rest ih =>
    by_cases seen : first ∈ known
    · rw [fresh, if_pos seen, ih, List.mem_cons]
      refine and_congr_left fun new => ?_
      have other : r ≠ first := fun same => new (same ▸ seen)
      simp [other]
    · rw [fresh, if_neg seen, List.mem_cons, List.mem_cons, ih, List.mem_cons]
      by_cases same : r = first
      · simp [same, seen]
      · simp [same]

theorem nodup_fresh (known wanted : List Secret.Reference) : (fresh known wanted).Nodup := by
  induction wanted generalizing known with
  | nil => simp [fresh]
  | cons first rest ih =>
    rw [fresh]
    split
    · exact ih known
    · refine List.nodup_cons.2 ⟨fun again => ?_, ih _⟩
      exact (mem_fresh.1 again).2 List.mem_cons_self

/-- What one volume wants is known to those behind it. -/
theorem fresh_toList_append (known : List Secret.Reference) (first : Option Secret.Reference)
    (rest : List Secret.Reference) : fresh known (first.toList ++ rest) =
      fresh known first.toList ++ fresh (fresh known first.toList ++ known) rest := by
  cases first with
  | none => simp [fresh]
  | some r => by_cases seen : r ∈ known <;> simp [fresh, seen]

end Fresh

/-! ## The secret of a volume -/

section Reference

variable {scope : Scope} {classes : List (String × Dict)} {v : PersistentVolume}
  {r : Secret.Reference} {users : List PodMount}

/-- The secret that is named for a volume, if planning gets to know it. -/
def referenceOf (s : Session) (classes : List (String × Dict)) (v : PersistentVolume) :
    Option Secret.Reference :=
  match v.source with
  | none => none
  | some source =>
    match (s.run (secretOf classes (v.name.getD "") v source)).1 with
    | .ok reference => reference
    | .error _ => none

theorem referenceOf_eq_some_iff : referenceOf s classes v = some r ↔
    ∃ source, v.source = some source ∧
      (s.run (secretOf classes (v.name.getD "") v source)).1 = .ok (some r) := by
  rw [referenceOf]
  cases v.source with
  | none => simp
  | some source =>
    simp only [Option.some.injEq, exists_eq_left']
    cases (s.run (secretOf classes (v.name.getD "") v source)).1 <;> simp

/-- How it is found out what it takes to mount a volume, if no secret was fetched before. -/
theorem mountable_run_nil (scope : Scope) (v : PersistentVolume) (source : DriverSource) :
    ((mountable scope classes v source []).run handle s).1.1 =
      match (s.run (secretOf classes (v.name.getD "") v source)).1 with
      | .error e => .error e
      | .ok none => .ok none
      | .ok (some r) =>
        match valuesOf s r with
        | none => .error (.secretUnavailable r)
        | some values =>
          match Volume.resolve source.handle source.attributes scope.clusters with
          | .error e => .error (.volume e)
          | .ok volume => .ok (some (volume, values)) := by
  rw [mountable, run_bind_fst, Session.run]
  cases ((secretOf classes (v.name.getD "") v source).run.run handle s).1 with
  | error e => rfl
  | ok named =>
    cases named with
    | none => rfl
    | some r =>
      obtain ⟨fetched, -⟩ := fetchSecret_run (.nil s) r
      dsimp only
      rw [run_bind_fst, fetched]
      cases valuesOf s r with
      | none => rfl
      | some values =>
        dsimp only
        cases Volume.resolve source.handle source.attributes scope.clusters <;> rfl

/-- What is planned for a volume for which a secret is named. -/
theorem planned_of_reference (named : referenceOf s classes v = some r) (used : users ≠ []) :
    ∃ source, v.source = some source ∧ planned s scope classes v users =
      match valuesOf s r with
      | none => .error (.secretUnavailable r)
      | some values =>
        match Volume.resolve source.handle source.attributes scope.clusters with
        | .error e => .error (.volume e)
        | .ok volume => .ok (some (planFor v users (volume, values))) := by
  obtain ⟨source, hsource, named⟩ := referenceOf_eq_some_iff.1 named
  have filled : ¬ users.isEmpty = true := by simpa using used
  refine ⟨source, hsource, ?_⟩
  rw [planned, hsource]
  dsimp only
  rw [if_neg filled, mountable_run_nil, named]
  dsimp only
  cases valuesOf s r with
  | none => rfl
  | some values =>
    dsimp only
    cases Volume.resolve source.handle source.attributes scope.clusters <;> rfl

/-- A volume is planned with the values of the secret that is named for it. -/
theorem values_of_planned {plan : Plan} (h : planned s scope classes v users = .ok (some plan)) :
    users ≠ [] ∧ ∃ r, referenceOf s classes v = some r ∧ valuesOf s r = some plan.secrets := by
  rw [planned] at h
  cases hsource : v.source with
  | none =>
    rw [hsource] at h
    cases h
  | some source =>
    simp only [hsource, List.isEmpty_iff] at h
    split at h
    next => cases h
    next used =>
      refine ⟨used, ?_⟩
      rw [mountable_run_nil] at h
      cases named : (s.run (secretOf classes (v.name.getD "") v source)).1 with
      | error e =>
        rw [named] at h
        cases h
      | ok reference =>
        cases reference with
        | none =>
          rw [named] at h
          cases h
        | some r =>
          refine ⟨r, referenceOf_eq_some_iff.2 ⟨source, hsource, named⟩, ?_⟩
          simp only [named] at h
          split at h
          next => cases h
          next values found =>
            split at h
            next => cases h
            next =>
              cases h
              exact found

end Reference

/-! ## Lookups of volumes that are planned -/

section Planning

variable {scope : Scope} {classes : List (String × Dict)} {v : PersistentVolume}
  {cache : SecretCache}

/-- The secret that it takes to plan a volume for its share of the pods. -/
def needed (s : Session) (classes : List (String × Dict)) :
    PersistentVolume × List PodMount → Option Secret.Reference
  | (_, []) => none
  | (v, _ :: _) => referenceOf s classes v

theorem needed_of_ne_nil {users : List PodMount} (used : users ≠ []) :
    needed s classes (v, users) = referenceOf s classes v := by
  cases users with
  | nil => exact absurd rfl used
  | cons first rest => rfl

/-- Secrets with what is found for them. -/
def withValues (s : Session) (wanted : List Secret.Reference) :
    List (Secret.Reference × Option Dict) :=
  wanted.map fun r => (r, valuesOf s r)

theorem map_fst_withValues (s : Session) (wanted : List Secret.Reference) :
    (withValues s wanted).map (·.1) = wanted := by
  rw [withValues, List.map_map]
  exact List.map_id wanted

theorem mem_withValues {wanted : List Secret.Reference} {r : Secret.Reference}
    {values : Option Dict} :
    (r, values) ∈ withValues s wanted ↔ r ∈ wanted ∧ values = valuesOf s r := by
  rw [withValues, List.mem_map]
  constructor
  · rintro ⟨r, h, ⟨⟩⟩
    exact ⟨h, rfl⟩
  · rintro ⟨h, rfl⟩
    exact ⟨r, h, rfl⟩

/-- A program looks up what is wanted and was not fetched before, and keeps it. -/
def Fetches (p : Program Orchestrator.interface α) (s : Session) (cache : SecretCache)
    (wanted : Option Secret.Reference) (kept : α → SecretCache) : Prop :=
  lookups p s = withValues s (fresh (cache.map (·.1)) wanted.toList) ∧
    (kept (p.run handle s).1).map (·.1) =
      fresh (cache.map (·.1)) wanted.toList ++ cache.map (·.1)

section Fetches

variable {wanted : Option Secret.Reference} {kept : α → SecretCache}

theorem fetches_of_aside {p : Program Orchestrator.interface α} (aside : p.Within Aside)
    (same : kept (p.run handle s).1 = cache) : Fetches p s cache none kept := by
  rw [Fetches, lookups_of_within aside, same]
  exact ⟨rfl, rfl⟩

theorem fetches_bind_of_aside {p : Program Orchestrator.interface β}
    {f : β → Program Orchestrator.interface α} (aside : p.Within Aside)
    (h : Fetches (f (p.run handle s).1) s cache wanted kept) :
    Fetches (p.bind f) s cache wanted kept := by
  rw [Fetches, lookups_bind, lookups_of_within aside]
  refine ⟨h.1, ?_⟩
  change (kept ((p >>= f).run handle s).1).map _ = _
  rw [run_bind_fst]
  exact h.2

/-- What was fetched stays what it is as an answer is made of it. -/
theorem Fetches.bind_done {p : Program Orchestrator.interface α}
    {f : α → Program Orchestrator.interface β} {kept' : β → SecretCache}
    (h : Fetches p s cache wanted kept) (done : ∀ a, ∃ b, f a = .done b ∧ kept' b = kept a) :
    Fetches (p.bind f) s cache wanted kept' := by
  obtain ⟨b, hb, same⟩ := done (p.run handle s).1
  rw [Fetches, lookups_bind, hb]
  refine ⟨(List.append_nil _).trans h.1, ?_⟩
  change (kept' ((p >>= f).run handle s).1).map _ = _
  rw [run_bind_fst, hb]
  change (kept' b).map _ = _
  rw [same]
  exact h.2

end Fetches

theorem log_within (event : Event) : (Orchestrator.log event).Within Aside :=
  within_request fun _ => rfl

theorem fetchSecret_fetches (r : Secret.Reference) :
    Fetches (fetchSecret cache r) s cache (some r) (·.2) := by
  rw [Fetches, fetchSecret, Option.toList_some, fresh]
  cases hcached : cache.lookup r with
  | some values =>
    obtain ⟨before, after, entries, -⟩ := List.lookup_eq_some_iff.1 hcached
    have known : r ∈ cache.map (·.1) := by simp [entries]
    rw [if_pos known]
    exact ⟨rfl, rfl⟩
  | none =>
    have unknown : r ∉ cache.map (·.1) := by
      intro known
      obtain ⟨entry, hentry, rfl⟩ := List.mem_map.1 known
      simpa using List.lookup_eq_none_iff.1 hcached entry hentry
    rw [if_neg unknown]
    -- What was not found is kept like what was, so neither is looked up again.
    constructor
    · change lookups ((Metadata.secret r).run.bind _) s = _
      rw [lookups_bind, lookups_secret]
      cases ((Metadata.secret r).run.run handle s).1 <;> rfl
    · dsimp only
      rw [run_bind_fst]
      cases ((Metadata.secret r).run.run handle s).1 <;> rfl

theorem mountable_fetches {source : DriverSource} (hsource : v.source = some source) :
    Fetches (mountable scope classes v source cache) s cache (referenceOf s classes v) (·.2) := by
  refine fetches_bind_of_aside ((secretOf_within _ _ _ _).mono fun _ => Names.aside) ?_
  rw [referenceOf, hsource]
  dsimp only [Session.run]
  cases ((secretOf classes (v.name.getD "") v source).run.run handle s).1 with
  | error e => exact fetches_of_aside trivial rfl
  | ok named =>
    cases named with
    | none => exact fetches_of_aside (within_bind (log_within _) fun _ => trivial) rfl
    | some r =>
      refine (fetchSecret_fetches r).bind_done ?_
      rintro ⟨values, cache⟩
      cases values with
      | none => exact ⟨_, rfl, rfl⟩
      | some values =>
        dsimp only
        cases Volume.resolve source.handle source.attributes scope.clusters <;>
          exact ⟨_, rfl, rfl⟩

theorem planVolume_fetches (v : PersistentVolume) (p : Planning) :
    Fetches (planVolume scope classes v p) s p.secrets
      (needed s classes (v, p.pods.pods (claimKey v))) (·.2.secrets) := by
  rw [planVolume_eq]
  cases hsource : v.source with
  | none =>
    have unneeded : needed s classes (v, p.pods.pods (claimKey v)) = none := by
      cases p.pods.pods (claimKey v) with
      | nil => rfl
      | cons first rest => rw [needed, referenceOf, hsource]
    rw [unneeded]
    exact fetches_of_aside trivial rfl
  | some source =>
    dsimp only
    cases p.pods.pods (claimKey v) with
    | nil => exact fetches_of_aside trivial rfl
    | cons first rest => exact (mountable_fetches hsource).bind_done fun _ => ⟨_, rfl, rfl⟩

/-- **Run lemma.** The secrets that are needed are looked up in the order in which they are needed
first, as far as they were not fetched before. -/
theorem lookups_planAll (volumes : List PersistentVolume) {p : Planning}
    (faithful : Faithful s p.secrets) :
    lookups (planAll scope classes volumes p) s =
      withValues s (fresh (p.secrets.map (·.1))
        ((shares p.pods volumes).filterMap (needed s classes))) := by
  induction volumes generalizing p with
  | nil => rfl
  | cons v volumes ih =>
    obtain ⟨secrets, known, first⟩ := planVolume_run faithful scope classes v
    have fetches : Fetches (planVolume scope classes v p) s p.secrets
        (needed s classes (v, p.pods.pods (claimKey v))) (·.2.secrets) := planVolume_fetches v p
    obtain ⟨asked, kept⟩ := fetches
    rw [first] at kept
    have told (result : Except Error (Option Plan)) : lookups (tellFailure v result) s = [] := by
      cases result with
      | ok _ => rfl
      | error e => exact lookups_of_within (log_within _)
    have tail := ih (p := ⟨p.pods.after v, secrets⟩) known
    have needs : (shares p.pods (v :: volumes)).filterMap (needed s classes) =
        (needed s classes (v, p.pods.pods (claimKey v))).toList ++
          (shares (p.pods.after v) volumes).filterMap (needed s classes) := by
      rw [shares, List.filterMap_cons]
      cases needed s classes (v, p.pods.pods (claimKey v)) <;> rfl
    rw [planAll_cons, lookups_bind, asked, first, lookups_bind, told, lookups_bind, tail, needs,
      fresh_toList_append, ← kept, withValues, withValues, withValues, List.map_append]
    exact congrArg _ (List.append_nil _)

end Planning

/-! ## A whole pass -/

section Pass

variable {scope : Scope} {v : PersistentVolume} {r : Secret.Reference}

/-- The secrets that it takes to plan the volumes of a node. -/
def Scope.needs (scope : Scope) (s : Session) : List Secret.Reference :=
  (shares (.ofPods (scope.pods s)) (scope.volumes s)).filterMap
    (needed s (byName (s.store.classesOf scope.driver)))

/-- What is looked up by work that gets to its end, and nothing if it does not. -/
def ifOk (result : Except ε α) (asked : List (Secret.Reference × Option Dict)) :
    List (Secret.Reference × Option Dict) :=
  match result with
  | .ok _ => asked
  | .error _ => []

theorem lookups_run_bind_of_aside {x : Orchestrator.Work ε α} {f : α → Orchestrator.Work ε β}
    {asked : List (Secret.Reference × Option Dict)} (aside : x.run.Within Aside)
    (rest : ∀ a, (s.run x).1 = .ok a → lookups (f a).run s = ifOk (s.run (f a)).1 asked) :
    lookups (x >>= f).run s = ifOk (s.run (x >>= f)).1 asked := by
  rw [lookups_run_bind, lookups_of_within aside, List.nil_append, Session.run_bind_fst]
  cases hx : (s.run x).1 with
  | ok a => exact rest a hx
  | error e => rfl

theorem attachedVolumes_aside (node driver : String) :
    (Metadata.attachedVolumes node driver).run.Within Aside := by
  refine within_run_bind (within_orFail (within_request fun _ => rfl)) fun attachments => ?_
  dsimp only
  split
  · trivial
  · exact within_run_bind (within_orFail (within_request fun _ => rfl)) fun _ => trivial

theorem podsOnNode_aside (node : String) : (Metadata.podsOnNode node).run.Within Aside :=
  within_orFail (within_request fun _ => rfl)

/-- A pass looks up what it needs, each once, or gets no further than to the lists of objects. -/
theorem lookups_prepare (scope : Scope) (s : Session) :
    lookups (prepare scope).run s =
      ifOk (s.run (prepare scope)).1 (withValues s (fresh [] (scope.needs s))) := by
  rw [prepare]
  refine lookups_run_bind_of_aside (within_orFail (attachedVolumes_aside _ _))
    fun volumes hvolumes => ?_
  obtain rfl := attached_of_run (Session.run_orFail_eq_ok_iff.1 hvolumes)
  change lookups (ExceptT.run (if (scope.volumes s).isEmpty = true then _ else _)) s =
    ifOk (s.run (if (scope.volumes s).isEmpty = true then _ else _)).1 _
  split
  next none =>
    have unneeded : scope.needs s = [] := by
      rw [Scope.needs, List.isEmpty_iff.1 none]
      rfl
    rw [unneeded]
    rfl
  next =>
    refine lookups_run_bind_of_aside (within_orFail (storageClasses_within (fun _ => rfl) _))
      fun classes hclasses => ?_
    obtain rfl := classesOf_of_run (Session.run_orFail_eq_ok_iff.1 hclasses)
    refine lookups_run_bind_of_aside (within_orFail (podsOnNode_aside _)) fun pods hpods => ?_
    obtain rfl := podsOn_of_run (Session.run_orFail_eq_ok_iff.1 hpods)
    rw [Session.run_liftM]
    change lookups ((planAll scope _ _ _).bind _) s = _
    rw [lookups_bind, lookups_planAll _ (.nil s)]
    exact List.append_nil _

end Pass

end FuseVolumes.Recovery
