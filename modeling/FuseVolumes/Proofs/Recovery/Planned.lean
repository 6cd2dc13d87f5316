import FuseVolumes.Proofs.Recovery.Planning
import FuseVolumes.Proofs.Recovery.PodIndex

/-!
The plan of each volume by itself. Volumes that are planned one after the other share the index of
pods and the secrets fetched so far. The secrets make no difference: what is prepared for a volume
is `planned` for it alone and its share of the pods (`prepare_eq_shares`), from what is told of
classes, claims and secrets (`planned_congr`). Neither do the pods when no claim is bound twice
(`prepare_eq_map`).
-/

namespace FuseVolumes.Recovery

open Program Orchestrator

/-! ## What plans depend on -/

/-- Sessions that tell the same of classes, claims and secrets. -/
structure Alike (s t : Session) : Prop where
  classes : s.store.classes = t.store.classes
  claims : s.store.claims = t.store.claims
  secrets : s.store.secrets = t.store.secrets
  refusals : s.store.refusals = t.store.refusals

/-- Requests for classes, claims and secrets. -/
def Describes : Orchestrator.Call → Prop
  | .classes | .claim _ _ | .secret _ _ | .log _ => True
  | _ => False

/-- Requests for claims. -/
def Names : Orchestrator.Call → Prop
  | .claim _ _ | .log _ => True
  | _ => False

theorem Names.describes {call : Orchestrator.Call} (h : Names call) : Describes call := by
  cases call <;> trivial

theorem Alike.of_store_eq {s t s' t' : Session} (h : Alike s t) (hs : s'.store = s.store)
    (ht : t'.store = t.store) : Alike s' t' := by
  obtain ⟨classes, claims, secrets, refusals⟩ := h
  constructor <;> rw [hs, ht] <;> assumption

theorem find_alike {α : Type} {s t : Session} (h : Alike s t) (kind : Kind)
    (objects : List (Entry α)) (ns : Option String) (name : String) :
    (s.find kind objects ns name).1 = (t.find kind objects ns name).1 := by
  rw [Session.find, Session.find]
  split
  · rfl
  · simp only [Store.find, h.refusals]

theorem local_alike : Local handle Describes Alike := by
  intro call hcall s t h
  refine ⟨?_, h.of_store_eq (handle_store call s) (handle_store call t)⟩
  cases call with
  | classes => simp only [handle, Session.list, Store.list, h.classes, h.refusals]
  | claim ns name =>
    simp only [handle, h.claims]
    exact find_alike h _ _ _ _
  | secret ns name =>
    simp only [handle, h.secrets]
    rw [find_alike h]
  | log event => rfl
  | _ => exact hcall.elim

theorem run_alike {α : Type} {p : Program Orchestrator.interface α} (hp : p.Within Describes)
    {s t : Session} (h : Alike s t) : (p.run handle s).1 = (p.run handle t).1 :=
  (run_agree local_alike hp h).1

theorem storageClasses_within {allowed : Orchestrator.Call → Prop} (lists : allowed .classes)
    (driver : String) : (Metadata.storageClasses driver).run.Within allowed :=
  within_run_bind (within_orFail (within_request lists)) fun _ => trivial

theorem claim_within (ns name : String) : (Metadata.claim ns name).run.Within Names :=
  within_run_bind (within_orFail (within_request trivial)) fun _ => trivial

theorem secret_within (r : Secret.Reference) : (Metadata.secret r).run.Within Describes := by
  refine within_run_bind (within_orFail (within_request trivial)) fun found => ?_
  cases found <;> trivial

theorem logAll_within (events : List Event) : (logAll events).Within Names := by
  induction events with
  | nil => trivial
  | cons event events ih => exact within_bind (within_request trivial) fun _ => ih

theorem secretOfClass_within (classes : List (String × Dict)) (name : String)
    (v : PersistentVolume) : (secretOfClass classes name v).run.Within Names := by
  rw [secretOfClass]
  cases v.className.bind fun name => classes.lookup name with
  | none => trivial
  | some parameters =>
    cases v.claim.bind (·.key?) with
    | none =>
      refine within_run_bind trivial fun claim => ?_
      refine within_run_bind (within_liftM (logAll_within _)) fun _ => ?_
      cases Secret.stageKeys.reference parameters name claim <;> trivial
    | some key =>
      refine within_run_bind (within_orFail (claim_within _ _)) fun claim => ?_
      refine within_run_bind (within_liftM (logAll_within _)) fun _ => ?_
      cases Secret.stageKeys.reference parameters name claim <;> trivial

theorem secretOf_within (classes : List (String × Dict)) (name : String) (v : PersistentVolume)
    (source : DriverSource) : (secretOf classes name v source).run.Within Names := by
  rw [secretOf]
  split
  · trivial
  · exact secretOfClass_within classes name v

theorem fetchSecret_within (cache : SecretCache) (r : Secret.Reference) :
    (fetchSecret cache r).Within Describes := by
  rw [fetchSecret]
  cases cache.lookup r with
  | some values => trivial
  | none =>
    refine within_bind (secret_within r) fun result => ?_
    cases result with
    | ok values => trivial
    | error e => exact within_bind (within_request trivial) fun _ => trivial

theorem mountable_within (scope : Scope) (classes : List (String × Dict)) (v : PersistentVolume)
    (source : DriverSource) (cache : SecretCache) :
    (mountable scope classes v source cache).Within Describes := by
  refine within_bind ((secretOf_within _ _ _ _).mono fun _ => Names.describes) fun result => ?_
  match result with
  | .error e => trivial
  | .ok none => exact within_bind (within_request trivial) fun _ => trivial
  | .ok (some reference) =>
    refine within_bind (fetchSecret_within _ _) fun (values, cache) => ?_
    cases values with
    | none => trivial
    | some values =>
      dsimp only
      cases Volume.resolve source.handle source.attributes scope.clusters <;> trivial

/-! ## Secrets fetched once -/

/-- The values of a secret, if they can be had. -/
def valuesOf (s : Session) (r : Secret.Reference) : Option Dict :=
  ((Metadata.secret r).run.run handle s).1.toOption

/-- **Invariant.** What was fetched is what would be fetched again. -/
def Faithful (s : Session) (cache : SecretCache) : Prop :=
  ∀ r values, cache.lookup r = some values → values = valuesOf s r

theorem valuesOf_congr {s t : Session} (h : t.store = s.store) : valuesOf t = valuesOf s := by
  funext r
  rw [valuesOf, valuesOf, run_congr _ h]

theorem Faithful.congr {s t : Session} {cache : SecretCache} (faithful : Faithful s cache)
    (h : t.store = s.store) : Faithful t cache := by
  rw [Faithful, valuesOf_congr h]
  exact faithful

theorem Faithful.nil (s : Session) : Faithful s [] := fun _ _ h => nomatch h

theorem Faithful.cons {s : Session} {cache : SecretCache} (faithful : Faithful s cache)
    (r : Secret.Reference) : Faithful s ((r, valuesOf s r) :: cache) := by
  intro other values h
  rw [List.lookup_cons] at h
  split at h
  next same =>
    cases h
    rw [eq_of_beq same]
  next => exact faithful other values h

theorem fetchSecret_run {s : Session} {cache : SecretCache} (faithful : Faithful s cache)
    (r : Secret.Reference) :
    ((fetchSecret cache r).run handle s).1.1 = valuesOf s r ∧
      Faithful s ((fetchSecret cache r).run handle s).1.2 := by
  rw [fetchSecret]
  cases hcached : cache.lookup r with
  | some values => exact ⟨faithful r values hcached, faithful⟩
  | none =>
    have known := faithful.cons r
    rw [valuesOf] at known ⊢
    dsimp only
    rw [run_bind_fst]
    cases hfetched : ((Metadata.secret r).run.run handle s).1 with
    | ok values =>
      rw [hfetched] at known
      exact ⟨rfl, known⟩
    | error e =>
      rw [hfetched] at known
      exact ⟨rfl, known⟩

/-- It does not matter which secrets were fetched before. -/
theorem mountable_run {s : Session} {cache : SecretCache} (faithful : Faithful s cache)
    (scope : Scope) (classes : List (String × Dict)) (v : PersistentVolume)
    (source : DriverSource) :
    ((mountable scope classes v source cache).run handle s).1.1 =
        ((mountable scope classes v source []).run handle s).1.1 ∧
      Faithful s ((mountable scope classes v source cache).run handle s).1.2 := by
  rw [mountable, mountable, run_bind_fst, run_bind_fst]
  cases ((secretOf classes (v.name.getD "") v source).run.run handle s).1 with
  | error e => exact ⟨rfl, faithful⟩
  | ok named =>
    cases named with
    | none => exact ⟨rfl, faithful⟩
    | some reference =>
      obtain ⟨fetched, known⟩ := fetchSecret_run faithful reference
      obtain ⟨again, -⟩ := fetchSecret_run (.nil s) reference
      dsimp only
      rw [run_bind_fst, run_bind_fst, fetched, again]
      cases valuesOf s reference with
      | none => exact ⟨rfl, known⟩
      | some values =>
        dsimp only
        cases Volume.resolve source.handle source.attributes scope.clusters <;>
          exact ⟨rfl, known⟩

/-! ## One volume by itself -/

/-- What is planned for a volume and the pods that use it. -/
def planned (s : Session) (scope : Scope) (classes : List (String × Dict)) (v : PersistentVolume)
    (users : List PodMount) : Except Error (Option Plan) :=
  match v.source with
  | none => .error (.missingSource (v.name.getD ""))
  | some source =>
    if users.isEmpty then .ok none
    else ((mountable scope classes v source []).run handle s).1.1.map (Option.map (planFor v users))

theorem planned_congr {s t : Session} (h : Alike s t) (scope : Scope)
    (classes : List (String × Dict)) (v : PersistentVolume) (users : List PodMount) :
    planned s scope classes v users = planned t scope classes v users := by
  rw [planned, planned]
  cases v.source with
  | none => rfl
  | some source =>
    dsimp only
    rw [run_alike (mountable_within scope classes v source []) h]

/-- The index after a volume was planned, which uses up the pods of its claim. -/
def PodIndex.after (index : PodIndex) (v : PersistentVolume) : PodIndex :=
  if v.source.isSome then index.remove (claimKey v) else index

theorem planVolume_run {s : Session} {p : Planning} (faithful : Faithful s p.secrets)
    (scope : Scope) (classes : List (String × Dict)) (v : PersistentVolume) :
    ∃ secrets, Faithful s secrets ∧
      ((planVolume scope classes v p).run handle s).1 =
        (planned s scope classes v (p.pods.pods (claimKey v)), ⟨p.pods.after v, secrets⟩) := by
  rw [planVolume_eq, planned, PodIndex.after]
  cases v.source with
  | none => exact ⟨p.secrets, faithful, rfl⟩
  | some source =>
    dsimp only
    split
    · exact ⟨_, faithful, rfl⟩
    · obtain ⟨answer, known⟩ := mountable_run faithful scope classes v source
      rw [run_bind, ← answer]
      exact ⟨_, known, rfl⟩

/-- The pods that each volume is planned for: those of a claim go to the first volume that is bound
to it. -/
def shares (index : PodIndex) : List PersistentVolume → List (PersistentVolume × List PodMount)
  | [] => []
  | v :: rest => (v, index.pods (claimKey v)) :: shares (index.after v) rest

/-- **Run lemma.** The volumes are planned as each would be by itself for its share of the pods. -/
theorem planAll_run {s : Session} (scope : Scope) (classes : List (String × Dict))
    (volumes : List PersistentVolume) {p : Planning} (faithful : Faithful s p.secrets) :
    ((planAll scope classes volumes p).run handle s).1 =
      (shares p.pods volumes).map fun (v, users) => settled (planned s scope classes v users) := by
  induction volumes generalizing p with
  | nil => rfl
  | cons v volumes ih =>
    obtain ⟨secrets, known, first⟩ := planVolume_run faithful scope classes v
    have tail := ih (p := ⟨p.pods.after v, secrets⟩) known
    rw [planAll_cons]
    change ((planVolume scope classes v p >>= _).run handle s).1 = _
    rw [run_bind_fst, first]
    change ((tellFailure v _ >>= fun _ => planAll scope classes volumes _ >>= fun prepared =>
      .done (settled _ :: prepared)).run handle s).1 = _
    rw [run_bind_fst, run_bind_fst, tail, shares, List.map_cons]
    rfl

/-- Where no claim is bound twice every volume is planned for all pods of its claim. -/
theorem shares_of_distinct {volumes : List PersistentVolume}
    (distinct : (volumes.filterMap claimKey).Nodup) (index : PodIndex) :
    shares index volumes = volumes.map fun v => (v, index.pods (claimKey v)) := by
  induction volumes generalizing index with
  | nil => rfl
  | cons v volumes ih =>
    have rest : (volumes.filterMap claimKey).Nodup :=
      ((List.sublist_cons_self v volumes).filterMap claimKey).nodup distinct
    have kept (w : PersistentVolume) (hw : w ∈ volumes) :
        (index.after v).pods (claimKey w) = index.pods (claimKey w) := by
      rw [PodIndex.after]
      split
      · refine pods_remove index fun key hv hw' => ?_
        rw [List.filterMap_cons_some hv] at distinct
        exact (List.nodup_cons.1 distinct).1 (List.mem_filterMap.2 ⟨w, hw, hw'⟩)
      · rfl
    rw [shares, ih rest, List.map_cons]
    refine congrArg _ (List.map_congr_left fun w hw => ?_)
    rw [kept w hw]

/-! ## A whole pass -/

/-- The pods that use a volume. -/
def users (pods : List Pod) (v : PersistentVolume) : List PodMount :=
  (PodIndex.ofPods pods).pods (claimKey v)

/-- What a pass prepares for a volume that some pods use. -/
def preparedFor (scope : Scope) (s : Session) (v : PersistentVolume) (users : List PodMount) :
    Prepared :=
  settled (planned s scope (byName (s.store.classesOf scope.driver)) v users)

/-- What is prepared for the attached volumes, each with its share of the pods. -/
theorem prepare_eq_shares {scope : Scope} {s : Session} {prepared : List Prepared}
    (h : (s.run (prepare scope)).1 = .ok prepared) :
    prepared = (shares (.ofPods (scope.pods s)) (scope.volumes s)).map fun (v, users) =>
      preparedFor scope s v users := by
  obtain ⟨volumes, hvolumes, h⟩ := prepare_eq_ok_iff.1 h
  obtain rfl : volumes = scope.volumes s := attached_of_run hvolumes
  rcases h with ⟨none, rfl⟩ | ⟨-, classes, pods, hclasses, hpods, rfl⟩
  · rw [none]
    rfl
  · obtain rfl := classesOf_of_run hclasses
    obtain rfl : pods = scope.pods s := podsOn_of_run hpods
    exact planAll_run scope _ _ (.nil s)

theorem prepare_eq_map {scope : Scope} {s : Session} {prepared : List Prepared}
    (distinct : ((scope.volumes s).filterMap claimKey).Nodup)
    (h : (s.run (prepare scope)).1 = .ok prepared) :
    prepared = (scope.volumes s).map fun v =>
      preparedFor scope s v (users (scope.pods s) v) := by
  rw [prepare_eq_shares h, shares_of_distinct distinct, List.map_map]
  rfl

/-- Whoever uses a volume, it is counted in the same way or planned to be mounted in the same
way. -/
theorem preparedFor_cases (scope : Scope) (s : Session) (v : PersistentVolume) :
    (∃ outcome, ∀ users, users ≠ [] → preparedFor scope s v users = .counted outcome) ∨
      ∃ m, handleOf v = some m.1.id ∧
        ∀ users, users ≠ [] → preparedFor scope s v users = .planned (planFor v users m) := by
  cases hsource : v.source with
  | none => exact .inl ⟨.failed, fun users _ => by rw [preparedFor, planned, hsource]; rfl⟩
  | some source =>
    let found :=
      ((mountable scope (byName (s.store.classesOf scope.driver)) v source []).run handle s).1.1
    have used (users : List PodMount) (h : users ≠ []) :
        preparedFor scope s v users = settled (found.map (Option.map (planFor v users))) := by
      have filled : ¬ users.isEmpty = true := by simpa using h
      rw [preparedFor, planned, hsource]
      exact congrArg settled (if_neg filled)
    have hid := (mountable_id scope (byName (s.store.classesOf scope.driver)) v source []).answer
      handle s
    match hfound : found with
    | .error e => exact .inl ⟨.failed, used⟩
    | .ok none => exact .inl ⟨.skipped, used⟩
    | .ok (some m) =>
      refine .inr ⟨m, ?_, used⟩
      rw [handleOf, hsource, hid m hfound, Option.map_some]

theorem preparedFor_nil (scope : Scope) (s : Session) (v : PersistentVolume) :
    ∃ outcome, preparedFor scope s v [] = .counted outcome := by
  rw [preparedFor, planned]
  cases v.source with
  | none => exact ⟨.failed, rfl⟩
  | some source => exact ⟨.skipped, rfl⟩

end FuseVolumes.Recovery
