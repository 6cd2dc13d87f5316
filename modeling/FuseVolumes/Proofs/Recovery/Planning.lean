import FuseVolumes.Recovery.Pass
import FuseVolumes.Proofs.Orchestrator.Store

/-!
What is planned for the volumes of a node. `mountable` is the part of planning a volume that its
pods have no say in (`planVolume_eq`), and `prepare_eq_ok_iff` tells what a pass prepares from what
it is told. Plans are reserved under handles of attached volumes, each once (`prepare_reserves`).
-/

namespace FuseVolumes.Recovery

open Program Orchestrator

/-! ## One volume -/

/-- The claim that a volume is bound to. -/
def claimKey (v : PersistentVolume) : Option (String × String) := v.claim.bind (·.key?)

/-- What it takes to mount a volume, whoever uses it: what its handle resolves to, and the values of
its secret. -/
def mountable (scope : Scope) (classes : List (String × Dict)) (v : PersistentVolume)
    (source : DriverSource) (cache : SecretCache) :
    Program Orchestrator.interface (Except Error (Option (Volume × Dict)) × SecretCache) := do
  match ← (secretOf classes (v.name.getD "") v source).run with
  | .error e => return (.error e, cache)
  | .ok none =>
    Orchestrator.log <| (Event.warn .recovery "No node stage secret, skipping").beside
      [("pv", v.name.getD "")]
    return (.ok none, cache)
  | .ok (some reference) =>
    let (values, cache) ← fetchSecret cache reference
    match values with
    | none => return (.error (.secretUnavailable reference), cache)
    | some values =>
      match Volume.resolve source.handle source.attributes scope.clusters with
      | .error e => return (.error (.volume e), cache)
      | .ok volume => return (.ok (some (volume, values)), cache)

/-- The plan for some pods of a volume. -/
def planFor (v : PersistentVolume) (pods : List PodMount) (m : Volume × Dict) : Plan :=
  ⟨v.name.getD "", m.1, m.2, v.mountOptions, pods⟩

theorem planVolume_eq (scope : Scope) (classes : List (String × Dict)) (v : PersistentVolume)
    (p : Planning) :
    planVolume scope classes v p = match v.source with
      | none => .done (.error (.missingSource (v.name.getD "")), p)
      | some source =>
        if (p.pods.pods (claimKey v)).isEmpty then
          .done (.ok none, ⟨p.pods.remove (claimKey v), p.secrets⟩)
        else (mountable scope classes v source p.secrets).bind fun (result, secrets) =>
          .done (result.map (Option.map (planFor v (p.pods.pods (claimKey v)))),
            ⟨p.pods.remove (claimKey v), secrets⟩) := by
  rw [planVolume]
  cases v.source with
  | none => rfl
  | some source =>
    dsimp only
    rw [show (v.claim.bind fun reference => reference.key?) = claimKey v from rfl]
    split
    · rfl
    · rw [mountable]
      change Program.bind _ _ = Program.bind (Program.bind _ _) _
      rw [Program.bind_assoc]
      congr 1
      funext result
      match result with
      | .error e => rfl
      | .ok none => rfl
      | .ok (some reference) =>
        change Program.bind _ _ = Program.bind (Program.bind _ _) _
        rw [Program.bind_assoc]
        congr 1
        funext (values, cache)
        cases values with
        | none => rfl
        | some values =>
          dsimp only
          cases Volume.resolve source.handle source.attributes scope.clusters <;> rfl

/-! ## All volumes -/

/-- What is counted or planned after a volume was looked at. -/
def settled : Except Error (Option Plan) → Prepared
  | .ok (some plan) => .planned plan
  | .ok none => .counted .skipped
  | .error _ => .counted .failed

/-- Tells of a volume for which nothing can be planned. -/
def tellFailure (v : PersistentVolume) : Except Error (Option Plan) →
    Program Orchestrator.interface Unit
  | .ok _ => .done ()
  | .error e =>
    Orchestrator.log <| (Event.error .recovery "Failed to prepare volume recovery").beside
      [("pv", v.name.getD ""), ("error", e.message)]

theorem planAll_cons (scope : Scope) (classes : List (String × Dict)) (v : PersistentVolume)
    (rest : List PersistentVolume) (p : Planning) :
    planAll scope classes (v :: rest) p =
      (planVolume scope classes v p).bind fun (result, p) => (tellFailure v result).bind fun _ =>
        (planAll scope classes rest p).bind fun prepared => .done (settled result :: prepared) := by
  rw [planAll]
  change Program.bind _ _ = Program.bind _ _
  congr 1
  funext (result, p)
  match result with
  | .ok none => rfl
  | .ok (some plan) => rfl
  | .error e => rfl

/-! ## Names of plans -/

/-- A name that is given once is found at one place. -/
theorem index_eq_of_nodup {α β : Type} {name : α → Option β} {l : List α}
    (distinct : (l.filterMap name).Nodup) {i j : Nat} {x y : α} {b : β} (hi : l[i]? = some x)
    (hj : l[j]? = some y) (hx : name x = some b) (hy : name y = some b) : i = j := by
  obtain ⟨lt, rfl⟩ := List.getElem?_eq_some_iff.1 hi
  obtain ⟨lt', rfl⟩ := List.getElem?_eq_some_iff.1 hj
  have apart := List.pairwise_iff_getElem.1 (List.pairwise_filterMap.1 distinct)
  rcases Nat.lt_trichotomy i j with h | h | h
  · exact absurd rfl (apart i j lt lt' h b hx b hy)
  · exact h
  · exact absurd rfl (apart j i lt' lt h b hy b hx)

theorem eq_of_nodup {α β : Type} {name : α → Option β} {l : List α}
    (distinct : (l.filterMap name).Nodup) {x y : α} {b : β} (hx : x ∈ l) (hy : y ∈ l)
    (hxb : name x = some b) (hyb : name y = some b) : x = y := by
  obtain ⟨i, hi⟩ := List.getElem?_of_mem hx
  obtain ⟨j, hj⟩ := List.getElem?_of_mem hy
  obtain rfl := index_eq_of_nodup distinct hi hj hxb hyb
  exact Option.some.inj (hi.symm.trans hj)

def handleOf (v : PersistentVolume) : Option String := v.source.map (·.handle)

/-- The handles of volumes, in their order. -/
def handles (volumes : List PersistentVolume) : List String := volumes.filterMap handleOf

/-- The name under which a planned volume is reserved. -/
def Prepared.reserves : Prepared → Option String
  | .counted _ => none
  | .planned plan => some plan.volume.id

theorem resolve_id {id : String} {context : Dict} {clusters : Clusters} {volume : Volume}
    (h : Volume.resolve id context clusters = .ok volume) : volume.id = id := by
  have ofHandle {required : Option Int} (h : Volume.ofHandle id required clusters = .ok volume) :
      volume.id = id := by
    simp only [Volume.ofHandle, bind_eq_ok_iff] at h
    obtain ⟨_, -, _, -, h⟩ := h
    cases h
    rfl
  have ofStatic (h : Volume.ofStatic id context clusters = .ok volume) : volume.id = id := by
    simp only [Volume.ofStatic, bind_eq_ok_iff] at h
    obtain ⟨static, -, h⟩ := h
    cases static with
    | false => cases h
    | true =>
      cases hc : context.filled? Volume.clusterParameter with
      | none =>
        rw [hc] at h
        cases h
      | some cluster =>
        rw [hc] at h
        obtain ⟨url, -, h⟩ := bind_eq_ok_iff.1 h
        cases h
        rfl
  rw [Volume.resolve] at h
  split at h
  · exact ofStatic h
  · exact ofHandle h

/-- What is mounted is what the handle resolves to. -/
theorem mountable_resolves (scope : Scope) (classes : List (String × Dict)) (v : PersistentVolume)
    (source : DriverSource) (cache : SecretCache) :
    (mountable scope classes v source cache).Obeys (fun _ _ => True) (fun _ => True) fun result =>
      ∀ m, result.1 = .ok (some m) →
        Volume.resolve source.handle source.attributes scope.clusters = .ok m.1 := by
  refine obeys_bind (obeys_trivial _ _) fun result _ => ?_
  match result with
  | .error e => exact fun m h => nomatch h
  | .ok none => exact ⟨trivial, fun _ _ m h => nomatch h⟩
  | .ok (some reference) =>
    refine obeys_bind (obeys_trivial _ _) fun fetched _ => ?_
    obtain ⟨values, cache⟩ := fetched
    cases values with
    | none => exact fun m h => nomatch h
    | some values =>
      dsimp only
      cases hr : Volume.resolve source.handle source.attributes scope.clusters with
      | error e => exact fun m h => nomatch h
      | ok volume =>
        rintro m ⟨⟩
        rfl

theorem mountable_id (scope : Scope) (classes : List (String × Dict)) (v : PersistentVolume)
    (source : DriverSource) (cache : SecretCache) :
    (mountable scope classes v source cache).Obeys (fun _ _ => True) (fun _ => True) fun result =>
      ∀ m, result.1 = .ok (some m) → m.1.id = source.handle :=
  (mountable_resolves scope classes v source cache).mono (fun _ _ h => h) (fun _ h => h)
    fun _ resolves m h => resolve_id (resolves m h)

/-- What the handle and the attributes of a persistent volume resolve to. -/
def Resolves (scope : Scope) (v : PersistentVolume) (volume : Volume) : Prop :=
  ∃ source, v.source = some source ∧
    Volume.resolve source.handle source.attributes scope.clusters = .ok volume

theorem Resolves.id {scope : Scope} {v : PersistentVolume} {volume : Volume}
    (h : Resolves scope v volume) : handleOf v = some volume.id := by
  obtain ⟨source, hsource, resolved⟩ := h
  rw [handleOf, hsource, resolve_id resolved]
  rfl

/-- A volume is planned to be mounted as it resolves. -/
theorem planVolume_resolves (scope : Scope) (classes : List (String × Dict)) (v : PersistentVolume)
    (p : Planning) :
    (planVolume scope classes v p).Obeys (fun _ _ => True) (fun _ => True) fun result =>
      ∀ plan, result.1 = .ok (some plan) → Resolves scope v plan.volume := by
  rw [planVolume_eq]
  cases hsource : v.source with
  | none => exact fun plan h => nomatch h
  | some source =>
    dsimp only
    split
    · exact fun plan h => nomatch h
    · refine obeys_bind (mountable_resolves scope classes v source p.secrets)
        fun result resolves => ?_
      intro plan h
      match result, resolves, h with
      | (.ok (some m), _), resolves, h =>
        cases h
        exact ⟨source, hsource, resolves m rfl⟩

/-- A plan is reserved under the handle of its volume. -/
theorem planVolume_id (scope : Scope) (classes : List (String × Dict)) (v : PersistentVolume)
    (p : Planning) :
    (planVolume scope classes v p).Obeys (fun _ _ => True) (fun _ => True) fun result =>
      ∀ plan, result.1 = .ok (some plan) → handleOf v = some plan.volume.id :=
  (planVolume_resolves scope classes v p).mono (fun _ _ h => h) (fun _ h => h)
    fun _ resolves plan h => (resolves plan h).id

theorem planAll_reserves (scope : Scope) (classes : List (String × Dict))
    (volumes : List PersistentVolume) (p : Planning) :
    (planAll scope classes volumes p).Obeys (fun _ _ => True) (fun _ => True) fun prepared =>
      (prepared.filterMap Prepared.reserves).Sublist (handles volumes) := by
  induction volumes generalizing p with
  | nil => exact List.Sublist.slnil
  | cons v volumes ih =>
    rw [planAll_cons]
    refine obeys_bind (planVolume_id scope classes v p) fun (result, p) hid => ?_
    refine obeys_bind (obeys_trivial _ _) fun _ _ => obeys_bind (ih p) fun prepared rest => ?_
    change ((settled result :: prepared).filterMap Prepared.reserves).Sublist
      (handles (v :: volumes))
    have uncounted : (prepared.filterMap Prepared.reserves).Sublist (handles (v :: volumes)) := by
      rw [handles, List.filterMap_cons]
      split
      · exact rest
      · exact rest.cons _
    match result, hid with
    | .ok (some plan), hid =>
      rw [handles, List.filterMap_cons_some (hid plan rfl)]
      exact rest.cons_cons _
    | .ok none, _ => exact uncounted
    | .error e, _ => exact uncounted

/-- What becomes of every volume by itself becomes of one of them wherever all are planned. -/
theorem planAll_obeys {scope : Scope} {classes : List (String × Dict)}
    (wanted : PersistentVolume → Prepared → Prop)
    (each : ∀ v p, (planVolume scope classes v p).Obeys (fun _ _ => True) (fun _ => True)
      fun result => wanted v (settled result.1)) (volumes : List PersistentVolume) (p : Planning) :
    (planAll scope classes volumes p).Obeys (fun _ _ => True) (fun _ => True) fun prepared =>
      ∀ x ∈ prepared, ∃ v ∈ volumes, wanted v x := by
  induction volumes generalizing p with
  | nil => exact fun _ h => nomatch h
  | cons v volumes ih =>
    rw [planAll_cons]
    refine obeys_bind (each v p) fun (result, p) first => ?_
    refine obeys_bind (obeys_trivial _ _) fun _ _ => obeys_bind (ih p) fun prepared rest => ?_
    refine List.forall_mem_cons.2 ⟨⟨v, List.mem_cons_self, first⟩, fun x hx => ?_⟩
    obtain ⟨w, hw, h⟩ := rest x hx
    exact ⟨w, List.mem_cons_of_mem _ hw, h⟩

theorem settled_eq_planned {result : Except Error (Option Plan)} {plan : Plan}
    (h : settled result = .planned plan) : result = .ok (some plan) := by
  match result, h with
  | .ok (some _), h =>
    cases h
    rfl

theorem settled_ne_recovered (result : Except Error (Option Plan)) :
    settled result ≠ .counted .recovered := by
  match result with
  | .ok none | .ok (some _) | .error _ => nofun

/-! ## A whole pass -/

/-- The volumes to recover. -/
def Scope.volumes (scope : Scope) (s : Session) : List PersistentVolume :=
  s.store.attached scope.node scope.driver

/-- The pods to recover them for. -/
def Scope.pods (scope : Scope) (s : Session) : List Pod := s.store.podsOn scope.node

/-- The parameters of storage classes by their names. -/
def byName (classes : List StorageClass) : List (String × Dict) :=
  (classes.filterMap fun c => c.name.map (·, c.parameters)).reverse

/-- What a pass prepares, from what it is told of the node. -/
theorem prepare_eq_ok_iff {scope : Scope} {session : Session} {prepared : List Prepared} :
    (session.run (prepare scope)).1 = .ok prepared ↔
      ∃ volumes, (session.run (Metadata.attachedVolumes scope.node scope.driver)).1 = .ok volumes ∧
        (volumes = [] ∧ prepared = [] ∨ volumes ≠ [] ∧ ∃ classes pods,
          (session.run (Metadata.storageClasses scope.driver)).1 = .ok classes ∧
          (session.run (Metadata.podsOnNode scope.node)).1 = .ok pods ∧
          prepared = ((planAll scope (byName classes) volumes ⟨.ofPods pods, []⟩).run handle
            session).1) := by
  rw [prepare, Session.run_bind_eq_ok_iff]
  refine exists_congr fun volumes => and_congr Session.run_orFail_eq_ok_iff ?_
  cases volumes with
  | nil =>
    change Except.ok [] = Except.ok prepared ↔ _
    simp [eq_comm]
  | cons v volumes =>
    have none : ¬ (v :: volumes).isEmpty = true := by simp
    simp only [none, Bool.false_eq_true, if_false, Session.run_bind_eq_ok_iff,
      Session.run_orFail_eq_ok_iff, onMetadata, Session.run_liftM, Except.ok.injEq]
    simp only [reduceCtorEq, false_and, false_or, ne_eq, not_false_eq_true, true_and,
      eq_comm (a := prepared), exists_and_left]
    rfl

/-- The names under which planned volumes are reserved are handles of attached volumes. -/
theorem prepare_reserves {scope : Scope} {session : Session} {prepared : List Prepared}
    (h : (session.run (prepare scope)).1 = .ok prepared) :
    (prepared.filterMap Prepared.reserves).Sublist
      (handles (scope.volumes session)) := by
  obtain ⟨volumes, hvolumes, h⟩ := prepare_eq_ok_iff.1 h
  rw [Scope.volumes, ← attached_of_run hvolumes]
  rcases h with ⟨-, rfl⟩ | ⟨-, classes, pods, -, -, rfl⟩
  · exact List.nil_sublist _
  · exact (planAll_reserves scope (byName classes) volumes _).answer handle session

/-- What becomes of every volume by itself becomes of one of those that are attached. -/
theorem prepare_obeys {scope : Scope} {session : Session} {prepared : List Prepared}
    (wanted : PersistentVolume → Prepared → Prop)
    (each : ∀ classes v p, (planVolume scope classes v p).Obeys (fun _ _ => True) (fun _ => True)
      fun result => wanted v (settled result.1))
    (h : (session.run (prepare scope)).1 = .ok prepared) :
    ∀ x ∈ prepared, ∃ v ∈ scope.volumes session, wanted v x := by
  obtain ⟨volumes, hvolumes, h⟩ := prepare_eq_ok_iff.1 h
  rw [Scope.volumes, ← attached_of_run hvolumes]
  rcases h with ⟨-, rfl⟩ | ⟨-, classes, pods, -, -, rfl⟩
  · exact fun _ h => nomatch h
  · exact (planAll_obeys wanted (each (byName classes)) volumes _).answer handle session

/-- Nothing is counted as recovered before anything was done. -/
theorem prepare_counted {scope : Scope} {session : Session} {prepared : List Prepared}
    (h : (session.run (prepare scope)).1 = .ok prepared) : .counted .recovered ∉ prepared := by
  intro counted
  obtain ⟨_, -, recovered⟩ := prepare_obeys (fun _ x => x ≠ .counted .recovered)
    (fun _ _ _ => (obeys_trivial _ _).mono (fun _ _ h => h) (fun _ h => h)
      fun result _ => settled_ne_recovered result.1) h _ counted
  exact recovered rfl

/-- Every plan is of an attached volume, as that resolves. -/
theorem prepare_resolves {scope : Scope} {session : Session} {prepared : List Prepared}
    {plan : Plan} (h : (session.run (prepare scope)).1 = .ok prepared)
    (planned : .planned plan ∈ prepared) :
    ∃ v ∈ scope.volumes session, Resolves scope v plan.volume := by
  obtain ⟨v, hv, resolves⟩ := prepare_obeys
    (fun v x => ∀ plan, x = .planned plan → Resolves scope v plan.volume)
    (fun classes v p => (planVolume_resolves scope classes v p).mono (fun _ _ h => h)
      (fun _ h => h) fun _ resolves plan h => resolves plan (settled_eq_planned h)) h _ planned
  exact ⟨v, hv, resolves plan rfl⟩

/-- The same objects are planned for in the same way. -/
theorem prepare_congr {scope : Scope} {session session' : Session}
    (h : session'.store = session.store) :
    (session'.run (prepare scope)).1 = (session.run (prepare scope)).1 :=
  run_congr _ h

end FuseVolumes.Recovery
