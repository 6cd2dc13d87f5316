import FuseVolumes.Proofs.Capacity
import FuseVolumes.Proofs.Controller.Serial
import FuseVolumes.Proofs.Engine.Keeper

/-!
# Capacities that are reported

On an engine that keeps a quota for every volume, one that is created or resized gets the whole
number of GiB that its request asks for, and this is what the answer tells (`Request.answer_keeps`).
A request to create a volume that is there already leaves it as it is, and still tells of what it
asks for. So an answer tells of the quota that the volume has, unless the request finds it with
another one (`capacity_granted_iff`), and that may happen (`created_found_smaller`).
-/

namespace FuseVolumes

open Program

namespace Controller

open Engine (Work Place Quotas keeping)
open Engine.Pool (place)
open Engine.Quotas (provided provided_self provided_of_isSome provided_of_eq_none)

namespace Request

/-! ## Places and sizes -/

/-- Where the volume of a request is kept, if its cluster is known. -/
def place? (clusters : Clusters) (r : Request) : Option Place :=
  r.poolVolume?.bind fun v =>
    (clusters.url v.cluster).toOption.map fun url => ⟨url ++ Clusters.poolFile, v.name⟩

theorem place?_eq {clusters : Clusters} {r : Request} {v : Volume}
    (about : r.poolVolume? = some v.inPool) (found : clusters.url v.cluster = .ok v.baseUrl) :
    r.place? clusters = some (place v) := by
  rw [place?, about]
  change ((clusters.url v.cluster).toOption.map fun url =>
    (⟨url ++ Clusters.poolFile, v.name⟩ : Place)) = _
  rw [found]
  rfl

/-- The size that a request asks for, none if it gives none. -/
def required : Request → Int
  | .create r => r.required.getD 0
  | .expand r => r.required.getD 0
  | .delete _ | .validate _ | .capabilities | .other => 0

/-- The quota that a request asks for. -/
def gib (r : Request) : Int := Capacity.wholeGib (Capacity.roundUp r.required)

/-- The quotas once a request gets what it asks for. -/
def grants (quotas : Quotas) (place : Place) (r : Request) : Quotas :=
  match r with
  | .create _ => provided quotas place r.gib
  | _ => Function.update quotas place (some r.gib)

/-- A request that is told of the capacity it asks for, and gets it. -/
def Gets (clusters : Clusters) (quotas : Quotas) (r : Request) (capacity : Int)
    (quotas' : Quotas) : Prop :=
  ∃ place, r.place? clusters = some place ∧ capacity = r.gib * Capacity.gib ∧
    quotas' = r.grants quotas place

/-- A request that finds a volume with another quota than it asks for. -/
def FindsOther (clusters : Clusters) (quotas : Quotas) : Request → Prop
  | .create r => ∃ place n, (Request.create r).place? clusters = some place ∧
      quotas place = some n ∧ n ≠ (Request.create r).gib
  | .delete _ | .expand _ | .validate _ | .capabilities | .other => False

end Request

/-- The capacity that an answer tells of. -/
def Answer.capacity? : Answer → Option Int
  | .created volume => some volume.capacity
  | .expanded grant => some grant.capacity
  | .deleted | .validated _ | .capabilities _ => none

/-- A capacity is the quota of the volume that a request is about. -/
def Granted (clusters : Clusters) (r : Request) (capacity : Int) (quotas : Quotas) : Prop :=
  ∃ place n, r.place? clusters = some place ∧ quotas place = some n ∧ capacity = n * Capacity.gib

/-! ## Services -/

namespace Service

section Holds

variable {τ α β : Type} {effects : Effects Engine.interface τ} {w : τ}

/-- Work on the pool is followed by what is done with its answer, or its error is told. -/
theorem onPool_holds {work : Work Engine.Error α} {f : α → Work Status β}
    {between : Except Engine.Error α → τ → Prop} {wanted : Except Status β → τ → Prop}
    (h : work.run.Holds effects (fun _ _ => True) between w)
    (ended : ∀ a w', between (.ok a) w' → (f a).run.Holds effects (fun _ _ => True) wanted w')
    (failed : ∀ e w', between (.error e) w' → wanted (.error (Engine.Error.status e)) w') :
    (onPool work >>= f).run.Holds effects (fun _ _ => True) wanted w := by
  have told : (onPool work).run.Holds effects (fun _ _ => True) (fun answer w' =>
      ∃ result, answer = result.mapError Engine.Error.status ∧ between result w') w :=
    holds_orFail (h.mono fun result w' h => ⟨result, rfl, h⟩)
  refine holds_run_bind told ?_ ?_
  · rintro a w' ⟨result, same, h⟩
    rw [mapError_eq_ok_iff.1 same.symm] at h
    exact ended a w' h
  · rintro e w' ⟨result, same, h⟩
    cases result with
    | ok a => cases same
    | error e =>
      cases same
      exact failed e w' h

theorem info_holds {message : String} {fields : List (String × String)} {f : Unit → Work Status α}
    {wanted : Except Status α → τ → Prop}
    (logs : ∀ event reply w w', effects (.log event) reply w w' → w' = w)
    (h : (f ()).run.Holds effects (fun _ _ => True) wanted w) :
    ((liftM (info message fields) : Work Status Unit) >>= f).run.Holds effects (fun _ _ => True)
      wanted w := by
  refine ⟨trivial, fun reply w' logged => ?_⟩
  rw [logs _ _ _ _ logged]
  exact h

end Holds

section Keeping

variable (clusters : Clusters) (c : Credentials) (quotas : Quotas)

theorem provide_keeps (v : Volume) :
    (provide v c).run.Holds keeping (fun _ _ => True) (fun result quotas' => result = .ok () →
      quotas' = provided quotas (place v) (Capacity.wholeGib v.capacity)) quotas := by
  refine onPool_holds (Engine.Pool.exists_keeps v c quotas) ?_ fun _ _ _ => nofun
  rintro found quotas' ⟨same, told⟩
  have there : found = (quotas (place v)).isSome := told found rfl
  rw [same]
  cases found with
  | true => exact fun _ => (provided_of_isSome there.symm).symm
  | false =>
    have absent : quotas (place v) = none := by simpa using there.symm
    refine onPool_holds (Engine.Pool.create_keeps v c quotas) ?_ fun _ _ _ => nofun
    intro _ quotas' created
    refine ⟨trivial, ?_⟩
    rintro _ _ rfl _
    rw [created rfl, provided_of_eq_none absent]

theorem createExclusively_keeps {r : CreateRequest}
    (size : (Request.create r).required ≤ 2 ^ 63 - 2 ^ 30) :
    (createExclusively clusters r c).run.Holds keeping (fun _ _ => True) (fun result quotas' =>
      ∀ volume, result = .ok volume →
        (Request.create r).Gets clusters quotas volume.capacity quotas') quotas := by
  unfold createExclusively
  split
  · exact fun _ => nofun
  next v made =>
    obtain ⟨found, capacity⟩ := Volume.known_of_ofRequest made
    refine holds_run_bind (provide_keeps c quotas v) ?_ fun _ _ _ _ => nofun
    rintro _ quotas' kept volume ⟨⟩
    refine ⟨place v, Request.place?_eq (Volume.inPool_of_ofRequest made) found,
      (Capacity.wholeGib_roundUp_mul size).symm, ?_⟩
    rw [kept rfl, capacity]
    rfl

theorem expandExclusively_keeps {r : ExpandRequest} {required : Int}
    (given : r.required = some required) (positive : 0 < required)
    (size : required ≤ 2 ^ 63 - 2 ^ 30) :
    (expandExclusively clusters r required c).run.Holds keeping (fun _ _ => True)
      (fun result quotas' => ∀ grant, result = .ok grant →
        (Request.expand r).Gets clusters quotas grant.capacity quotas') quotas := by
  have asked : (Request.expand r).gib = Capacity.wholeGib (Capacity.roundUp required) := by
    rw [Request.gib, Request.required, given]
    rfl
  unfold expandExclusively
  split
  · exact fun _ => nofun
  next v made =>
    obtain ⟨found, capacity⟩ := Volume.known_of_ofHandle made
    rw [Option.getD_some] at capacity
    refine onPool_holds (Engine.Pool.resize_keeps v c quotas) ?_ fun _ _ _ _ => nofun
    intro granted quotas' resized
    obtain ⟨rounded, set⟩ := resized granted rfl
    rw [capacity] at rounded set
    refine info_holds (fun _ _ _ _ same => same) ?_
    rintro grant ⟨⟩
    refine ⟨place v, Request.place?_eq (Volume.inPool_of_ofHandle made) found, ?_, ?_⟩
    · rw [asked, Capacity.wholeGib_roundUp_mul size, ← rounded]
    · rw [set, ← Capacity.wholeGib_roundUp_of_pos (size.trans (by decide)) positive, ← asked]
      rfl

theorem create_keeps {r : CreateRequest}
    (size : (Request.create r).required ≤ 2 ^ 63 - 2 ^ 30) :
    (create clusters r).run.Holds keeping (fun _ _ => True) (fun result quotas' =>
      ∀ volume, result = .ok volume →
        (Request.create r).Gets clusters quotas volume.capacity quotas') quotas := by
  rcases create_cases clusters r with ⟨message, refused⟩ | granted
  · rw [refused]
    exact fun _ => nofun
  · rw [granted]
    exact Engine.withCredentials_keeps (fun _ _ => nofun) fun c =>
      Engine.reserving_keeps (fun _ => nofun) (createExclusively_keeps clusters c quotas size)

theorem expand_keeps {r : ExpandRequest}
    (size : (Request.expand r).required ≤ 2 ^ 63 - 2 ^ 30) :
    (expand clusters r).run.Holds keeping (fun _ _ => True) (fun result quotas' =>
      ∀ grant, result = .ok grant →
        (Request.expand r).Gets clusters quotas grant.capacity quotas') quotas := by
  rcases expand_cases clusters r with ⟨message, refused⟩ | ⟨required, ⟨given, positive⟩, granted⟩
  · rw [refused]
    exact fun _ => nofun
  · rw [Request.required, given, Option.getD_some] at size
    rw [granted]
    exact Engine.reserving_keeps (fun _ => nofun) (Engine.withCredentials_keeps
      (fun _ _ => nofun) fun c => expandExclusively_keeps clusters c quotas given positive size)

end Keeping

end Service

/-! ## Requests -/

namespace Request

/-- What is known of the capacity that work ends in is known of the answer that tells of it. -/
theorem told_keeps {α : Type} {work : Work Status α} {answer : α → Answer} {capacity : α → Int}
    {wanted : Int → Quotas → Prop} {quotas : Quotas}
    (tells : ∀ a, (answer a).capacity? = some (capacity a))
    (h : work.run.Holds keeping (fun _ _ => True) (fun result quotas' =>
      ∀ a, result = .ok a → wanted (capacity a) quotas') quotas) :
    (do return answer (← work) : Work Status Answer).run.Holds keeping (fun _ _ => True)
      (fun result quotas' => ∀ answer capacity, result = .ok answer →
        answer.capacity? = some capacity → wanted capacity quotas') quotas := by
  refine holds_run_map (h.mono ?_)
  intro result quotas' known answered capacity' succeeded told
  cases result with
  | error e => cases succeeded
  | ok a =>
    cases succeeded
    rw [tells, Option.some.injEq] at told
    exact told ▸ known a rfl

/-- An answer that tells of no capacity is not about quotas. -/
theorem untold_keeps {α : Type} {work : Work Status α} {answer : α → Answer}
    {wanted : Int → Quotas → Prop} {quotas : Quotas}
    (untold : ∀ a, (answer a).capacity? = none) :
    (do return answer (← work) : Work Status Answer).run.Holds keeping (fun _ _ => True)
      (fun result quotas' => ∀ answer capacity, result = .ok answer →
        answer.capacity? = some capacity → wanted capacity quotas') quotas := by
  have anything : work.run.Holds keeping (fun _ _ => True) (fun _ _ => True) quotas :=
    holds_of_obeys (obeys_trivial (fun _ _ => True) _) fun _ _ _ _ _ => trivial
  refine holds_run_bind anything (fun a _ _ => ?_) fun _ _ _ => nofun
  rintro _ capacity ⟨⟩ told
  rw [untold] at told
  cases told

/-- **Grants.** An answer with a capacity tells of what the request asks for, and the volume gets
it unless it was there before. -/
theorem answer_keeps (clusters : Clusters) {r : Request} (size : r.required ≤ 2 ^ 63 - 2 ^ 30)
    (quotas : Quotas) :
    (r.answer clusters).run.Holds keeping (fun _ _ => True) (fun result quotas' =>
      ∀ answer capacity, result = .ok answer → answer.capacity? = some capacity →
        r.Gets clusters quotas capacity quotas') quotas := by
  cases r with
  | create r => exact told_keeps (fun _ => rfl) (Service.create_keeps clusters quotas size)
  | expand r => exact told_keeps (fun _ => rfl) (Service.expand_keeps clusters quotas size)
  | delete r => exact untold_keeps fun _ => rfl
  | validate r => exact untold_keeps fun _ => rfl
  | capabilities => rintro _ _ ⟨⟩ ⟨⟩
  | other => rintro _ _ ⟨⟩

/-- A volume has the quota that is asked for, unless it is found with another one. -/
theorem granted_iff {clusters : Clusters} {r : Request} {place : Place} {quotas : Quotas}
    (known : r.place? clusters = some place) :
    Granted clusters r (r.gib * Capacity.gib) (r.grants quotas place) ↔
      ¬ r.FindsOther clusters quotas := by
  cases r with
  | create r =>
    constructor
    -- The volume keeps the quota it is found with, so its size tells what was asked for.
    · rintro ⟨place', n, known', left, same⟩ ⟨place'', n', known'', found, other⟩
      obtain rfl : place = place' := Option.some.inj (known.symm.trans known')
      obtain rfl : place = place'' := Option.some.inj (known.symm.trans known'')
      have kept : n' = n := by
        rw [grants, provided_self, found] at left
        exact Option.some.inj left
      rw [kept] at other
      refine other (Eq.symm ?_)
      rw [Capacity.gib] at same
      omega
    · intro alike
      refine ⟨place, gib (.create r), known, ?_, rfl⟩
      rw [grants, provided_self]
      cases found : quotas place with
      | none => rfl
      | some n =>
        have same : n = gib (.create r) := Decidable.byContradiction fun other =>
          alike ⟨place, n, known, found, other⟩
        rw [Option.getD_some, same]
  | delete _ | expand _ | validate _ | capabilities | other =>
    exact iff_of_true ⟨place, gib _, known, Function.update_self .., rfl⟩ id

end Request

/-- **Truthfulness.** Let requests be handled one after the other on an engine that keeps quotas.
The capacity in an answer is the quota that the volume then has if and only if the request does not
find the volume with another quota. -/
theorem capacity_granted_iff {σ : Type} {handler : Handler Engine.interface σ} {view : σ → Quotas}
    {sound : σ → Prop} (behaves : Behaves handler keeping view sound) (clusters : Clusters)
    (earlier : List Request) {r : Request} (size : r.required ≤ 2 ^ 63 - 2 ^ 30) {s : σ}
    (hs : sound s) :
    let before := (runAll handler (earlier.map fun r => (r.answer clusters).run) s).2
    let last := (r.answer clusters).run.run handler before
    ∀ answer capacity, last.1 = .ok answer → answer.capacity? = some capacity →
      (Granted clusters r capacity (view last.2) ↔ ¬ r.FindsOther clusters (view before)) := by
  intro before last answer capacity answered told
  -- The earlier requests may leave any quotas, as long as the state they leave is sound.
  have hbefore : sound before := behaves.runAll _ hs
  obtain ⟨ended, -⟩ := (r.answer_keeps clusters size (view before)).run behaves hbefore
  obtain ⟨place, known, rfl, left⟩ := ended answer capacity answered told
  rw [left]
  exact Request.granted_iff known

/-! A volume is created with one GiB, resized to three, and asked for again. -/

def creationOf (bytes : Int) : Request :=
  .create ⟨"pvc-1", some bytes, [⟨some (.mount "" []), some 1⟩], [("clusterID", "1")], adminSecrets,
    false, none⟩

def expansionOf (bytes : Int) : Request :=
  .expand ⟨"0001-1-0005-admin-000d-csi-vol-pvc-1", some bytes, adminSecrets⟩

/-- Where it is kept. -/
def onlyPlace : Place := ⟨"http://fcfs/fastcfs/auth/client.conf", "csi-vol-pvc-1"⟩

/-- What requests leave of an engine without volumes. -/
def leftBy (requests : List Request) : Engine.View :=
  (runAll Engine.quiet.keeper (requests.map fun r => (r.answer oneCluster).run)
    ⟨fun _ => none, .empty⟩).2

/-- The capacity that is told in answer to one more request. -/
def toldAfter (requests : List Request) (r : Request) : Option Int :=
  ((r.answer oneCluster).run.run Engine.quiet.keeper (leftBy requests)).1.toOption.bind
    Answer.capacity?

theorem exists_of_told {requests : List Request} {r : Request} {capacity : Int}
    (h : toldAfter requests r = some capacity) : ∃ answer,
      ((r.answer oneCluster).run.run Engine.quiet.keeper (leftBy requests)).1 = .ok answer ∧
        answer.capacity? = some capacity := by
  obtain ⟨answer, given, told⟩ := Option.bind_eq_some_iff.1 h
  exact ⟨answer, toOption_eq_some_iff.1 given, told⟩

/-- Who asks for three is told of what the volume has, and who asks for one is not. -/
theorem capacity_granted_after_resize :
    let requests := [creationOf 1, expansionOf 3221225472]
    let left (r : Request) :=
      ((r.answer oneCluster).run.run Engine.quiet.keeper (leftBy requests)).2.quotas
    (leftBy requests).quotas onlyPlace = some 3 ∧
    toldAfter requests (creationOf 3221225472) = some 3221225472 ∧
    Granted oneCluster (creationOf 3221225472) 3221225472 (left (creationOf 3221225472)) ∧
    toldAfter requests (creationOf 1) = some 1073741824 ∧
    ¬ Granted oneCluster (creationOf 1) 1073741824 (left (creationOf 1)) := by
  intro requests left
  have behaves := Engine.Host.behaves_keeping Engine.quiet.keeper_behaves
  have three : (leftBy requests).quotas onlyPlace = some 3 := by decide +kernel
  have place (bytes : Int) : (creationOf bytes).place? oneCluster = some onlyPlace := by
    change (creationOf 1).place? oneCluster = some onlyPlace
    decide +kernel
  have told : toldAfter requests (creationOf 3221225472) = some 3221225472 := by decide +kernel
  have told' : toldAfter requests (creationOf 1) = some 1073741824 := by decide +kernel
  obtain ⟨answer, answered, capacity⟩ := exists_of_told told
  obtain ⟨answer', answered', capacity'⟩ := exists_of_told told'
  have granted := capacity_granted_iff behaves oneCluster requests (by decide) trivial
    answer 3221225472 answered capacity
  have granted' := capacity_granted_iff behaves oneCluster requests (by decide) trivial
    answer' 1073741824 answered' capacity'
  refine ⟨three, told, granted.2 ?_, told', fun h => granted'.1 h ?_⟩
  · rintro ⟨place', n, known, there, other⟩
    obtain rfl : onlyPlace = place' := Option.some.inj ((place _).symm.trans known)
    obtain rfl : 3 = n := Option.some.inj (three.symm.trans there)
    exact other (by decide)
  · exact ⟨onlyPlace, 3, place 1, three, by decide⟩

/-- **Finding a volume.** Who asks for three GiB of a volume that has one is told of three. -/
theorem created_found_smaller :
    toldAfter [creationOf 1] (creationOf 3221225472) = some 3221225472 ∧
    (leftBy [creationOf 1, creationOf 3221225472]).quotas onlyPlace = some 1 ∧
    ¬ ∀ (σ : Type) (handler : Handler Engine.interface σ) (view : σ → Quotas) (sound : σ → Prop),
      Behaves handler keeping view sound →
      ∀ (clusters : Clusters) (earlier : List Request) (r : Request) s,
        r.required ≤ 2 ^ 63 - 2 ^ 30 → sound s →
        let before := (runAll handler (earlier.map fun r => (r.answer clusters).run) s).2
        let last := (r.answer clusters).run.run handler before
        ∀ answer capacity, last.1 = .ok answer → answer.capacity? = some capacity →
          Granted clusters r capacity (view last.2) := by
  have told : toldAfter [creationOf 1] (creationOf 3221225472) = some 3221225472 := by
    decide +kernel
  have one : (leftBy [creationOf 1, creationOf 3221225472]).quotas onlyPlace = some 1 := by
    decide +kernel
  have place : (creationOf 3221225472).place? oneCluster = some onlyPlace := by decide +kernel
  refine ⟨told, one, fun always => ?_⟩
  obtain ⟨answer, answered, capacity⟩ := exists_of_told told
  obtain ⟨place', n, known, there, same⟩ := always Engine.View Engine.quiet.keeper _ _
    (Engine.Host.behaves_keeping Engine.quiet.keeper_behaves) oneCluster [creationOf 1]
    (creationOf 3221225472) _ (by decide) trivial answer 3221225472 answered capacity
  obtain rfl : onlyPlace = place' := Option.some.inj (place.symm.trans known)
  obtain rfl : 1 = n := Option.some.inj (one.symm.trans there)
  revert same
  decide

end Controller

end FuseVolumes
