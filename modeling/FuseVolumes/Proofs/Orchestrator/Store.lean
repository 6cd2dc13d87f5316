import FuseVolumes.Orchestrator.Store
import FuseVolumes.Proofs.Except
import FuseVolumes.Proofs.Program.Requests

/-!
What work with the orchestrator depends on. Requests leave the store alone (`Session.run_store`), so
work has the answer that the store determines, whatever was asked for before (`Session.run_congr`).
-/

namespace FuseVolumes.Orchestrator

open Program

/-! ## The store decides -/

theorem Session.find_store {α : Type} (s : Session) (kind : Kind) (objects : List (Entry α))
    (ns : Option String) (name : String) : (s.find kind objects ns name).2.store = s.store := by
  rw [Session.find]
  split <;> rfl

theorem Session.find_congr {α : Type} {s t : Session} (h : s.store = t.store) (kind : Kind)
    (objects : List (Entry α)) (ns : Option String) (name : String) :
    (s.find kind objects ns name).1 = (t.find kind objects ns name).1 := by
  rw [Session.find, Session.find]
  split
  · rfl
  · rw [h]

theorem handle_store (call : Call) (s : Session) : (handle call s).2.store = s.store := by
  cases call with
  | node name | claim ns name | secret ns name => exact s.find_store _ _ _ _
  | attachments | volumes | pods node | classes | log event => rfl

theorem handle_congr {s t : Session} (h : s.store = t.store) (call : Call) :
    (handle call s).1 = (handle call t).1 := by
  cases call with
  | node name | claim ns name =>
    simp only [handle, h]
    exact Session.find_congr h _ _ _ _
  | secret ns name =>
    simp only [handle, h]
    rw [Session.find_congr h]
  | attachments | volumes | classes => simp only [handle, Session.list, h]
  | pods node => simp only [handle, h]
  | log event => rfl

theorem run_store {α : Type} (p : Program interface α) (s : Session) :
    (p.run handle s).2.store = s.store := by
  induction p generalizing s with
  | done a => rfl
  | ask call next ih => exact (ih _ _).trans (handle_store call s)

theorem run_congr {α : Type} (p : Program interface α) {s t : Session} (h : s.store = t.store) :
    (p.run handle s).1 = (p.run handle t).1 := by
  induction p generalizing s t with
  | done a => rfl
  | ask call next ih =>
    simp only [Program.run]
    rw [handle_congr h]
    exact ih _ ((handle_store call s).trans (h.trans (handle_store call t).symm))

/-! ## Answers -/

variable {ε α β : Type} {s : Session}

/-- What comes after does not see what was asked before. -/
theorem run_bind_fst (p : Program interface α) (f : α → Program interface β) (s : Session) :
    ((p >>= f).run handle s).1 = ((f (p.run handle s).1).run handle s).1 := by
  change ((p.bind f).run handle s).1 = _
  rw [run_bind]
  exact run_congr _ (run_store p s)

theorem Session.run_bind_fst (x : Work ε α) (f : α → Work ε β) (s : Session) :
    (s.run (x >>= f)).1 = (s.run x).1 >>= fun a => (s.run (f a)).1 := by
  change ((x.run >>= ExceptT.bindCont f).run handle s).1 = _
  rw [Orchestrator.run_bind_fst, Session.run]
  cases (x.run.run handle s).1 <;> rfl

theorem Session.run_bind_eq_ok_iff {x : Work ε α} {f : α → Work ε β} {b : β} :
    (s.run (x >>= f)).1 = .ok b ↔ ∃ a, (s.run x).1 = .ok a ∧ (s.run (f a)).1 = .ok b := by
  rw [Session.run_bind_fst, bind_eq_ok_iff]

theorem Session.run_orFail_eq_ok_iff {δ : Type} {reply : Program interface (Except δ α)}
    {words : δ → ε} {a : α} :
    (s.run (reply.orFail words)).1 = .ok a ↔ (reply.run handle s).1 = .ok a := by
  have split : (s.run (reply.orFail words)).1 = ((reply.run handle s).1).mapError words :=
    congrArg Prod.fst (run_run_orFail handle reply words s)
  rw [split, mapError_eq_ok_iff]

theorem Session.run_liftM (p : Program interface α) :
    (s.run (liftM p : Work ε α)).1 = .ok (p.run handle s).1 :=
  congrArg Prod.fst (Program.run_liftM handle p s)

/-! ## Lists of objects -/

theorem mapM_readable_iff {objects : List (Option α)} {found : List α} :
    objects.mapM Store.readable = .ok found ↔ objects = found.map some := by
  induction objects generalizing found with
  | nil =>
    cases found with
    | nil => exact iff_of_true rfl rfl
    | cons first rest => exact iff_of_false nofun nofun
  | cons object objects ih =>
    rw [List.mapM_cons]
    cases object with
    | none =>
      refine iff_of_false nofun fun h => ?_
      cases found <;> cases h
    | some object =>
      rw [bind_eq_ok_iff]
      constructor
      · rintro ⟨_, ⟨⟩, h⟩
        obtain ⟨rest, hrest, h⟩ := bind_eq_ok_iff.1 h
        cases h
        rw [ih.1 hrest, List.map_cons]
      · intro h
        cases found with
        | nil => cases h
        | cons first rest =>
          rw [List.map_cons, List.cons.injEq, Option.some.injEq] at h
          obtain ⟨rfl, h⟩ := h
          exact ⟨_, rfl, bind_eq_ok_iff.2 ⟨rest, ih.2 h, rfl⟩⟩

theorem list_eq_ok_iff {store : Store} {kind : Kind} {objects : List (Option α)} {found : List α} :
    store.list kind objects = .ok found ↔
      store.refusals.lookup kind = none ∧ objects = found.map some := by
  rw [Store.list]
  cases store.refusals.lookup kind with
  | some refusal => exact iff_of_false nofun nofun
  | none => rw [mapM_readable_iff, and_iff_right rfl]

theorem filterMap_id_map_some (found : List α) : (found.map some).filterMap id = found := by
  rw [List.filterMap_map, Function.id_comp, List.filterMap_some]

theorem isAttached_iff {names : List String} {driver : String} {v : PersistentVolume} :
    Metadata.isAttached names driver v = true ↔
      (∃ source ∈ v.source, source.driver = driver) ∧ ∃ name ∈ v.name, name ∈ names := by
  rw [Metadata.isAttached]
  split
  next name source named sourced =>
    rw [Bool.and_eq_true, List.contains_iff_mem, beq_iff_eq, named, sourced]
    simp only [Option.mem_some_iff, exists_eq_left']
    exact and_comm
  next other =>
    refine iff_of_false Bool.false_ne_true ?_
    rintro ⟨⟨source, sourced, -⟩, name, named, -⟩
    exact other name source named sourced

/-- Without a name there is no volume. -/
theorem filter_isAttached_nil (volumes : List PersistentVolume) (driver : String) :
    volumes.filter (Metadata.isAttached [] driver) = [] := by
  refine List.filter_eq_nil_iff.2 fun v _ attached => ?_
  obtain ⟨-, name, -, named⟩ := isAttached_iff.1 attached
  cases named

/-- The volumes that a driver has attached to a node, of those that can be read. -/
def Store.attached (s : Store) (node driver : String) : List PersistentVolume :=
  (s.volumes.filterMap id).filter
    (Metadata.isAttached (Metadata.attachedNames (s.attachments.filterMap id) node driver) driver)

/-- The pods on a node that can be read. -/
def Store.podsOn (s : Store) (node : String) : List Pod :=
  ((s.pods.filter (·.1 == node)).map (·.2)).filterMap id

/-- The storage classes of a driver that can be read. -/
def Store.classesOf (s : Store) (driver : String) : List StorageClass :=
  (s.classes.filterMap id).filter (·.provisioner == driver)

theorem attachedVolumes_eq_ok_iff {node driver : String} {volumes : List PersistentVolume} :
    (s.run (Metadata.attachedVolumes node driver)).1 = .ok volumes ↔
      ∃ attachments, s.store.list .attachments s.store.attachments = .ok attachments ∧
        (Metadata.attachedNames attachments node driver = [] ∧ volumes = [] ∨
          Metadata.attachedNames attachments node driver ≠ [] ∧
            ∃ found, s.store.list .volumes s.store.volumes = .ok found ∧ volumes = found.filter
              (Metadata.isAttached (Metadata.attachedNames attachments node driver) driver)) := by
  rw [Metadata.attachedVolumes, Session.run_bind_eq_ok_iff]
  refine exists_congr fun attachments => and_congr Session.run_orFail_eq_ok_iff ?_
  dsimp only
  cases Metadata.attachedNames attachments node driver with
  | nil =>
    change Except.ok [] = Except.ok volumes ↔ _
    simp [eq_comm]
  | cons name names =>
    have filled : ¬ (name :: names).isEmpty = true := by simp
    rw [if_neg filled, Session.run_bind_eq_ok_iff]
    simp only [reduceCtorEq, false_and, false_or, ne_eq, not_false_eq_true, true_and]
    refine exists_congr fun found => and_congr Session.run_orFail_eq_ok_iff ?_
    change Except.ok _ = Except.ok volumes ↔ _
    rw [Except.ok.injEq, eq_comm]

theorem attached_of_run {node driver : String} {volumes : List PersistentVolume}
    (h : (s.run (Metadata.attachedVolumes node driver)).1 = .ok volumes) :
    volumes = s.store.attached node driver := by
  obtain ⟨attachments, hattachments, h⟩ := attachedVolumes_eq_ok_iff.1 h
  rw [Store.attached, (list_eq_ok_iff.1 hattachments).2, filterMap_id_map_some]
  rcases h with ⟨none, rfl⟩ | ⟨-, found, hfound, rfl⟩
  · rw [none, filter_isAttached_nil]
  · rw [(list_eq_ok_iff.1 hfound).2, filterMap_id_map_some]

theorem podsOnNode_eq_ok_iff {node : String} {pods : List Pod} :
    (s.run (Metadata.podsOnNode node)).1 = .ok pods ↔
      s.store.list .pods ((s.store.pods.filter (·.1 == node)).map (·.2)) = .ok pods :=
  Session.run_orFail_eq_ok_iff

theorem podsOn_of_run {node : String} {pods : List Pod}
    (h : (s.run (Metadata.podsOnNode node)).1 = .ok pods) : pods = s.store.podsOn node := by
  rw [Store.podsOn, (list_eq_ok_iff.1 (podsOnNode_eq_ok_iff.1 h)).2, filterMap_id_map_some]

theorem classesOf_of_run {driver : String} {classes : List StorageClass}
    (h : (s.run (Metadata.storageClasses driver)).1 = .ok classes) :
    classes = s.store.classesOf driver := by
  obtain ⟨found, hfound, h⟩ := Session.run_bind_eq_ok_iff.1 h
  have listed := list_eq_ok_iff.1 (Session.run_orFail_eq_ok_iff.1 hfound)
  cases h
  rw [Store.classesOf, listed.2, filterMap_id_map_some]

end FuseVolumes.Orchestrator
