import FuseVolumes.Proofs.Dict
import FuseVolumes.Proofs.Repetition
import FuseVolumes.Proofs.Text.Trim
import FuseVolumes.Proofs.Volume
import Mathlib.Data.List.Forall2

/-!
# Known clusters

A list of clusters is refused for the first id that is there a second time, and for nothing else
(`ofEntries_eq_error_iff`). Otherwise every cluster of the list is known, with its URL up to the
slashes at the end (`ofEntries_eq_ok_iff`, `trimUrl_eq_iff`). So it does not matter in which order
the clusters are listed and how many slashes their URLs end in: the same volumes are made of the
same texts, with the same files (`clusters_looked_up`).
-/

namespace FuseVolumes.Clusters

variable {c c' : Clusters} {entries entries' : List (String × String)} {id url base : String}
  {e : Error} {v : Volume}

/-! ## URLs -/

def slashes (n : Nat) : String := .ofList (List.replicate n '/')

/-- A URL without any of the slashes that it ends in. -/
def Trims (url base : String) : Prop :=
  base.toList.getLast? ≠ some '/' ∧ ∃ n, url = base ++ slashes n

theorem trimUrl_eq_iff : trimUrl url = base ↔ Trims url base := by
  have chars : trimUrl url = base ↔ Text.trimEnd (· == '/') url.toList = base.toList := by
    rw [trimUrl, ← String.toList_inj, String.toList_ofList]
  have written (n : Nat) : url = base ++ slashes n ↔
      url.toList = base.toList ++ List.replicate n '/' := by
    rw [← String.toList_inj, String.toList_append, slashes, String.toList_ofList]
  rw [chars, Text.trimEnd_eq_iff, Trims]
  simp only [written, beq_iff_eq, beq_eq_false_iff_ne]
  constructor
  · rintro ⟨back, whole, dropped, kept⟩
    refine ⟨fun ends => kept '/' ends rfl, back.length, ?_⟩
    rw [whole, List.eq_replicate_iff.2 ⟨rfl, dropped⟩, List.length_replicate]
  · rintro ⟨kept, n, whole⟩
    refine ⟨_, whole, fun c h => List.eq_of_mem_replicate h, ?_⟩
    rintro c ends rfl
    exact kept ends

theorem trims_trimUrl (url : String) : Trims url (trimUrl url) := trimUrl_eq_iff.1 rfl

theorem toList_slashes (n : Nat) : (slashes n).toList = List.replicate n '/' :=
  String.toList_ofList

theorem trimUrl_append_slashes (base : String) (n : Nat) :
    trimUrl (base ++ slashes n) = trimUrl base := by
  obtain ⟨kept, m, whole⟩ := trims_trimUrl base
  refine trimUrl_eq_iff.2 ⟨kept, m + n, ?_⟩
  rw [← String.toList_inj] at whole ⊢
  simp only [String.toList_append, toList_slashes] at whole ⊢
  rw [whole, List.append_assoc, List.replicate_append_replicate]

/-! ## Lists -/

def ids (c : Clusters) : List String := c.urls.map Prod.fst

/-- A cluster as it is kept. -/
def kept (entry : String × String) : String × String := (entry.1, trimUrl entry.2)

theorem add_of_mem (url : String) (known : id ∈ c.ids) :
    c.add id url = .error (.duplicateCluster id) := by
  rw [add]
  split
  next => rfl
  next none => exact absurd known (Dict.get?_eq_none_iff.1 none)

theorem add_of_not_mem (url : String) (new : id ∉ c.ids) :
    c.add id url = .ok ⟨c.urls ++ [kept (id, url)]⟩ := by
  have none : c.urls.lookup id = none := Dict.get?_eq_none_iff.2 new
  rw [add, none]
  rfl

theorem ids_append (c : Clusters) (entry : String × String) :
    ids ⟨c.urls ++ [kept entry]⟩ = c.ids ++ [entry.1] := by
  rw [ids, List.map_append]
  rfl

/-- Clusters are added until one is there already. -/
theorem addAll_eq_error_iff (distinct : c.ids.Nodup) : c.addAll entries = .error e ↔
    ∃ id, FirstRepeat (c.ids ++ entries.map Prod.fst) id ∧ e = .duplicateCluster id := by
  induction entries generalizing c with
  | nil =>
    refine iff_of_false nofun ?_
    rintro ⟨id, repeated, -⟩
    rw [List.map_nil, List.append_nil] at repeated
    exact repeated.not_nodup distinct
  | cons entry entries ih =>
    obtain ⟨id, url⟩ := entry
    rw [addAll, List.map_cons]
    by_cases known : id ∈ c.ids
    · rw [add_of_mem url known]
      simp [firstRepeat_append_iff distinct known, eq_comm]
    · rw [add_of_not_mem url known]
      have next : (ids ⟨c.urls ++ [kept (id, url)]⟩).Nodup := by
        rw [ids_append]
        grind [List.nodup_append]
      dsimp only
      rw [ih next, ids_append, List.append_assoc, List.singleton_append]

theorem addAll_of_nodup (distinct : (c.ids ++ entries.map Prod.fst).Nodup) :
    c.addAll entries = .ok ⟨c.urls ++ entries.map kept⟩ := by
  induction entries generalizing c with
  | nil => rw [List.map_nil, List.append_nil, addAll]
  | cons entry entries ih =>
    obtain ⟨id, url⟩ := entry
    rw [List.map_cons] at distinct
    have new : id ∉ c.ids := fun known =>
      (List.nodup_append.1 distinct).2.2 id known id List.mem_cons_self rfl
    rw [addAll, add_of_not_mem url new]
    dsimp only
    rw [ih, List.append_assoc, List.singleton_append, List.map_cons]
    rwa [ids_append, List.append_assoc, List.singleton_append]

theorem ofEntries_eq_error_iff : ofEntries entries = .error e ↔
    ∃ id, FirstRepeat (entries.map Prod.fst) id ∧ e = .duplicateCluster id :=
  addAll_eq_error_iff List.nodup_nil

theorem ofEntries_eq_ok_iff : ofEntries entries = .ok c ↔
    (entries.map Prod.fst).Nodup ∧ c = ⟨entries.map kept⟩ := by
  have made (distinct : (entries.map Prod.fst).Nodup) :
      ofEntries entries = .ok ⟨entries.map kept⟩ := addAll_of_nodup distinct
  constructor
  · intro listed
    by_cases distinct : (entries.map Prod.fst).Nodup
    · exact ⟨distinct, Except.ok.inj (listed.symm.trans (made distinct))⟩
    · obtain ⟨id, repeated⟩ := exists_firstRepeat_iff.2 distinct
      cases listed.symm.trans (ofEntries_eq_error_iff.2 ⟨id, repeated, rfl⟩)
  · rintro ⟨distinct, rfl⟩
    exact made distinct

theorem map_fst_kept (entries : List (String × String)) :
    (entries.map kept).map Prod.fst = entries.map Prod.fst := by
  rw [List.map_map]
  rfl

/-! ## Looking up -/

theorem url_eq_ok_iff : c.url id = .ok url ↔ Dict.get? c.urls id = some url := by
  rw [Clusters.url, Dict.get?]
  cases c.urls.lookup id <;> simp

theorem url_eq_unknown_iff :
    c.url id = .error (.unknownCluster id) ↔ Dict.get? c.urls id = none := by
  rw [Clusters.url, Dict.get?]
  cases c.urls.lookup id <;> simp

theorem url_congr (same : Dict.get? c'.urls id = Dict.get? c.urls id) : c'.url id = c.url id := by
  rw [Clusters.url, Clusters.url]
  unfold Dict.get? at same
  rw [same]

/-! ## Volumes -/

/-- A volume in one of the clusters, whatever it is made of. -/
inductive Holds (c : Clusters) (v : Volume) : Prop
  | ofRequest {request owner : String} {parameters : Dict} {required : Int}
      (made : Volume.ofRequest request parameters required owner c = .ok v)
  | ofHandle {id : String} {size : Option Int} (made : Volume.ofHandle id size c = .ok v)
  | ofStatic {id : String} {context : Dict} (made : Volume.ofStatic id context c = .ok v)

theorem Holds.known (h : c.Holds v) : c.url v.cluster = .ok v.baseUrl := by
  cases h with
  | ofRequest made => exact (Volume.known_of_ofRequest made).1
  | ofHandle made => exact (Volume.known_of_ofHandle made).1
  | ofStatic made =>
    obtain ⟨-, cluster, url, -, known, rfl⟩ := Volume.ofStatic_eq_ok_iff.1 made
    exact known

/-- The same clusters under the same URLs, and so the same volumes. -/
structure Agrees (c c' : Clusters) : Prop where
  size : c'.size = c.size
  url : ∀ id, c'.url id = c.url id
  ofRequest : ∀ request parameters required owner,
    Volume.ofRequest request parameters required owner c' =
      Volume.ofRequest request parameters required owner c
  ofHandle : ∀ id size, Volume.ofHandle id size c' = Volume.ofHandle id size c
  ofStatic : ∀ id context, Volume.ofStatic id context c' = Volume.ofStatic id context c
  resolve : ∀ id context, Volume.resolve id context c' = Volume.resolve id context c

theorem agrees_of_perm (distinct : c.ids.Nodup) (same : c.urls.Perm c'.urls) : c.Agrees c' := by
  have url (id : String) : c'.url id = c.url id := url_congr (Dict.get?_perm same distinct id).symm
  have found (id : String) : Volume.clusterUrl c' id = Volume.clusterUrl c id :=
    congrArg (Except.mapError Volume.Error.cluster) (url id)
  have ofHandle (id : String) (size : Option Int) :
      Volume.ofHandle id size c' = Volume.ofHandle id size c := by
    simp only [Volume.ofHandle, found]
  have ofStatic (id : String) (context : Dict) :
      Volume.ofStatic id context c' = Volume.ofStatic id context c := by
    simp only [Volume.ofStatic, found]
  refine ⟨same.length_eq.symm, url, ?_, ofHandle, ofStatic, ?_⟩
  · intros
    simp only [Volume.ofRequest, found]
  · intros
    simp only [Volume.resolve, ofHandle, ofStatic]

/-! ## Lists that are read alike -/

/-- One cluster, with so many slashes behind its URL or with another number of them. -/
def Respelled (entry entry' : String × String) : Prop :=
  entry'.1 = entry.1 ∧ ∃ base n n', entry.2 = base ++ slashes n ∧ entry'.2 = base ++ slashes n'

theorem Respelled.kept {entry entry' : String × String} (h : Respelled entry entry') :
    kept entry = kept entry' := by
  obtain ⟨id, base, n, n', written, written'⟩ := h
  rw [Clusters.kept, Clusters.kept, id, written, written', trimUrl_append_slashes,
    trimUrl_append_slashes]

/-- Two lists of the same clusters, in any order. -/
def Alike (entries entries' : List (String × String)) : Prop :=
  ∃ ordered, entries.Perm ordered ∧ List.Forall₂ Respelled ordered entries'

theorem map_kept_of_respelled (h : List.Forall₂ Respelled entries entries') :
    entries.map kept = entries'.map kept := by
  induction h with
  | nil => rfl
  | cons same _ ih => rw [List.map_cons, List.map_cons, same.kept, ih]

theorem Alike.kept (h : Alike entries entries') : (entries.map kept).Perm (entries'.map kept) := by
  obtain ⟨ordered, reordered, respelled⟩ := h
  rw [← map_kept_of_respelled respelled]
  exact reordered.map _

theorem Alike.agrees (h : Alike entries entries') (listed : ofEntries entries = .ok c) :
    ∃ c', ofEntries entries' = .ok c' ∧ c.Agrees c' := by
  obtain ⟨distinct, rfl⟩ := ofEntries_eq_ok_iff.1 listed
  have ids := h.kept.map Prod.fst
  rw [map_fst_kept, map_fst_kept] at ids
  refine ⟨_, ofEntries_eq_ok_iff.2 ⟨ids.nodup_iff.1 distinct, rfl⟩, ?_⟩
  exact agrees_of_perm (by rwa [Clusters.ids, map_fst_kept]) h.kept

/-- **Looked up.** A list of clusters is refused if and only if some id is there twice, for the
first one that is there a second time. Otherwise there are as many clusters as the list has, each
under its URL without the slashes at the end, and no others; the client files of every volume are
found below the URL of its cluster. Neither the order of the list nor the number of slashes at the
end of a URL makes a difference to any cluster or volume. -/
theorem clusters_looked_up (entries : List (String × String)) :
    ((∃ e, ofEntries entries = .error e) ↔ ¬ (entries.map Prod.fst).Nodup) ∧
    (∀ e, ofEntries entries = .error e ↔
      ∃ id, FirstRepeat (entries.map Prod.fst) id ∧ e = .duplicateCluster id) ∧
    ∀ c, ofEntries entries = .ok c →
      c.size = entries.length ∧
      (∀ id url, (id, url) ∈ entries → ∃ base, Trims url base ∧ c.url id = .ok base) ∧
      (∀ id, id ∉ entries.map Prod.fst → c.url id = .error (.unknownCluster id)) ∧
      (∀ v, c.Holds v → ∃ url base, (v.cluster, url) ∈ entries ∧ Trims url base ∧
        v.poolUrl = base ++ "/fastcfs/auth/client.conf" ∧
        v.fuseUrl = base ++ "/fastcfs/fcfs/fuse.conf") ∧
      ∀ entries', Alike entries entries' → ∃ c', ofEntries entries' = .ok c' ∧ c.Agrees c' := by
  refine ⟨?_, fun e => ofEntries_eq_error_iff, fun c listed => ?_⟩
  · rw [← exists_firstRepeat_iff]
    constructor
    · rintro ⟨e, refused⟩
      obtain ⟨id, repeated, -⟩ := ofEntries_eq_error_iff.1 refused
      exact ⟨id, repeated⟩
    · rintro ⟨id, repeated⟩
      exact ⟨_, ofEntries_eq_error_iff.2 ⟨id, repeated, rfl⟩⟩
  · have alike (entries' : List (String × String)) (h : Alike entries entries') :=
      h.agrees listed
    obtain ⟨distinct, rfl⟩ := ofEntries_eq_ok_iff.1 listed
    have map : Dict.IsMap (entries.map kept) := by rwa [Dict.IsMap, map_fst_kept]
    refine ⟨List.length_map _, fun id url mem => ?_, fun id new => ?_, fun v h => ?_, alike⟩
    · exact ⟨_, trims_trimUrl url,
        url_eq_ok_iff.2 ((Dict.get?_eq_some_iff map).2 (List.mem_map.2 ⟨_, mem, rfl⟩))⟩
    · exact url_eq_unknown_iff.2 (Dict.get?_eq_none_iff.2 (by rwa [map_fst_kept]))
    · have found := (Dict.get?_eq_some_iff map).1 (url_eq_ok_iff.1 h.known)
      obtain ⟨⟨id, url⟩, mem, same⟩ := List.mem_map.1 found
      obtain ⟨rfl, based⟩ := Prod.mk.inj same
      exact ⟨url, v.baseUrl, mem, trimUrl_eq_iff.1 based, rfl, rfl⟩

/-- Three clusters in another order and with other slashes, one of them without a name and one of
which no more than slashes is known; and a list of four that repeats two ids. -/
theorem clusters_looked_up_in_other_order :
    (∃ c c', ofEntries [("1", "http://fcfs//"), ("", "y"), ("2", "///")] = .ok c ∧
      ofEntries [("2", ""), ("1", "http://fcfs"), ("", "y/")] = .ok c' ∧
      c.size = 3 ∧ c.url "3" = .error (.unknownCluster "3") ∧ c'.url "2" = c.url "2" ∧
      Volume.resolve "0001-1-0005-admin-000d-csi-vol-pvc-1" [] c' =
        Volume.resolve "0001-1-0005-admin-000d-csi-vol-pvc-1" [] c) ∧
    ofEntries [("1", "x"), ("2", "y"), ("2", "z"), ("1", "w")] = .error (.duplicateCluster "2") := by
  have listed : ∃ c, ofEntries [("1", "http://fcfs//"), ("", "y"), ("2", "///")] = .ok c :=
    ⟨_, ofEntries_eq_ok_iff.2 ⟨by decide, rfl⟩⟩
  obtain ⟨c, listed⟩ := listed
  obtain ⟨-, -, known⟩ := clusters_looked_up [("1", "http://fcfs//"), ("", "y"), ("2", "///")]
  obtain ⟨size, -, unknown, -, alike⟩ := known c listed
  have reordered : Alike [("1", "http://fcfs//"), ("", "y"), ("2", "///")]
      [("2", ""), ("1", "http://fcfs"), ("", "y/")] := by
    refine ⟨[("2", "///"), ("1", "http://fcfs//"), ("", "y")], by decide, ?_⟩
    exact .cons ⟨rfl, "", 3, 0, by decide, by decide⟩
      (.cons ⟨rfl, "http://fcfs", 2, 0, by decide, by decide⟩
        (.cons ⟨rfl, "y", 0, 1, by decide, by decide⟩ .nil))
  obtain ⟨c', listed', agrees⟩ := alike _ reordered
  obtain ⟨-, refused, -⟩ := clusters_looked_up [("1", "x"), ("2", "y"), ("2", "z"), ("1", "w")]
  refine ⟨⟨c, c', listed, listed', size, unknown "3" (by decide), agrees.url "2",
    agrees.resolve _ _⟩, (refused _).2 ⟨"2", ?_, rfl⟩⟩
  exact ⟨["1", "2"], ["1"], rfl, by decide, by decide⟩

end FuseVolumes.Clusters
