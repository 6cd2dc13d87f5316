import FuseVolumes.Recovery.Kubelet
import FuseVolumes.Proofs.Path.Place
import Mathlib.Data.List.Nodup

/-!
# Paths of mounts

The paths of different mounts differ. `Place` tells which mount a path is for. A path below a root
tells the names on the way (`Place.path_inj`), and these tell the place (`Place.eq_of_names_eq`), so
the text of a path is that of one place alone (`Place.path_injective`). Where a path leads is told
by the same names if none of them is a dot or two (`Place.place_path_injective`).
-/

namespace FuseVolumes.Recovery.Kubelet

/-- What a mount is for: a volume on the node, a volume in a pod, or a path below one in one of the
pod's containers. -/
inductive Place
  | node (volume : String)
  | pod (uid volume : String)
  | container (uid volume name : String) (index : Nat)

namespace Place

def parts : Place → List String
  | node volume => ["plugins/kubernetes.io/csi/pv", volume, "globalmount"]
  | pod uid volume => ["pods", uid, "volumes/kubernetes.io~csi", volume, "mount"]
  | container uid volume name index =>
    ["pods", uid, "volume-subpaths", volume, name, toString index]

def path (root : String) (place : Place) : String := Path.joinAll root place.parts

/-- All names in it can be names of directories. -/
def Named : Place → Prop
  | node volume => Path.IsName volume
  | pod uid volume => Path.IsName uid ∧ Path.IsName volume
  | container uid volume name _ => Path.IsName uid ∧ Path.IsName volume ∧ Path.IsName name

/-- The names of the directories that lead to it. -/
def names : Place → List String
  | node volume => ["plugins", "kubernetes.io", "csi", "pv", volume, "globalmount"]
  | pod uid volume => ["pods", uid, "volumes", "kubernetes.io~csi", volume, "mount"]
  | container uid volume name index =>
    ["pods", uid, "volume-subpaths", volume, name, toString index]

theorem parts_isPart {place : Place} (named : place.Named) :
    ∀ part ∈ place.parts, Path.IsPart part := by
  cases place with
  | node volume =>
    simpa [parts] using ⟨by decide, named.isPart, by decide⟩
  | pod uid volume =>
    simpa [parts] using ⟨by decide, named.1.isPart, by decide, named.2.isPart, by decide⟩
  | container uid volume name index =>
    simpa [parts] using ⟨by decide, named.1.isPart, by decide, named.2.1.isPart,
      named.2.2.isPart, (Path.isName_toString index).isPart⟩

theorem parts_pieces {place : Place} (named : place.Named) :
    place.parts.flatMap Path.pieces = place.names.map String.toList := by
  cases place with
  | node volume =>
    have plugins : Path.pieces "plugins/kubernetes.io/csi/pv" =
      ["plugins", "kubernetes.io", "csi", "pv"].map String.toList := by decide
    have global : Path.IsName "globalmount" := by decide
    simp [parts, names, named.pieces, plugins, global.pieces]
  | pod uid volume =>
    have pods : Path.IsName "pods" := by decide
    have volumes : Path.pieces "volumes/kubernetes.io~csi" =
      ["volumes", "kubernetes.io~csi"].map String.toList := by decide
    have mount : Path.IsName "mount" := by decide
    simp [parts, names, named.1.pieces, named.2.pieces, pods.pieces, volumes, mount.pieces]
  | container uid volume name index =>
    have pods : Path.IsName "pods" := by decide
    have below : Path.IsName "volume-subpaths" := by decide
    have position := Path.isName_toString index
    simp only [parts, names, List.flatMap_cons, List.flatMap_nil, List.map_cons, List.map_nil,
      List.singleton_append, List.append_nil, named.1.pieces, named.2.1.pieces, named.2.2.pieces,
      pods.pieces, below.pieces, position.pieces]

/-- A path tells the names on the way to its place. -/
theorem path_inj {root : String} {place place' : Place} (named : place.Named)
    (named' : place'.Named) (same : place.path root = place'.path root) :
    place.names = place'.names := by
  have filled (place : Place) : place.parts ≠ [] := by cases place <;> simp [parts]
  have cut := Path.joinAll_inj (filled place) (filled place') (parts_isPart named)
    (parts_isPart named') same
  rw [parts_pieces named, parts_pieces named'] at cut
  exact (List.map_inj_right fun _ _ => String.toList_inj.1).1 cut

/-- A number is told by its digits. -/
theorem index_eq_of_toString_eq {index index' : Nat} (same : toString index = toString index') :
    index = index' := by
  have digits : Nat.toDigits 10 index = Nat.toDigits 10 index' := by
    rw [← Nat.toList_repr, ← Nat.toList_repr]
    exact congrArg String.toList same
  have read := congrArg (Nat.ofDigitChars 10 · 0) digits
  simpa only [Nat.ofDigitChars_ten_toDigits] using read

theorem eq_of_names_eq {place place' : Place} (same : place.names = place'.names) :
    place = place' := by
  cases place with
  | node volume =>
    cases place' with
    | node volume' => simpa [names] using same
    | pod | container => simp [names] at same
  | pod uid volume =>
    cases place' with
    | pod uid' volume' => simpa [names] using same
    | node | container => simp [names] at same
  | container uid volume name index =>
    cases place' with
    | container uid' volume' name' index' =>
      simp only [names, List.cons.injEq, and_true, true_and] at same
      obtain ⟨rfl, rfl, rfl, number⟩ := same
      rw [index_eq_of_toString_eq number]
    | node | pod => simp [names] at same

end Place

/-! ## Paths -/

theorem podVolume_eq (root uid volume : String) :
    podVolume root uid volume = (Place.pod uid volume).path root := rfl

theorem subPath_eq (root uid volume container : String) (index : Nat) :
    subPath root uid volume container index =
      (Place.container uid volume container index).path root := rfl

/-! Whatever the names are, the mount of a volume on the node is at another path than those of pods,
as the last parts differ. -/

theorem globalMount_ne_podVolume (root volume uid volume' : String) :
    globalMount root volume ≠ podVolume root uid volume' := by
  intro same
  change Path.join _ "globalmount" = Path.join _ "mount" at same
  exact absurd (Path.name_eq_of_join_eq (by decide) (by decide) same) (by decide)

/-- The path of a container's mount ends in a number. -/
theorem join_ne_subPath (start root uid volume container : String) (index : Nat) {name : String}
    (h : Path.IsName name) {c : Char} (mem : c ∈ name.toList) (letter : c.isDigit = false) :
    Path.join start name ≠ subPath root uid volume container index := by
  intro same
  change Path.join _ name = Path.join _ (toString index) at same
  have number := Path.name_eq_of_join_eq h (Path.isName_toString index) same
  have digits : name.toList = Nat.toDigits 10 index := by
    rw [number]
    exact String.toList_ofList
  rw [digits] at mem
  have digit := Nat.isDigit_of_mem_toDigits (by decide) (by decide) mem
  exact absurd digit (by simp [letter])

theorem globalMount_ne_subPath (root volume uid volume' container : String) (index : Nat) :
    globalMount root volume ≠ subPath root uid volume' container index := by
  have letter : 'g' ∈ "globalmount".toList := by decide
  exact join_ne_subPath _ root uid volume' container index (by decide) letter (by decide)

theorem podVolume_ne_subPath (root uid volume uid' volume' container : String) (index : Nat) :
    podVolume root uid volume ≠ subPath root uid' volume' container index := by
  have letter : 'm' ∈ "mount".toList := by decide
  exact join_ne_subPath _ root uid' volume' container index (by decide) letter (by decide)

/-! ## Places told apart -/

namespace Place

/-- The names that it is made of. -/
def given : Place → List String
  | node volume => [volume]
  | pod uid volume => [uid, volume]
  | container uid volume name _ => [uid, volume, name]

theorem named_iff {place : Place} : place.Named ↔ ∀ name ∈ place.given, Path.IsName name := by
  cases place <;> simp [Named, given]

theorem path_injective {root : String} {place place' : Place} (named : place.Named)
    (named' : place'.Named) (same : place.path root = place'.path root) : place = place' :=
  eq_of_names_eq (path_inj named named' same)

theorem parts_plain {place : Place} (plain : ∀ name ∈ place.given, Path.Plain name) :
    ∀ part ∈ place.parts, Path.Plain part := by
  cases place with
  | node volume =>
    simp only [given, List.forall_mem_singleton] at plain
    simpa [parts] using ⟨by decide, plain, by decide⟩
  | pod uid volume =>
    simp only [given, List.forall_mem_cons, List.not_mem_nil, false_implies, implies_true,
      and_true] at plain
    simpa [parts] using ⟨by decide, plain.1, by decide, plain.2, by decide⟩
  | container uid volume name index =>
    simp only [given, List.forall_mem_cons, List.not_mem_nil, false_implies, implies_true,
      and_true] at plain
    have number := Path.plain_toString index
    simpa [parts] using ⟨by decide, plain.1, by decide, plain.2.1, plain.2.2, number⟩

/-- Where a path leads from the root. -/
theorem place_path (root : String) {place : Place} (named : place.Named)
    (plain : ∀ name ∈ place.given, Path.Plain name) :
    Path.place (place.path root) = ⟨(Path.place root).absolute,
      (place.names.map String.toList).reverse ++ (Path.place root).names⟩ := by
  rw [path, Path.place_joinAll root (parts_plain plain), parts_pieces named]

theorem place_path_injective {root : String} {place place' : Place} (named : place.Named)
    (plain : ∀ name ∈ place.given, Path.Plain name) (named' : place'.Named)
    (plain' : ∀ name ∈ place'.given, Path.Plain name)
    (same : Path.place (place.path root) = Path.place (place'.path root)) : place = place' := by
  rw [place_path root named plain, place_path root named' plain', Path.Place.mk.injEq,
    List.append_cancel_right_eq, List.reverse_inj] at same
  exact eq_of_names_eq ((List.map_inj_right fun _ _ => String.toList_inj.1).1 same.2)

end Place

/-- As far as a path is read, it tells the mount it is for and all names that are given for it. -/
structure Apart {α : Type} (root : String) (ok : String → Prop) (read : String → α) : Prop where
  node : ∀ volume volume', ok volume → ok volume' →
    read (globalMount root volume) = read (globalMount root volume') → volume = volume'
  pod : ∀ uid volume uid' volume', ok uid → ok volume → ok uid' → ok volume' →
    read (podVolume root uid volume) = read (podVolume root uid' volume') →
    uid = uid' ∧ volume = volume'
  container : ∀ uid volume name index uid' volume' name' index',
    ok uid → ok volume → ok name → ok uid' → ok volume' → ok name' →
    read (subPath root uid volume name index) =
      read (subPath root uid' volume' name' index') →
    uid = uid' ∧ volume = volume' ∧ name = name' ∧ index = index'
  node_pod : ∀ volume uid volume', ok volume → ok uid → ok volume' →
    read (globalMount root volume) ≠ read (podVolume root uid volume')
  node_container : ∀ volume uid volume' name index,
    ok volume → ok uid → ok volume' → ok name →
    read (globalMount root volume) ≠ read (subPath root uid volume' name index)
  pod_container : ∀ uid volume uid' volume' name index,
    ok uid → ok volume → ok uid' → ok volume' → ok name →
    read (podVolume root uid volume) ≠ read (subPath root uid' volume' name index)

theorem apart_of_injective {α : Type} {root : String} {ok : String → Prop} {read : String → α}
    (inj : ∀ place place' : Place, (∀ name ∈ place.given, ok name) →
      (∀ name ∈ place'.given, ok name) → read (place.path root) = read (place'.path root) →
      place = place') : Apart root ok read := by
  have node {volume : String} (h : ok volume) : ∀ name ∈ (Place.node volume).given, ok name := by
    simpa [Place.given] using h
  have pod {uid volume : String} (h : ok uid) (h' : ok volume) :
      ∀ name ∈ (Place.pod uid volume).given, ok name := by
    simpa [Place.given] using ⟨h, h'⟩
  have container {uid volume name : String} (index : Nat) (h : ok uid) (h' : ok volume)
      (h'' : ok name) : ∀ name' ∈ (Place.container uid volume name index).given, ok name' := by
    simpa [Place.given] using ⟨h, h', h''⟩
  constructor
  case node =>
    intro volume volume' h h' same
    exact Place.node.inj (inj _ _ (node h) (node h') same)
  case pod =>
    intro uid volume uid' volume' hu hv hu' hv' same
    exact Place.pod.inj (inj _ _ (pod hu hv) (pod hu' hv') same)
  case container =>
    intro uid volume name index uid' volume' name' index' hu hv hn hu' hv' hn' same
    exact Place.container.inj
      (inj _ _ (container index hu hv hn) (container index' hu' hv' hn') same)
  case node_pod =>
    intro volume uid volume' h hu hv same
    cases inj _ _ (node h) (pod hu hv) same
  case node_container =>
    intro volume uid volume' name index h hu hv hn same
    cases inj _ _ (node h) (container index hu hv hn) same
  case pod_container =>
    intro uid volume uid' volume' name index hu hv hu' hv' hn same
    cases inj _ _ (pod hu hv) (container index hu' hv' hn) same

/-- **Apart.** Below one root the paths of mounts for different volumes, pods, containers and
positions are different texts, of whichever kind they are, if all names can be names of directories.
If none of the names is a dot or two dots, they also lead to different places. -/
theorem mounts_apart (root : String) :
    Apart root (fun name => name ≠ "" ∧ '/' ∉ name.toList) id ∧
    Apart root (fun name => (name ≠ "" ∧ '/' ∉ name.toList) ∧ name ≠ "." ∧ name ≠ "..")
      Path.place := by
  constructor
  · refine apart_of_injective fun place place' ok ok' => ?_
    exact Place.path_injective (Place.named_iff.2 ok) (Place.named_iff.2 ok')
  · have named {place : Place} (ok : ∀ name ∈ place.given,
        Path.IsName name ∧ name ≠ "." ∧ name ≠ "..") : place.Named :=
      Place.named_iff.2 fun name h => (ok name h).1
    have plain {place : Place} (ok : ∀ name ∈ place.given,
        Path.IsName name ∧ name ≠ "." ∧ name ≠ "..") : ∀ name ∈ place.given, Path.Plain name :=
      fun name h => (Path.IsName.plain_iff (ok name h).1).2 (ok name h).2
    refine apart_of_injective fun place place' ok ok' => ?_
    exact Place.place_path_injective (named ok) (plain ok) (named ok') (plain ok')

theorem mounts_apart_in_pod :
    podVolume "/var/lib/kubelet/" "uid" "volume-subpaths" ≠
      subPath "/var/lib/kubelet/" "uid" "mount" "kubernetes.io~csi" 0 ∧
    Path.place (subPath "/var/lib/kubelet/" "uid" "data" "1" 11) ≠
      Path.place (subPath "/var/lib/kubelet/" "uid" "data" "11" 1) := by
  constructor
  · have told := (mounts_apart "/var/lib/kubelet/").1.pod_container "uid" "volume-subpaths" "uid"
      "mount" "kubernetes.io~csi" 0 (by decide) (by decide) (by decide) (by decide) (by decide)
    simpa only [id_eq] using told
  · intro same
    have told := (mounts_apart "/var/lib/kubelet/").2.container "uid" "data" "1" 11 "uid" "data"
      "11" 1 (by decide) (by decide) (by decide) (by decide) (by decide) (by decide) same
    exact absurd told.2.2.1 (by decide)

/-- A slash in a name gives one text to two mounts. -/
example : subPath "/" "u" "a/b" "c" 0 = subPath "/" "u" "a" "b/c" 0 := by decide +kernel

/-- A dot leads to one place. -/
example : Path.place (subPath "/" "u" "." "a" 0) = Path.place (subPath "/" "u" "a" "." 0) := by
  decide +kernel

end FuseVolumes.Recovery.Kubelet
