import FuseVolumes.Host.Tree
import FuseVolumes.Proofs.Dict
import FuseVolumes.Proofs.Except
import FuseVolumes.Proofs.Path

/-!
# Files of a host

A tree grows when entries are added where nothing was (`Tree.Grows`). Whatever a path led to before,
it leads to the same afterwards (`Grows.find`), so the content of a file is the same as before
(`Grows.readText`). Directories that are made let a tree grow (`makeDirectories_grows`), and so does
a key that is written into a file of its own, where it can be read (`stageKey_reads`).
-/

namespace FuseVolumes.Host.Tree

variable {t t' t'' : Tree} {place : Place} {path name : String} {entry : Entry}

/-! ## Growth -/

/-- What was there is there still. -/
structure Grows (t t' : Tree) : Prop where
  workingDirectory : t'.workingDirectory = t.workingDirectory
  entries : ∀ place entry, t.entry? place = some entry → t'.entry? place = some entry

theorem Grows.refl (t : Tree) : Grows t t := ⟨rfl, fun _ _ h => h⟩

theorem Grows.trans (h : Grows t t') (h' : Grows t' t'') : Grows t t'' :=
  ⟨h'.workingDirectory.trans h.workingDirectory,
    fun place entry there => h'.entries place entry (h.entries place entry there)⟩

theorem put_entry (named : place ≠ []) (entry : Entry) (other : Place) :
    Tree.entry? (t.put place entry) other =
      if other = place then some entry else t.entry? other := by
  have filled : place.isEmpty = false := by simpa using named
  unfold Tree.entry? put
  by_cases h : other = place
  · rw [if_pos h, h, filled, List.lookup_cons_self]
    rfl
  · have ne : (other == place) = false := by simpa using h
    rw [if_neg h]
    dsimp only
    rw [List.lookup_cons, ne]
    dsimp only
    rw [Dict.lookup_filter_ne, ne]
    rfl

theorem put_grows (named : place ≠ []) (free : t.entry? place = none) (entry : Entry) :
    Grows t (t.put place entry) where
  workingDirectory := rfl
  entries other there found := by
    rw [put_entry named, if_neg ?_]
    · exact found
    · rintro rfl
      rw [free] at found
      cases found

namespace Grows

theorem step (h : Grows t t') {next : Place} (there : t.step place name = .ok next) :
    t'.step place name = .ok next := by
  unfold Tree.step at there ⊢
  split at there
  next directory =>
    rw [h.entries _ _ directory]
    dsimp only
    split at there
    next dot => rw [if_pos dot]; exact there
    next dot =>
      rw [if_neg dot]
      split at there
      next dots => rw [if_pos dots]; exact there
      next dots =>
        rw [if_neg dots]
        split at there
        next => cases there
        next long =>
          rw [if_neg long]
          split at there
          next found =>
            obtain ⟨entry, found⟩ := Option.isSome_iff_exists.1 found
            rw [h.entries _ _ found]
            exact there
          next => cases there
  next => cases there

theorem walk (h : Grows t t') {names : List String} {last : Place}
    (there : t.walk place names = .ok last) : t'.walk place names = .ok last := by
  induction names generalizing place with
  | nil => exact there
  | cons name names ih =>
    unfold Tree.walk at there ⊢
    cases stepped : t.step place name with
    | error fault =>
      rw [stepped] at there
      cases there
    | ok next =>
      rw [stepped] at there
      rw [h.step stepped]
      exact ih there

theorem route (h : Grows t t') (path : String) : t'.route path = t.route path := by
  unfold Tree.route
  rw [h.workingDirectory]

/-- A path leads where it led before. -/
theorem find (h : Grows t t') {found : Place × Entry} (there : t.find path = .ok found) :
    t'.find path = .ok found := by
  obtain ⟨route, routed, there⟩ := bind_eq_ok_iff.1 there
  obtain ⟨last, walked, there⟩ := bind_eq_ok_iff.1 there
  rw [Tree.find, h.route, routed]
  change (t'.walk route.start route.names >>= fun place => _) = _
  rw [h.walk walked]
  dsimp only [bind, Except.bind]
  cases entered : t.entry? last with
  | none =>
    rw [entered] at there
    cases there
  | some entry =>
    rw [entered] at there
    rw [h.entries _ _ entered]
    exact there

/-- A file has the content that it had before. -/
theorem readText (h : Grows t t') {text : String} (there : t.readText path = .ok text) :
    t'.readText path = .ok text := by
  obtain ⟨found, led, there⟩ := bind_eq_ok_iff.1 there
  rw [Tree.readText, h.find led]
  exact there

end Grows

/-! ## New names -/

theorem closed_of_route {route : Route} (h : t.route path = .ok route) :
    route.closed = Path.endsInSlash path := by
  unfold Tree.route at h
  split at h
  · cases h
  · split at h
    · cases h
    · split at h
      · cases h
      · cases h
        rfl

/-- The parent that a path leads to. -/
theorem findParent_eq_ok {parent : Place} {closed : Bool}
    (h : t.findParent path = .ok (parent, some name, closed)) :
    ∃ route above, t.route path = .ok route ∧ route.names = above ++ [name] ∧
      t.walk route.start above = .ok parent ∧ t.entry? parent = some .directory := by
  obtain ⟨route, routed, h⟩ := bind_eq_ok_iff.1 h
  cases reversed : route.names.reverse with
  | nil =>
    rw [reversed] at h
    cases h
  | cons last above =>
    rw [reversed] at h
    obtain ⟨place, walked, h⟩ := bind_eq_ok_iff.1 h
    split at h
    next => cases h
    next directory =>
      cases h
      have names : route.names = above.reverse ++ [name] := by
        rw [← List.reverse_reverse route.names, reversed, List.reverse_cons]
      exact ⟨route, above.reverse, routed, names, walked, Decidable.not_not.1 directory⟩

/-- A place for a new name is below a directory that the path leads to. -/
theorem vacant_eq_ok {taken : Fault} (h : t.vacant path taken = .ok place) :
    ∃ parent name closed, t.findParent path = .ok (parent, some name, closed) ∧
      name ≠ "." ∧ name ≠ ".." ∧ ¬ Text.byteLength name.toList > nameLimit ∧
      place = parent ++ [name] ∧ t.entry? place = none := by
  obtain ⟨⟨parent, name?, closed⟩, found, h⟩ := bind_eq_ok_iff.1 h
  split at h
  · cases h
  · cases h
  · cases h
  next name closed dot dots same =>
    cases same
    split at h
    next => cases h
    next short =>
      split at h
      next => cases h
      next free =>
        cases h
        exact ⟨parent, name, closed, found, dot, dots, short, rfl, by simpa using free⟩

theorem vacant_named {taken : Fault} (h : t.vacant path taken = .ok place) : place ≠ [] := by
  obtain ⟨parent, name, -, -, -, -, -, rfl, -⟩ := vacant_eq_ok h
  simp

theorem vacant_free {taken : Fault} (h : t.vacant path taken = .ok place) :
    t.entry? place = none := by
  obtain ⟨-, -, -, -, -, -, -, -, free⟩ := vacant_eq_ok h
  exact free

theorem walk_append {start parent last : Place} {names : List String}
    (above : t.walk start names = .ok parent) (below : t.step parent name = .ok last) :
    t.walk start (names ++ [name]) = .ok last := by
  induction names generalizing start with
  | nil =>
    cases above
    rw [List.nil_append, walk, below]
    rfl
  | cons first names ih =>
    rw [List.cons_append]
    unfold walk at above ⊢
    cases stepped : t.step start first with
    | error fault =>
      rw [stepped] at above
      cases above
    | ok next =>
      rw [stepped] at above
      exact ih above

/-- A new file is found at its path. -/
theorem put_reads {taken : Fault} {text : String} {executable : Bool}
    (vacant : t.vacant path taken = .ok place) (bare : Path.endsInSlash path = false) :
    (t.put place (.file (some text) executable)).readText path = .ok text := by
  obtain ⟨parent, name, closed, found, dot, dots, short, rfl, free⟩ := vacant_eq_ok vacant
  obtain ⟨route, above, routed, names, walked, directory⟩ := findParent_eq_ok found
  have named : parent ++ [name] ≠ [] := by simp
  have grows : Grows t (t.put (parent ++ [name]) (.file (some text) executable)) :=
    put_grows named free _
  have there := put_entry (t := t) named (.file (some text) executable) (parent ++ [name])
  rw [if_pos rfl] at there
  generalize t.put (parent ++ [name]) (.file (some text) executable) = t' at grows there ⊢
  have stepped : t'.step parent name = .ok (parent ++ [name]) := by
    unfold step
    rw [grows.entries _ _ directory]
    dsimp only
    rw [if_neg dot, if_neg dots, if_neg short, there]
    rfl
  have walked' : t'.walk route.start route.names = .ok (parent ++ [name]) := by
    rw [names]
    exact walk_append (grows.walk walked) stepped
  have file : route.closed = false := (closed_of_route routed).trans bare
  have led : t'.find path = .ok (parent ++ [name], .file (some text) executable) := by
    rw [find, grows.route, routed]
    change (t'.walk route.start route.names >>= fun place => _) = _
    rw [walked']
    dsimp only [bind, Except.bind]
    rw [there, file]
    rfl
  rw [readText, led]
  rfl

/-! ## Directories -/

theorem makeDirectory_grows (h : t.makeDirectory path = .ok t') : Grows t t' := by
  obtain ⟨place, vacant, h⟩ := bind_eq_ok_iff.1 h
  cases h
  exact put_grows (vacant_named vacant) (vacant_free vacant) _

theorem makeLast_grows (t : Tree) (path : String) : Grows t (t.makeLast path).2 := by
  unfold makeLast
  split
  next made => exact makeDirectory_grows made
  next => exact .refl t

theorem makeDirectoriesBelow_grows (depth : Nat) (t : Tree) (path : String) :
    Grows t (t.makeDirectoriesBelow depth path).2 := by
  induction depth generalizing path with
  | zero => exact makeLast_grows t path
  | succ depth ih =>
    unfold makeDirectoriesBelow
    split
    · exact .refl t
    · split
      next made => exact makeDirectory_grows made
      next =>
        split
        · exact makeLast_grows t path
        · split
          next => exact .refl t
          next above _ =>
            -- The parents come first, and the directory itself after them.
            have parents := ih above
            split
            next failed =>
              rw [failed] at parents
              exact parents
            next t' made =>
              rw [made] at parents
              exact parents.trans (makeLast_grows t' path)

theorem makeDirectories_grows (t : Tree) (path : String) :
    Grows t (t.makeDirectories path).2 :=
  makeDirectoriesBelow_grows _ t path

/-! ## Keys -/

/-- The count of key files has no part in what is there. -/
theorem keyFiles_grows (t : Tree) (keyFiles : Nat) : Grows t { t with keyFiles } :=
  ⟨rfl, fun _ _ h => h⟩

theorem isName_numbered {start : String} (h : Path.IsName start) (n : Nat) :
    Path.IsName (start ++ toString n) := by
  obtain ⟨filled, bare⟩ := h
  obtain ⟨-, digits⟩ := Path.isName_toString n
  refine ⟨by simp [filled], ?_⟩
  rw [String.toList_append, List.mem_append]
  exact not_or.2 ⟨bare, digits⟩

/-- A key that is staged can be read from its file, and other files are as they were. -/
theorem stageKey_reads {fileStart : String} (named : Path.IsName fileStart) (t : Tree)
    (directory key : String) :
    Grows t (t.stageKey directory key fileStart).2 ∧
      ∀ file, (t.stageKey directory key fileStart).1 = .ok file →
        (t.stageKey directory key fileStart).2.readText file = .ok key := by
  have prepared := makeDirectories_grows t directory
  unfold stageKey
  split
  next failed =>
    rw [failed] at prepared
    exact ⟨prepared, fun _ => nofun⟩
  next t' made =>
    rw [made] at prepared
    dsimp only at prepared ⊢
    split
    next => exact ⟨prepared, fun _ => nofun⟩
    next place vacant =>
      have written := put_grows (vacant_named vacant) (vacant_free vacant) (.file (some key) false)
      have counted := keyFiles_grows (t'.put place (.file (some key) false)) (t'.keyFiles + 1)
      refine ⟨prepared.trans (written.trans counted), ?_⟩
      rintro file ⟨⟩
      have bare := Path.endsInSlash_join directory (isName_numbered named t'.keyFiles).isPart
      exact counted.readText (put_reads vacant bare)

end FuseVolumes.Host.Tree
