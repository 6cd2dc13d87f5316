import FuseVolumes.Proofs.Secret.Name
import FuseVolumes.Proofs.Secret.Reference
import FuseVolumes.Proofs.Text.Bytes
import FuseVolumes.Proofs.Text.Words

/-!
# Which secret a storage class names

Templates come under keys of a secret's own or under keys that all secrets share. The shared ones
count only where there is nothing under any key of the secret's own (`Keys.chosen_of_given`), and
what is there decides by which keys are present whether the templates can be used
(`Keys.templates_of_doubled`, `Keys.templates_of_partly`, `Keys.templates_of_blank`). The names that
come of templates are labels and domains (`proper_of_isLabel`, `proper_of_isDomain`), so the text of
a reference is read in one way only (`Reference.display_inj`). Together: `secret_chosen`.
-/

namespace FuseVolumes.Secret

/-! ## Names -/

section Names

variable {name : String}

/-- A name that may be used is neither empty nor too long, and has no slash. -/
structure Proper (limit : Nat) (name : String) : Prop where
  filled : 1 ≤ name.utf8ByteSize
  short : name.utf8ByteSize ≤ limit
  plain : '/' ∉ name.toList

theorem proper_of_isLabel (h : isLabel name = true) : Proper 63 name := by
  obtain ⟨filled, short, spelled⟩ := isLabel_iff.1 h
  exact ⟨filled, short, fun slash => not_isNameChar_slash (spelled.letters '/' slash)⟩

theorem proper_of_isDomain (h : isDomain name = true) : Proper 253 name := by
  obtain ⟨short, spelled⟩ := isDomain_iff.1 h
  have filled : name.toList ≠ [] := by
    intro none
    rw [none] at spelled
    exact (spelled [] List.mem_cons_self).1 rfl
  have letters : ∀ c ∈ name.toList, c = '.' ∨ IsNameChar c := by
    rw [← Text.intercalate_pieces '.' name.toList]
    apply Text.forall_mem_intercalate
    · simp
    · intro piece h c hc
      exact .inr ((spelled piece h).2.letters c hc)
  refine ⟨Text.one_le_utf8ByteSize_iff.2 filled, short, fun slash => ?_⟩
  rcases letters '/' slash with dot | letter
  · cases dot
  · exact not_isNameChar_slash letter

/-- What stands before the slash is the namespace, and what stands behind it is the name. -/
theorem pieces_display {r : Reference} (ns : '/' ∉ r.«namespace».toList)
    (plain : '/' ∉ r.name.toList) :
    Text.pieces (· == '/') r.display.toList = [r.«namespace».toList, r.name.toList] := by
  have written : r.display.toList = r.«namespace».toList ++ '/' :: r.name.toList := by
    simp [Reference.display]
  have whole {text : List Char} (plain : '/' ∉ text) : Text.pieces (· == '/') text = [text] := by
    refine Text.pieces_eq_self fun c hc => ?_
    simp only [beq_eq_false_iff_ne]
    rintro rfl
    exact plain hc
  have cut : Text.pieces (· == '/') (r.«namespace».toList ++ '/' :: r.name.toList) =
      Text.pieces (· == '/') r.«namespace».toList ++ Text.pieces (· == '/') r.name.toList :=
    Text.pieces_append rfl _ _
  rw [written, cut, whole ns, whole plain]
  rfl

theorem Reference.display_inj {r other : Reference} (ns : '/' ∉ r.«namespace».toList)
    (name : '/' ∉ r.name.toList) (otherNs : '/' ∉ other.«namespace».toList)
    (otherName : '/' ∉ other.name.toList) (same : r.display = other.display) : r = other := by
  have pieces : [r.«namespace».toList, r.name.toList] =
      [other.«namespace».toList, other.name.toList] := by
    rw [← pieces_display ns name, ← pieces_display otherNs otherName, same]
  simp only [List.cons.injEq, String.toList_inj, and_true] at pieces
  obtain ⟨ns, name⟩ := r
  obtain ⟨rfl, rfl⟩ := pieces
  rfl

end Names

/-! ## Templates -/

section Templates

/-- Every key under which a secret's own templates are looked for. -/
def Keys.all (keys : Keys) : List String :=
  (keys.oldName.toList ++ [keys.name]) ++ (keys.oldNamespace.toList ++ [keys.«namespace»])

variable {keys : Keys} {p q : Dict} {old : Option String} {key value : String}

/-- Two maps have the same values under keys. -/
def Agree (keys : List String) (p q : Dict) : Prop := ∀ key ∈ keys, p.get? key = q.get? key

/-- There is a value under an old key or its successor. -/
def Given (p : Dict) (old : Option String) (key : String) : Prop :=
  ∃ k ∈ old.toList ++ [key], p.contains k = true

/-- There is a value under an old key and another one under its successor. -/
def Twice (p : Dict) (old : Option String) (key : String) : Prop :=
  (∃ k ∈ old.toList, p.contains k = true) ∧ p.contains key = true

/-- A template is given under two keys. -/
def Keys.Doubled (keys : Keys) (p : Dict) : Prop :=
  Twice p keys.oldName keys.name ∨ Twice p keys.oldNamespace keys.«namespace»

/-- One of the templates is given, and the other one is not. -/
def Keys.Partly (keys : Keys) (p : Dict) : Prop :=
  ¬ (Given p keys.oldName keys.name ↔ Given p keys.oldNamespace keys.«namespace»)

/-- A template is given that is empty. -/
def Keys.Blank (keys : Keys) (p : Dict) : Prop := ∃ key ∈ keys.all, p.get? key = some ""

theorem valuesOf_eq : valuesOf p old key = (old.toList ++ [key]).filterMap p.get? := by
  cases old with
  | none => cases h : p.get? key <;> simp [valuesOf, h]
  | some old => cases h : p.get? old <;> cases h' : p.get? key <;> simp [valuesOf, h, h']

theorem valuesOf_congr (agree : Agree (old.toList ++ [key]) p q) :
    valuesOf p old key = valuesOf q old key := by
  rw [valuesOf_eq, valuesOf_eq]
  exact List.filterMap_congr agree

theorem mem_valuesOf : value ∈ valuesOf p old key ↔
    ∃ k ∈ old.toList ++ [key], p.get? k = some value := by
  rw [valuesOf_eq, List.mem_filterMap]

theorem valuesOf_eq_nil_iff : valuesOf p old key = [] ↔ ¬ Given p old key := by
  rw [valuesOf_eq, List.filterMap_eq_nil_iff, Given]
  simp only [not_exists, not_and, Dict.contains, Option.not_isSome_iff_eq_none]

theorem one_lt_length_valuesOf_iff : 1 < (valuesOf p old key).length ↔ Twice p old key := by
  cases old with
  | none => cases h : p.get? key <;> simp [valuesOf, Twice, h]
  | some old =>
    cases h : p.get? old <;> cases h' : p.get? key <;>
      simp [valuesOf, Twice, Dict.contains, h, h']

/-! ### What comes of them -/

theorem Keys.templates_congr (agree : Agree keys.all p q) :
    keys.templates p = keys.templates q := by
  have names : valuesOf p keys.oldName keys.name = valuesOf q keys.oldName keys.name :=
    valuesOf_congr fun k h => agree k (List.mem_append_left _ h)
  have namespaces : valuesOf p keys.oldNamespace keys.«namespace» =
      valuesOf q keys.oldNamespace keys.«namespace» :=
    valuesOf_congr fun k h => agree k (List.mem_append_right _ h)
  rw [templates, templates, names, namespaces]

/-- There are no templates exactly where there is nothing under any key. -/
theorem Keys.templates_eq_none_iff :
    keys.templates p = .ok none ↔ ∀ key ∈ keys.all, p.get? key = none := by
  have nothing : (∀ key ∈ keys.all, p.get? key = none) ↔
      valuesOf p keys.oldName keys.name = [] ∧
        valuesOf p keys.oldNamespace keys.«namespace» = [] := by
    rw [all, List.forall_mem_append, valuesOf_eq, valuesOf_eq, List.filterMap_eq_nil_iff,
      List.filterMap_eq_nil_iff]
  rw [nothing, templates]
  split
  next none none' => exact iff_of_true rfl ⟨none, none'⟩
  next one one' => split <;> simp [one]
  next some _ =>
    refine iff_of_false ?_ fun none => some none.1 none.2
    split <;> nofun

theorem Keys.templates_of_doubled (doubled : keys.Doubled p) :
    keys.templates p = .error (.doubleSpecified keys.kind) := by
  rw [Doubled, ← one_lt_length_valuesOf_iff, ← one_lt_length_valuesOf_iff] at doubled
  rw [templates]
  split
  next none none' => simp [none, none'] at doubled
  next one one' => simp [one, one'] at doubled
  next => rw [if_pos (by simpa using doubled)]

theorem Keys.templates_of_partly (single : ¬ keys.Doubled p) (partly : keys.Partly p) :
    keys.templates p = .error (.incomplete keys.kind) := by
  rw [Doubled, ← one_lt_length_valuesOf_iff, ← one_lt_length_valuesOf_iff] at single
  rw [Partly, ← not_iff_not, ← valuesOf_eq_nil_iff, ← valuesOf_eq_nil_iff] at partly
  rw [templates]
  split
  next none none' => simp [none, none'] at partly
  next one one' => simp [one, one'] at partly
  next => rw [if_neg (by simpa using single)]

theorem Keys.templates_of_blank (single : ¬ keys.Doubled p) (whole : ¬ keys.Partly p)
    (blank : keys.Blank p) : keys.templates p = .error (.emptyTemplate keys.kind) := by
  obtain ⟨key, among, empty⟩ := blank
  have blank : "" ∈ valuesOf p keys.oldName keys.name ∨
      "" ∈ valuesOf p keys.oldNamespace keys.«namespace» :=
    (List.mem_append.1 among).imp (fun h => mem_valuesOf.2 ⟨key, h, empty⟩)
      fun h => mem_valuesOf.2 ⟨key, h, empty⟩
  rw [Doubled, ← one_lt_length_valuesOf_iff, ← one_lt_length_valuesOf_iff] at single
  rw [Partly, not_not, ← not_iff_not, ← valuesOf_eq_nil_iff, ← valuesOf_eq_nil_iff] at whole
  rw [templates]
  generalize valuesOf p keys.oldName keys.name = names at *
  generalize valuesOf p keys.oldNamespace keys.«namespace» = namespaces at *
  match names, namespaces with
  | [], [] => simp at blank
  | [], _ :: _ | _ :: _, [] => simp at whole
  | [name], [ns] =>
    have blank : (name.isEmpty || ns.isEmpty) = true := by
      rw [Bool.or_eq_true, String.isEmpty_iff, String.isEmpty_iff]
      exact blank.imp (fun h => (List.mem_singleton.1 h).symm)
        fun h => (List.mem_singleton.1 h).symm
    dsimp only
    rw [if_pos blank]
  | _ :: _ :: _, _ :: _ | [_], _ :: _ :: _ => simp at single

end Templates

/-! ## The secret -/

section Choice

variable {keys : Keys} {p q : Dict} {volume : String} {claim : Option Claim}

/-- The shared keys count only where there is nothing under a secret's own. -/
theorem Keys.chosen_of_given (given : ∃ key ∈ keys.all, p.get? key ≠ none) :
    keys.chosen p = keys.templates p := by
  obtain ⟨key, among, given⟩ := given
  have own : keys.templates p ≠ .ok none :=
    fun nothing => given (templates_eq_none_iff.1 nothing key among)
  rw [chosen]
  generalize keys.templates p = templates at own
  cases templates with
  | error e => rfl
  | ok templates =>
    cases templates with
    | some t => rfl
    | none => exact absurd rfl own

theorem Keys.chosen_congr (agree : Agree (keys.all ++ sharedKeys.all) p q) :
    keys.chosen p = keys.chosen q := by
  obtain ⟨own, shared⟩ := List.forall_mem_append.1 agree
  rw [chosen, chosen, templates_congr own, templates_congr shared]

theorem Keys.chosen_eq_none_iff :
    keys.chosen p = .ok none ↔ ∀ key ∈ keys.all ++ sharedKeys.all, p.get? key = none := by
  rw [List.forall_mem_append, ← templates_eq_none_iff, ← templates_eq_none_iff, chosen]
  cases keys.templates p with
  | error e => exact iff_of_false (by rintro ⟨⟩) (by rintro ⟨⟨⟩, -⟩)
  | ok own =>
    cases own with
    | some t => exact iff_of_false (by rintro ⟨⟩) (by rintro ⟨⟨⟩, -⟩)
    | none => exact ⟨fun none => ⟨rfl, none⟩, fun none => none.2⟩

/-- A secret depends on the templates that are chosen only. -/
theorem Keys.reference_congr (same : keys.chosen p = keys.chosen q) :
    keys.reference p volume claim = keys.reference q volume claim := by
  rw [reference_eq, reference_eq, location, location, same]

theorem Keys.reference_of_error {e : Error} (failed : keys.templates p = .error e) :
    keys.reference p volume claim = .error e := by
  rw [reference, failed]
  rfl

theorem Templates.proper_of_locate {t : Templates} {ns : String}
    (h : t.locate volume claim = .ok ns) : Proper 63 ns := by
  obtain ⟨ns', -, h⟩ := bind_eq_ok_iff.1 h
  by_cases label : isLabel ns' = true
  · simp only [label, Bool.not_true] at h
    cases h
    exact proper_of_isLabel label
  · simp only [Bool.not_eq_true] at label
    simp only [label, Bool.not_false] at h
    cases h

theorem Templates.proper_of_nameIn {t : Templates} {ns : String} {r : Reference}
    (h : t.nameIn ns volume claim = .ok r) : Proper 253 r.name := by
  obtain ⟨name, -, h⟩ := bind_eq_ok_iff.1 h
  by_cases domain : isDomain name = true
  · simp only [domain, Bool.not_true] at h
    cases h
    exact proper_of_isDomain domain
  · simp only [Bool.not_eq_true] at domain
    simp only [domain, Bool.not_false] at h
    cases h

theorem Keys.proper_of_reference {r : Reference}
    (h : keys.reference p volume claim = .ok (some r)) :
    Proper 63 r.«namespace» ∧ Proper 253 r.name := by
  rw [reference_eq] at h
  obtain ⟨located, found, h⟩ := bind_eq_ok_iff.1 h
  match located with
  | none => cases h
  | some (t, ns) =>
    obtain ⟨_, named, ⟨⟩⟩ := map_eq_ok_iff.1 h
    obtain ⟨t', -, located⟩ := bind_eq_ok_iff.1 found
    match t' with
    | none => cases located
    | some t' =>
      obtain ⟨ns', located, ⟨⟩⟩ := bind_eq_ok_iff.1 located
      rw [Templates.namespace_of_nameIn named]
      exact ⟨Templates.proper_of_locate located, Templates.proper_of_nameIn named⟩

/-- **Choice.** A storage class names no secret exactly if there is nothing under any of the keys.
If there is anything under a secret's own keys, then nothing else counts: not the keys that all
secrets share, even where what is there cannot be used, which is an error, and the same one in every
such case. No other key counts at all. A secret that is named has names of one byte at least and of
63 and 253 at most, with no slash in them, so its text tells it from all others. -/
theorem secret_chosen (keys : Keys) (p : Dict) (volume : String) (claim : Option Claim) :
    let reference := keys.reference p volume claim
    (reference = .ok none ↔ ∀ key ∈ keys.all ++ sharedKeys.all, p.get? key = none) ∧
    ((∃ key ∈ keys.all, p.get? key ≠ none) →
      (∀ q, Agree keys.all p q → keys.reference q volume claim = reference) ∧
      (keys.Doubled p → reference = .error (.doubleSpecified keys.kind)) ∧
      (¬ keys.Doubled p → keys.Partly p → reference = .error (.incomplete keys.kind)) ∧
      (¬ keys.Doubled p → ¬ keys.Partly p → keys.Blank p →
        reference = .error (.emptyTemplate keys.kind))) ∧
    (∀ q, Agree (keys.all ++ sharedKeys.all) p q →
      keys.reference q volume claim = reference) ∧
    ∀ r, reference = .ok (some r) →
      Proper 63 r.«namespace» ∧ Proper 253 r.name ∧
      ∀ q volume' claim' r', keys.reference q volume' claim' = .ok (some r') →
        r'.display = r.display → r' = r := by
  refine ⟨?_, ?_, ?_, ?_⟩
  · rw [Keys.reference_eq_none_iff, Keys.chosen_eq_none_iff]
  · intro given
    refine ⟨fun q agree => Keys.reference_congr ?_, fun doubled => ?_, fun single partly => ?_,
      fun single whole blank => ?_⟩
    · have given' : ∃ key ∈ keys.all, q.get? key ≠ none := by
        obtain ⟨key, among, some⟩ := given
        exact ⟨key, among, agree key among ▸ some⟩
      rw [Keys.chosen_of_given given, Keys.chosen_of_given given', Keys.templates_congr agree]
    · exact Keys.reference_of_error (Keys.templates_of_doubled doubled)
    · exact Keys.reference_of_error (Keys.templates_of_partly single partly)
    · exact Keys.reference_of_error (Keys.templates_of_blank single whole blank)
  · intro q agree
    exact (Keys.reference_congr (Keys.chosen_congr agree)).symm
  · intro r named
    obtain ⟨ns, name⟩ := Keys.proper_of_reference named
    refine ⟨ns, name, fun q volume' claim' r' named' same => ?_⟩
    obtain ⟨ns', name'⟩ := Keys.proper_of_reference named'
    exact Reference.display_inj ns'.plain name'.plain ns.plain name.plain same

end Choice

end FuseVolumes.Secret
