import FuseVolumes.Proofs.Repetition
import FuseVolumes.Proofs.Text.Bytes
import FuseVolumes.Proofs.Text.Trim
import FuseVolumes.Proofs.Text.Words
import FuseVolumes.Proofs.Topology.Nodes
import Mathlib.Data.List.Forall2

/-!
# Why a node is given no topology

A text lists the labels between its commas, without the blanks around them (`parseLabels_eq_iff`).
What is wrong with them is told in a fixed order: that the driver's name is too long, which label is
the first to be repeated, and else which of them the node lacks (`ofNode_eq_error_iff`). A node is
given a topology if nothing is wrong, and an empty one if and only if no labels are listed
(`topology_refused_in_order`).
-/

namespace FuseVolumes.Topology

variable {labels driver node text : String} {wanted seen : List String} {nodeLabels : Dict}

/-! ## Labels -/

/-- What there is between the commas of a text without the blanks around it, as far as it is
anything. -/
def Lists (text : String) (labels : List String) : Prop :=
  ∃ pieces cores, pieces ≠ [] ∧ (∀ piece ∈ pieces, ',' ∉ piece) ∧
    text.toList = [','].intercalate pieces ∧ List.Forall₂ Text.Trims pieces cores ∧
    labels.map String.toList = cores.filter (· ≠ [])

theorem parseLabels_eq (text : String) : (parseLabels text).map String.toList =
    ((Text.pieces (· == ',') text.toList).map Text.trim).filter (· ≠ []) := by
  have filled (core : List Char) : (!core.isEmpty) = decide (core ≠ []) := by cases core <;> rfl
  simp [parseLabels, filled, Function.comp_def]

theorem parseLabels_eq_iff : parseLabels text = wanted ↔ Lists text wanted := by
  constructor
  · rintro rfl
    refine ⟨_, _, Text.pieces_ne_nil (· == ',') text.toList, ?_,
      (Text.intercalate_pieces ',' text.toList).symm, ?_, parseLabels_eq text⟩
    · intro piece cut comma
      simpa using Text.sep_of_mem_pieces cut ',' comma
    · exact List.forall₂_map_right_iff.2 (List.forall₂_same.2 fun _ _ => Text.trim_eq_iff.1 rfl)
  · rintro ⟨pieces, cores, some, plain, whole, trimmed, kept⟩
    have cut : Text.pieces (· == ',') text.toList = pieces := by
      rw [whole]
      refine Text.pieces_intercalate rfl some fun piece h c mem => ?_
      rw [beq_eq_false_iff_ne]
      rintro rfl
      exact plain piece h mem
    have bare : pieces.map Text.trim = cores := by
      rw [← List.forall₂_eq_eq_eq, List.forall₂_map_left_iff]
      exact trimmed.imp fun _ _ h => Text.trim_eq_iff.2 h
    refine (List.map_inj_right fun _ _ => String.toList_inj.1).1 ?_
    rw [parseLabels_eq, cut, bare, kept]

/-! ## Repetitions -/

theorem firstRepeat?_eq_some_iff {label : String} (distinct : seen.Nodup) :
    firstRepeat? seen wanted = some label ↔ FirstRepeat (seen.reverse ++ wanted) label := by
  induction wanted generalizing seen with
  | nil =>
    refine iff_of_false nofun fun repeated => repeated.not_nodup ?_
    rw [List.append_nil]
    exact List.nodup_reverse.2 distinct
  | cons first wanted ih =>
    have reversed : seen.reverse.Nodup := List.nodup_reverse.2 distinct
    rw [firstRepeat?]
    split
    next before =>
      have before : first ∈ seen.reverse := List.mem_reverse.2 (List.contains_iff_mem.1 before)
      rw [Option.some.injEq, firstRepeat_append_iff reversed before]
    next new =>
      have new : first ∉ seen := fun before => new (List.contains_iff_mem.2 before)
      rw [ih (List.nodup_cons.2 ⟨new, distinct⟩), List.reverse_cons, List.append_assoc,
        List.singleton_append]

/-! ## What is wrong -/

/-- A node can be given a topology for the labels that are wanted of it. -/
def Given (wanted : List String) (owner : String) (nodeLabels : Dict) : Prop :=
  wanted = [] ∨ owner.utf8ByteSize ≤ 63 ∧ wanted.Nodup ∧
    ∀ label ∈ wanted, (nodeLabels.get? label).isSome = true

/-- Why it is given none. -/
inductive Refused (wanted : List String) (owner node : String) (nodeLabels : Dict) : Error → Prop
  | ownerTooLong (some : wanted ≠ []) (long : 63 < owner.utf8ByteSize) :
    Refused wanted owner node nodeLabels (.ownerTooLong owner)
  | duplicateLabel {label : String} (short : owner.utf8ByteSize ≤ 63)
      (repeated : FirstRepeat wanted label) :
    Refused wanted owner node nodeLabels (.duplicateLabel label)
  | missingLabels {missing : List String} (short : owner.utf8ByteSize ≤ 63)
      (distinct : wanted.Nodup) (some : missing ≠ []) (sorted : missing.Pairwise (· < ·))
      (lacking : ∀ label, label ∈ missing ↔ label ∈ wanted ∧ nodeLabels.get? label = none) :
    Refused wanted owner node nodeLabels (.missingLabels missing node)

section Refused

variable {owner : String} {e e' : Error}

theorem mem_lacking {label : String} : label ∈ wanted.filter (! nodeLabels.contains ·) ↔
    label ∈ wanted ∧ nodeLabels.get? label = none := by
  rw [List.mem_filter, Dict.contains]
  simp

/-- Only one thing at a time is wrong. -/
theorem Refused.unique (h : Refused wanted owner node nodeLabels e)
    (h' : Refused wanted owner node nodeLabels e') : e = e' := by
  cases h with
  | ownerTooLong _ long =>
    cases h' with
    | ownerTooLong => rfl
    | duplicateLabel short | missingLabels short => exact absurd long (Nat.not_lt.2 short)
  | duplicateLabel short repeated =>
    cases h' with
    | ownerTooLong _ long => exact absurd long (Nat.not_lt.2 short)
    | duplicateLabel _ repeated' => rw [repeated.unique repeated']
    | missingLabels _ distinct => exact absurd distinct repeated.not_nodup
  | missingLabels short distinct _ sorted lacking =>
    cases h' with
    | ownerTooLong _ long => exact absurd long (Nat.not_lt.2 short)
    | duplicateLabel _ repeated => exact absurd distinct repeated.not_nodup
    | missingLabels _ _ _ sorted' lacking' =>
      have listed {missing : List String} (sorted : missing.Pairwise (· < ·))
          (lacking : ∀ label, label ∈ missing ↔ label ∈ wanted ∧ nodeLabels.get? label = none) :
          orderedSet (wanted.filter (! nodeLabels.contains ·)) = missing :=
        orderedSet_eq_iff.2 ⟨sorted, fun label => (lacking label).trans mem_lacking.symm⟩
      rw [← listed sorted lacking, ← listed sorted' lacking']

theorem Refused.not_given (h : Refused wanted owner node nodeLabels e) :
    ¬ Given wanted owner nodeLabels := by
  rintro (rfl | ⟨short, distinct, present⟩)
  · cases h with
    | ownerTooLong some => exact some rfl
    | duplicateLabel _ repeated => exact repeated.not_nodup List.nodup_nil
    | missingLabels _ _ some _ lacking =>
      obtain ⟨label, mem⟩ := List.exists_mem_of_ne_nil _ some
      exact List.not_mem_nil ((lacking label).1 mem).1
  · cases h with
    | ownerTooLong _ long => exact absurd long (Nat.not_lt.2 short)
    | duplicateLabel _ repeated => exact repeated.not_nodup distinct
    | missingLabels _ _ some _ lacking =>
      obtain ⟨label, mem⟩ := List.exists_mem_of_ne_nil _ some
      obtain ⟨mem, lacks⟩ := (lacking label).1 mem
      have has := present label mem
      rw [lacks] at has
      cases has

end Refused

/-- A node is given a topology, or something is wrong and is told. -/
theorem ofNode_cases (labels driver node : String) (nodeLabels : Dict) :
    (Given (parseLabels labels) (owner driver) nodeLabels ∧
      ∃ found, ofNode labels driver node nodeLabels = .ok found) ∨
    ∃ e, Refused (parseLabels labels) (owner driver) node nodeLabels e ∧
      ofNode labels driver node nodeLabels = .error e := by
  rw [ofNode, Text.byteLength_toList]
  split
  next none => exact .inl ⟨.inl (List.isEmpty_iff.1 none), _, rfl⟩
  next some =>
    split
    next long =>
      exact .inr ⟨_, .ownerTooLong (fun none => some (List.isEmpty_iff.2 none)) long, rfl⟩
    next short =>
      have short : (owner driver).utf8ByteSize ≤ 63 := Nat.not_lt.1 short
      split
      next label found =>
        have repeated := (firstRepeat?_eq_some_iff List.nodup_nil).1 found
        exact .inr ⟨_, .duplicateLabel short repeated, rfl⟩
      next none =>
        have distinct : (parseLabels labels).Nodup := (firstRepeat?_eq_none_iff.1 none).1
        split
        next complete =>
          refine .inl ⟨.inr ⟨short, distinct, fun label mem => ?_⟩, _, rfl⟩
          rw [Option.isSome_iff_ne_none]
          intro lacks
          have lacking := mem_lacking.2 ⟨mem, lacks⟩
          rw [complete] at lacking
          cases lacking
        next incomplete =>
          obtain ⟨sorted, lacking⟩ := orderedSet_eq_iff.1
            (rfl : orderedSet ((parseLabels labels).filter (! nodeLabels.contains ·)) = _)
          refine .inr ⟨_, .missingLabels short distinct (fun none => ?_) sorted fun label =>
            (lacking label).trans mem_lacking, rfl⟩
          refine incomplete (List.eq_nil_iff_forall_not_mem.2 fun label mem => ?_)
          have listed := (lacking label).2 mem
          rw [none] at listed
          cases listed

theorem ofNode_eq_error_iff {e : Error} : ofNode labels driver node nodeLabels = .error e ↔
    Refused (parseLabels labels) (owner driver) node nodeLabels e := by
  rcases ofNode_cases labels driver node nodeLabels with ⟨given, found, made⟩ | ⟨e', refused, made⟩
  · rw [made]
    exact iff_of_false nofun fun refused => refused.not_given given
  · rw [made, Except.error.injEq]
    constructor
    · rintro rfl
      exact refused
    · exact fun refused' => refused.unique refused'

theorem exists_ofNode_iff : (∃ found, ofNode labels driver node nodeLabels = .ok found) ↔
    Given (parseLabels labels) (owner driver) nodeLabels := by
  rcases ofNode_cases labels driver node nodeLabels with ⟨given, made⟩ | ⟨e', refused, made⟩
  · exact iff_of_true made given
  · refine iff_of_false ?_ refused.not_given
    rintro ⟨found, made'⟩
    cases made'.symm.trans made

/-- A topology tells something for every label. -/
theorem ofNode_eq_nil_iff :
    ofNode labels driver node nodeLabels = .ok [] ↔ parseLabels labels = [] := by
  constructor
  · intro made
    obtain ⟨-, present, empty⟩ := ofNode_eq_ok made
    refine List.eq_nil_iff_forall_not_mem.2 fun label mem => ?_
    have reported : segmentName driver label ∈
        (report driver nodeLabels (parseLabels labels)).map Prod.fst := by
      rw [report_keys driver present]
      exact List.mem_map_of_mem mem
    have named : segmentName driver label ∈ List.map Prod.fst ([] : Dict) := by
      rw [empty]
      exact Dict.mem_keys_insertAll.2 (.inr reported)
    cases named
  · intro none
    rw [ofNode, none]
    rfl

/-- **In order.** A text lists some labels and no others. For these a node is given a topology,
which is empty if and only if there are no labels; or it is told that the driver's name is too long,
else which label is the first to be repeated, else which labels the node lacks, in order and each
once. -/
theorem topology_refused_in_order (labels driver node : String) (nodeLabels : Dict) :
    ∃ wanted, (∀ listed, Lists labels listed ↔ listed = wanted) ∧
      (ofNode labels driver node nodeLabels = .ok [] ↔ wanted = []) ∧
      (∀ e, ofNode labels driver node nodeLabels = .error e ↔
        Refused wanted (Text.lower ("topology." ++ driver)) node nodeLabels e) ∧
      ((∃ found, ofNode labels driver node nodeLabels = .ok found) ↔
        Given wanted (Text.lower ("topology." ++ driver)) nodeLabels) := by
  refine ⟨parseLabels labels, fun listed => ?_, ofNode_eq_nil_iff, fun e => ofNode_eq_error_iff,
    exists_ofNode_iff⟩
  rw [← parseLabels_eq_iff, eq_comm]

example : ofNode " zone,,rack , row,zone" "d" "n" [("rack", "r")] =
    .error (.duplicateLabel "zone") := rfl

example : ofNode " zone,,rack , row" "d" "n" [("rack", "r")] =
    .error (.missingLabels ["row", "zone"] "n") := rfl

end FuseVolumes.Topology
