import FuseVolumes.Proofs.Dict
import FuseVolumes.Proofs.Except
import FuseVolumes.Topology
import Mathlib.Data.List.Nodup

/-!
# Topologies of nodes

A node reports what it says of its labels, each under the name of the label's domain
(`ofNode_eq_ok`). Labels are checked to be different as they are written, but what counts is that
their domains differ: of several labels of one domain the last is reported (`get?_report`). So every
label has a segment of its own exactly when no two labels share a domain (`segment_per_label_iff`);
otherwise one takes the place of another (`labels_share_segment`).
-/

namespace FuseVolumes.Topology

variable {labels driver node : String} {wanted : List String} {nodeLabels found : Dict}

/-- The name of the segment that is reported for a label. -/
def segmentName (driver label : String) : String := owner driver ++ "/" ++ domain label

theorem segmentName_eq_iff {label other : String} :
    segmentName driver label = segmentName driver other ↔ domain label = domain other := by
  rw [segmentName, segmentName, ← String.toList_inj, ← String.toList_inj]
  simp only [String.toList_append, List.append_cancel_left_eq]

theorem nodup_segmentNames_iff :
    (wanted.map (segmentName driver)).Nodup ↔ (wanted.map domain).Nodup := by
  simp only [List.Nodup, List.pairwise_map, ne_eq, segmentName_eq_iff]

/-- The segments that are reported for labels, in their order. -/
def report (driver : String) (nodeLabels : Dict) (wanted : List String) :
    List (String × String) :=
  wanted.filterMap fun label => (nodeLabels.get? label).map (segmentName driver label, ·)

theorem report_keys (driver : String)
    (present : ∀ label ∈ wanted, (nodeLabels.get? label).isSome = true) :
    (report driver nodeLabels wanted).map Prod.fst = wanted.map (segmentName driver) := by
  induction wanted with
  | nil => rfl
  | cons label wanted ih =>
    obtain ⟨first, rest⟩ := List.forall_mem_cons.1 present
    obtain ⟨value, said⟩ := Option.isSome_iff_exists.1 first
    rw [report, List.filterMap_cons_some (by rw [said]; rfl), List.map_cons, List.map_cons]
    exact congrArg (segmentName driver label :: ·) (ih rest)

/-! ## What is checked -/

/-- No label is repeated if and only if all are different, from each other and from those before. -/
theorem firstRepeat?_eq_none_iff {seen : List String} :
    firstRepeat? seen wanted = none ↔ wanted.Nodup ∧ ∀ label ∈ wanted, label ∉ seen := by
  induction wanted generalizing seen with
  | nil => simp [firstRepeat?]
  | cons label wanted ih =>
    rw [firstRepeat?, List.nodup_cons, List.forall_mem_cons]
    split
    next repeated =>
      have before : label ∈ seen := List.contains_iff_mem.1 repeated
      exact iff_of_false nofun fun h => h.2.1 before
    next new =>
      have new : label ∉ seen := fun before => new (List.contains_iff_mem.2 before)
      rw [ih]
      simp only [List.mem_cons, not_or]
      constructor
      · rintro ⟨distinct, apart⟩
        exact ⟨⟨fun again => (apart label again).1 rfl, distinct⟩, new,
          fun other h => (apart other h).2⟩
      · rintro ⟨⟨once, distinct⟩, -, apart⟩
        refine ⟨distinct, fun other h => ⟨?_, apart other h⟩⟩
        rintro rfl
        exact once h

/-- A node that has a topology has all labels, which are different, and reports each in turn. -/
theorem ofNode_eq_ok (made : ofNode labels driver node nodeLabels = .ok found) :
    (parseLabels labels).Nodup ∧
    (∀ label ∈ parseLabels labels, (nodeLabels.get? label).isSome = true) ∧
    found = Dict.insertAll [] (report driver nodeLabels (parseLabels labels)) := by
  rw [ofNode] at made
  split at made
  next none =>
    rw [List.isEmpty_iff.1 none]
    cases made
    exact ⟨List.nodup_nil, nofun, rfl⟩
  next some =>
    split at made
    · cases made
    next short =>
      split at made
      · cases made
      next distinct =>
        split at made
        next complete =>
          cases made
          refine ⟨(firstRepeat?_eq_none_iff.1 distinct).1, fun label h => ?_, rfl⟩
          have has := List.filter_eq_nil_iff.1 complete label h
          rw [Dict.contains] at has
          simpa [Option.isSome_iff_ne_none] using has
        next => cases made

/-! ## What is reported -/

/-- A segment tells what the node says of the last label with that name. -/
theorem get?_report (present : ∀ label ∈ wanted, (nodeLabels.get? label).isSome = true)
    (d : Dict) (key : String) :
    (Dict.insertAll d (report driver nodeLabels wanted)).get? key =
      ((wanted.reverse.find? (segmentName driver · = key)).bind nodeLabels.get?).or
        (d.get? key) := by
  induction wanted generalizing d with
  | nil => rfl
  | cons label wanted ih =>
    obtain ⟨first, rest⟩ := List.forall_mem_cons.1 present
    obtain ⟨value, said⟩ := Option.isSome_iff_exists.1 first
    rw [report, List.filterMap_cons_some (by rw [said]; rfl), List.reverse_cons,
      List.find?_append]
    refine (ih rest (d.insert (segmentName driver label) value)).trans ?_
    rw [Dict.get?_insert]
    cases last : wanted.reverse.find? (segmentName driver · = key) with
    | some other =>
      -- Whatever a later label says, it says something.
      obtain ⟨value', said'⟩ := Option.isSome_iff_exists.1
        (rest other (List.mem_reverse.1 (List.mem_of_find?_eq_some last)))
      simp [said']
    | none =>
      by_cases same : segmentName driver label = key
      · simp [same, said]
      · simp [same, Ne.symm same]

/-- A label whose domain no other label has is reported as it is. -/
theorem get?_report_of_nodup
    (present : ∀ label ∈ wanted, (nodeLabels.get? label).isSome = true)
    (distinct : (wanted.map domain).Nodup) {label : String} (h : label ∈ wanted) :
    (Dict.insertAll [] (report driver nodeLabels wanted)).get? (segmentName driver label) =
      nodeLabels.get? label := by
  have named : ∃ other ∈ wanted.reverse, segmentName driver other = segmentName driver label :=
    ⟨label, List.mem_reverse.2 h, rfl⟩
  have reported :
      (wanted.reverse.find? (segmentName driver · = segmentName driver label)).isSome = true :=
    List.find?_isSome.2 (by simpa using named)
  obtain ⟨last, found⟩ := Option.isSome_iff_exists.1 reported
  have mem : last ∈ wanted := List.mem_reverse.1 (List.mem_of_find?_eq_some found)
  have same : segmentName driver last = segmentName driver label := by
    simpa using List.find?_some found
  have own : last = label :=
    List.inj_on_of_nodup_map distinct mem h (segmentName_eq_iff.1 same)
  rw [get?_report present, found, own]
  exact Option.or_none

/-- **One segment a label.** A node that has a topology reports one segment for every name that a
label has, and no other. There are as many as there are labels, each with what the node says of that
label, exactly when the labels have different domains. -/
theorem segment_per_label_iff (made : ofNode labels driver node nodeLabels = .ok found) :
    found.IsMap ∧
    (∀ name, name ∈ found.map Prod.fst ↔
      ∃ label ∈ parseLabels labels, name = owner driver ++ "/" ++ domain label) ∧
    ((found.length = (parseLabels labels).length ∧
        ∀ label ∈ parseLabels labels,
          found.get? (owner driver ++ "/" ++ domain label) = nodeLabels.get? label) ↔
      ((parseLabels labels).map domain).Nodup) := by
  obtain ⟨-, present, rfl⟩ := ofNode_eq_ok made
  have keys := report_keys driver present
  have empty : Dict.IsMap [] := List.nodup_nil
  refine ⟨empty.insertAll _, fun name => ?_, ?_⟩
  · rw [Dict.mem_keys_insertAll, keys]
    simp [segmentName, eq_comm]
  · have reported := congrArg List.length keys
    rw [List.length_map, List.length_map] at reported
    have size := Dict.length_insertAll_eq_iff [] (report driver nodeLabels (parseLabels labels))
    rw [List.length_nil, Nat.zero_add, reported, Dict.IsMap, keys, nodup_segmentNames_iff] at size
    constructor
    · rintro ⟨full, -⟩
      exact (size.1 full).1
    · intro distinct
      exact ⟨size.2 ⟨distinct, fun _ _ => List.not_mem_nil⟩,
        fun label h => get?_report_of_nodup present distinct h⟩

/-- Blanks around labels do not count, and a domain may hold slashes. -/
theorem segment_per_label_iff_of_blanks_and_slashes :
    ∃ found, ofNode "a.io/zone, rack,b.io/zone/row " "Driver" "n"
        [("rack", "r"), ("a.io/zone", "z"), ("b.io/zone/row", "w"), ("zone", "other")] =
          .ok found ∧
      found.length = 3 ∧ found.get? "topology.driver/zone" = some "z" ∧
      found.get? "topology.driver/zone/row" = some "w" := by
  have made : ofNode "a.io/zone, rack,b.io/zone/row " "Driver" "n"
      [("rack", "r"), ("a.io/zone", "z"), ("b.io/zone/row", "w"), ("zone", "other")] =
        .ok [("topology.driver/zone", "z"), ("topology.driver/rack", "r"),
          ("topology.driver/zone/row", "w")] :=
    toOption_eq_some_iff.1 (by decide +kernel)
  obtain ⟨-, -, whole⟩ := segment_per_label_iff made
  obtain ⟨size, values⟩ := whole.2 (by decide +kernel)
  exact ⟨_, made, size, values "a.io/zone" (by decide +kernel),
    values "b.io/zone/row" (by decide +kernel)⟩

/-- **Lost.** Two labels of one domain leave one segment, and the value of the first is nowhere. -/
theorem labels_share_segment :
    ofNode "a.io/zone,b.io/zone" "d" "n" [("a.io/zone", "x"), ("b.io/zone", "y")] =
      .ok [("topology.d/zone", "y")] ∧
    ¬ ∀ labels driver node nodeLabels found,
      ofNode labels driver node nodeLabels = .ok found →
      found.length = (parseLabels labels).length ∧
      ∀ label ∈ parseLabels labels,
        found.get? (owner driver ++ "/" ++ domain label) = nodeLabels.get? label := by
  have made : ofNode "a.io/zone,b.io/zone" "d" "n" [("a.io/zone", "x"), ("b.io/zone", "y")] =
      .ok [("topology.d/zone", "y")] :=
    toOption_eq_some_iff.1 (by decide +kernel)
  refine ⟨made, fun claim => ?_⟩
  have size := (claim _ _ _ _ _ made).1
  revert size
  decide +kernel

end FuseVolumes.Topology
