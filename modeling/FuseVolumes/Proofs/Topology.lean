import FuseVolumes.Proofs.Dict
import FuseVolumes.Topology

/-!
# Topologies of new volumes

What a volume takes over from a list of topologies is, for each label, what the last of them says
that says anything (`get?_segments`). That is what the first of them says which carries any label
exactly when no later one says anything else (`accessible_first_iff`); otherwise it can be a
topology that nobody asked for (`accessible_mixed`).
-/

namespace FuseVolumes.Topology

/-- A topology has a segment for one of the labels. -/
def Carries (labels : List String) (topology : Dict) : Prop :=
  ∃ label ∈ labels, (topology.get? label).isSome = true

instance (labels : List String) (topology : Dict) : Decidable (Carries labels topology) :=
  inferInstanceAs (Decidable (∃ label ∈ labels, _))

/-- What a topology says of the labels, and nothing else. -/
def restrict (labels : List String) (topology : String → Option String) (key : String) :
    Option String :=
  if key ∈ labels then topology key else none

/-- What the last topology says that says anything of a label. -/
def lastValue? (topologies : List Dict) (label : String) : Option String :=
  topologies.reverse.findSome? (·.get? label)

theorem lastValue?_cons (topology : Dict) (topologies : List Dict) (label : String) :
    lastValue? (topology :: topologies) label =
      (lastValue? topologies label).or (topology.get? label) := by
  simp [lastValue?, List.findSome?_append]

theorem lastValue?_isSome {topologies : List Dict} {label : String} :
    (lastValue? topologies label).isSome = true ↔
      ∃ topology ∈ topologies, (topology.get? label).isSome = true := by
  simp [lastValue?, List.findSome?_isSome_iff]

/-! ## Segments -/

theorem get?_insertAll_labels (labels : List String) (topology d : Dict) (key : String) :
    (Dict.insertAll d (labels.filterMap fun label =>
        (topology.get? label).map (label, ·))).get? key =
      (restrict labels topology.get? key).or (d.get? key) := by
  induction labels generalizing d with
  | nil => rfl
  | cons label labels ih =>
    cases there : topology.get? label with
    | none =>
      rw [List.filterMap_cons_none (by rw [there]; rfl), ih]
      by_cases same : key = label
      · subst same
        simp [restrict, there]
      · simp [restrict, same]
    | some value =>
      rw [List.filterMap_cons_some (by rw [there]; rfl)]
      change (Dict.insertAll (d.insert label value) _).get? key = _
      rw [ih, Dict.get?_insert]
      by_cases same : key = label
      · subst same
        by_cases again : key ∈ labels <;> simp [restrict, there, again]
      · simp [restrict, same]

/-- Every label has its last value, and nothing else has one. -/
theorem get?_segments (labels : List String) (topologies : List Dict) (key : String) :
    (segments labels topologies).get? key = restrict labels (lastValue? topologies) key := by
  have run (d : Dict) : (Dict.insertAll d (topologies.flatMap fun topology =>
      labels.filterMap fun label => (topology.get? label).map (label, ·))).get? key =
        (restrict labels (lastValue? topologies) key).or (d.get? key) := by
    induction topologies generalizing d with
    | nil => simp [Dict.insertAll, restrict, lastValue?]
    | cons topology topologies ih =>
      rw [List.flatMap_cons, Dict.insertAll, List.foldl_append]
      refine (ih _).trans ?_
      change Option.or _ ((Dict.insertAll d _).get? key) = _
      rw [get?_insertAll_labels, ← Option.or_assoc]
      congr 1
      rw [restrict, restrict, restrict, lastValue?_cons]
      split <;> rfl
  exact (run []).trans (by cases restrict labels (lastValue? topologies) key <;> rfl)

theorem segments_eq_nil_iff {labels : List String} {topologies : List Dict} :
    segments labels topologies = [] ↔ ∀ topology ∈ topologies, ¬ Carries labels topology := by
  rw [Dict.eq_nil_iff]
  simp only [get?_segments, restrict]
  constructor
  · rintro empty topology h ⟨label, mem, carried⟩
    have unsaid : lastValue? topologies label = none := by simpa [mem] using empty label
    have said := lastValue?_isSome.2 ⟨topology, h, carried⟩
    rw [unsaid] at said
    cases said
  · intro none key
    split
    next mem =>
      rw [← Option.not_isSome_iff_eq_none, lastValue?_isSome]
      rintro ⟨topology, h, carried⟩
      exact none topology h ⟨key, mem, carried⟩
    next => rfl

theorem segments?_eq_none_iff {labels : List String} {topologies : List Dict} :
    segments? labels topologies = none ↔ ∀ topology ∈ topologies, ¬ Carries labels topology := by
  rw [← segments_eq_nil_iff, segments?]
  split
  next empty => exact iff_of_true rfl empty
  next filled => exact iff_of_false nofun filled

theorem segments?_of_exists {labels : List String} {topologies : List Dict}
    (carried : ∃ topology ∈ topologies, Carries labels topology) :
    segments? labels topologies = some (segments labels topologies) := by
  rw [segments?]
  split
  next empty =>
    obtain ⟨topology, h, carries⟩ := carried
    exact absurd carries (segments_eq_nil_iff.1 empty topology h)
  next => rfl

/-! ## What a volume is given -/

/-- The list that a volume's topology is taken from. -/
def Requirement.source (r : Requirement) (labels : List String) : List Dict :=
  if ∃ topology ∈ r.preferred, Carries labels topology then r.preferred else r.requisite

theorem Requirement.source_carries {r : Requirement} {labels : List String} :
    (∃ topology ∈ r.source labels, Carries labels topology) ↔
      ∃ topology ∈ r.preferred ++ r.requisite, Carries labels topology := by
  rw [source]
  simp only [List.mem_append, or_and_right, exists_or]
  split
  next preferred => exact iff_of_true preferred (.inl preferred)
  next none => exact (or_iff_right none).symm

theorem ofParameters_eq {parameters : Dict} {text : String}
    (labelled : parameters.get? labelsParameter = some text) (r : Requirement) :
    ofParameters parameters (some r) =
      segments? (parseLabels text) (r.source (parseLabels text)) := by
  simp only [ofParameters, labelled, Requirement.source]
  split
  next preferred => rw [segments?_of_exists preferred, Option.some_or]
  next none =>
    have unsaid : segments? (parseLabels text) r.preferred = .none :=
      segments?_eq_none_iff.2 fun topology h carries => none ⟨topology, h, carries⟩
    rw [unsaid, Option.none_or]

/-- **One topology.** A volume is given a topology exactly when one of them carries any of its
labels. It is what the first one says of the labels, of the preferred ones or else of the requisite
ones, exactly when the last word on every label is that of the first one. -/
theorem accessible_first_iff {parameters : Dict} {text : String}
    (labelled : parameters.get? labelsParameter = some text) (r : Requirement) :
    (ofParameters parameters (some r) = none ↔
      ∀ topology ∈ r.preferred ++ r.requisite, ¬ Carries (parseLabels text) topology) ∧
    ∀ first, (r.preferred ++ r.requisite).find? (Carries (parseLabels text) ·) = some first →
      ∃ found, ofParameters parameters (some r) = some found ∧
        ((∀ key, found.get? key = restrict (parseLabels text) first.get? key) ↔
          ∀ label ∈ parseLabels text,
            lastValue? (r.source (parseLabels text)) label = first.get? label) := by
  rw [ofParameters_eq labelled]
  constructor
  · have same := not_congr (@Requirement.source_carries r (parseLabels text))
    simpa only [segments?_eq_none_iff, not_exists, not_and] using same
  · intro first h
    have carries : Carries (parseLabels text) first := by simpa using List.find?_some h
    refine ⟨_, segments?_of_exists (Requirement.source_carries.2
      ⟨first, List.mem_of_find?_eq_some h, carries⟩), ?_⟩
    simp only [get?_segments, restrict]
    constructor
    · intro same label mem
      simpa [mem] using same label
    · intro same key
      split
      next mem => exact same key mem
      next => rfl

/-- The preferred topology carries one of two labels, and the requisite ones do not count. -/
theorem accessible_first_of_preferred :
    ∃ found, ofParameters [("domainLabels", "zone, rack")]
        (some ⟨[[("host", "h")], [("zone", "a"), ("host", "h")], [("zone", "a")]],
          [[("zone", "b"), ("rack", "r")]]⟩) = some found ∧
      ∀ key, found.get? key =
        restrict (parseLabels "zone, rack") (Dict.get? [("zone", "a"), ("host", "h")]) key := by
  have labelled : Dict.get? [("domainLabels", "zone, rack")] labelsParameter =
      some "zone, rack" := rfl
  obtain ⟨-, first⟩ := accessible_first_iff labelled
    ⟨[[("host", "h")], [("zone", "a"), ("host", "h")], [("zone", "a")]],
      [[("zone", "b"), ("rack", "r")]]⟩
  obtain ⟨found, given, one⟩ := first [("zone", "a"), ("host", "h")] (by decide +kernel)
  exact ⟨found, given, one.2 (by decide +kernel)⟩

/-- Of two preferred topologies a third one is made. -/
theorem accessible_mixed :
    ∃ found, ofParameters [("domainLabels", "zone,rack")]
        (some ⟨[[("zone", "a"), ("rack", "r")], [("zone", "b")]], []⟩) = some found ∧
      ∀ topology ∈ [[("zone", "a"), ("rack", "r")], [("zone", "b")]],
        ∃ key, found.get? key ≠ restrict ["zone", "rack"] (Dict.get? topology) key := by
  refine ⟨[("zone", "b"), ("rack", "r")], by decide +kernel, ?_⟩
  simp only [List.forall_mem_cons, List.not_mem_nil, false_implies, implies_true, and_true]
  exact ⟨⟨"zone", by decide⟩, "rack", by decide⟩

end FuseVolumes.Topology
