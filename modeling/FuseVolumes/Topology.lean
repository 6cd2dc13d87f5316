import FuseVolumes.Dict
import FuseVolumes.Text.Blank
import FuseVolumes.Text.Bytes
import FuseVolumes.Text.LowerCase
import FuseVolumes.Text.Quoted

/-! Topology from labels. A node reports the values of some of its labels as its topology;
a volume takes over the segments of its storage class's labels from what the orchestrator
asks for. -/

namespace FuseVolumes.Topology

def labelsParameter : String := "domainLabels"

/-- The limit on the part of a label before its slash, in bytes. -/
def ownerLimit : Nat := 63

inductive Error
  | ownerTooLong (owner : String)
  | duplicateLabel (label : String)
  | missingLabels (labels : List String) (node : String)
  deriving DecidableEq, Repr

def Error.message : Error → String
  | .ownerTooLong owner =>
    s!"Computed topology label prefix '{owner}' for node exceeds length limits"
  | .duplicateLabel label => s!"Duplicate label '{label}' found in domain labels"
  | .missingLabels labels node =>
    s!"Missing domain labels {Text.quotedList labels} on node '{node}'"

/-- The pieces between commas, trimmed, without the empty ones. -/
def parseLabels (text : String) : List String :=
  (((Text.pieces (· == ',') text.toList).map Text.trim).filter (! ·.isEmpty)).map String.ofList

/-! ## Volumes -/

/-- What the orchestrator would like and what it insists on, as lists of segments. -/
structure Requirement where
  preferred : List Dict
  requisite : List Dict
  deriving DecidableEq, Repr

/-- The labelled segments of a list of topologies, later ones winning. -/
def segments (labels : List String) (topologies : List Dict) : Dict :=
  Dict.insertAll [] <| topologies.flatMap fun topology =>
    labels.filterMap fun label => (topology.get? label).map (label, ·)

def segments? (labels : List String) (topologies : List Dict) : Option Dict :=
  match segments labels topologies with
  | [] => none
  | found => some found

/-- The topology of a new volume: what is preferred, or failing that what is required. -/
def ofParameters (parameters : Dict) (requirement : Option Requirement) : Option Dict :=
  match parameters.get? labelsParameter, requirement with
  | some text, some requirement =>
    let labels := parseLabels text
    (segments? labels requirement.preferred).or (segments? labels requirement.requisite)
  | _, _ => none

/-! ## Nodes -/

/-- The part of a label after its first slash, or all of it. -/
def domain (label : String) : String :=
  match label.toList.dropWhile (· != '/') with
  | [] => label
  | _ :: name => .ofList name

/-- The part before the slash of every segment that a driver reports. -/
def owner (driver : String) : String := Text.lower ("topology." ++ driver)

/-- The first label that equals an earlier one. -/
def firstRepeat? (seen : List String) : List String → Option String
  | [] => none
  | label :: rest => if seen.contains label then some label else firstRepeat? (label :: seen) rest

/-- The topology of a node: the values of the wanted labels, all of which it must have. -/
def ofNode (labels driver node : String) (nodeLabels : Dict) : Except Error Dict :=
  let wanted := parseLabels labels
  if wanted.isEmpty then .ok []
  else if Text.byteLength (owner driver).toList > ownerLimit then
    .error (.ownerTooLong (owner driver))
  else
    match firstRepeat? [] wanted with
    | some label => .error (.duplicateLabel label)
    | none =>
      match wanted.filter (! nodeLabels.contains ·) with
      | [] =>
        .ok <| Dict.insertAll [] <| wanted.filterMap fun label =>
          (nodeLabels.get? label).map (owner driver ++ "/" ++ domain label, ·)
      | missing => .error (.missingLabels (orderedSet missing) node)

end FuseVolumes.Topology
