import FuseVolumes.Orchestrator.Schema.Object
import FuseVolumes.Orchestrator.Store

/-! Reading objects in the form in which the orchestrator sends them. Only an object that has the
shape of its kind can be read; what is missing in it, or null, is taken as not given. -/

namespace FuseVolumes.Orchestrator.Reader

def text? (j : Json) (key : String) : Option String := (j.member key).text?

def text (j : Json) (key : String) : String := (text? j key).getD ""

def items (j : Json) (key : String) : List Json := (j.member key).items

def texts (j : Json) (key : String) : Dict := (j.member key).texts

/-- The metadata every object has. -/
def name? (j : Json) : Option String := text? (j.member "metadata") "name"
def namespace? (j : Json) : Option String := text? (j.member "metadata") "namespace"

def reference (j : Json) : ObjectReference := ⟨text? j "name", text? j "namespace"⟩

def node (j : Json) : NodeObject := ⟨texts (j.member "metadata") "labels"⟩

def attachment (j : Json) : Attachment where
  node := text (j.member "spec") "nodeName"
  attacher := text (j.member "spec") "attacher"
  volume := text? ((j.member "spec").member "source") "persistentVolumeName"
  attached := ((j.member "status").member "attached").isTrue

def source (j : Json) : DriverSource where
  driver := text j "driver"
  handle := text j "volumeHandle"
  attributes := texts j "volumeAttributes"
  stageSecret := (j.object? "nodeStageSecretRef").map reference

def persistentVolume (j : Json) : PersistentVolume where
  name := name? j
  source := ((j.member "spec").object? "csi").map source
  claim := ((j.member "spec").object? "claimRef").map reference
  className := text? (j.member "spec") "storageClassName"
  mountOptions := (items (j.member "spec") "mountOptions").filterMap (·.text?)

def storageClass (j : Json) : StorageClass :=
  ⟨name? j, text j "provisioner", texts j "parameters"⟩

def claim (j : Json) : ClaimObject := ⟨texts (j.member "metadata") "annotations"⟩

/-- Octets under their keys; those that are null are none. -/
def octets (j : Json) : List (String × List UInt8) :=
  j.members.map fun (key, value) =>
    (key, (value.text?.bind fun text => Text.base64Decode text.toList).getD [])

def secret (j : Json) : SecretObject := ⟨octets (j.member "data"), texts j "stringData"⟩

def volumeMount (j : Json) : VolumeMount := ⟨text j "name", text? j "subPath"⟩

def container (j : Json) : Container := ⟨text j "name", (items j "volumeMounts").map volumeMount⟩

def podVolume (j : Json) : PodVolume where
  name := text j "name"
  claim := (j.object? "persistentVolumeClaim").map fun c =>
    ⟨text c "claimName", (c.member "readOnly").isTrue⟩

def podSpec (j : Json) : PodSpec where
  node := text? j "nodeName"
  volumes := (items j "volumes").map podVolume
  initContainers := (items j "initContainers").map container
  containers := (items j "containers").map container

def pod (j : Json) : Pod where
  name := name? j
  uid := text? (j.member "metadata") "uid"
  «namespace» := namespace? j
  phase := text? (j.member "status") "phase"
  spec := (j.object? "spec").map podSpec

/-! ## Stores -/

/-- An object of a kind, if it has the shape of that kind. -/
def object? {α : Type} (shape : Shape) (read : Json → α) (j : Json) : Option α :=
  if shape.fits j then some (read j) else none

def entry {α : Type} (shape : Shape) (read : Json → α) (j : Json) : Entry α :=
  ⟨(name? j).getD "", (namespace? j).getD "", object? shape read j⟩

/-- A pod under the node it is placed on, which is empty if there is none. -/
def placed (j : Json) : String × Option Pod :=
  (text (j.member "spec") "nodeName", object? .pod pod j)

def refusals (j : Json) : List (Kind × Refusal) :=
  Kind.all.filterMap fun kind =>
    (j.object? kind.text).map fun refusal =>
      (kind, .refused ((refusal.member "code").whole?.getD 0) (text refusal "reason"))

/-- A store from lists of objects by the names of their kinds, and refusals by the same. -/
def store (objects errors : Json) : Store where
  nodes := (items objects Kind.nodes.text).map (entry .node node)
  attachments := (items objects Kind.attachments.text).map (object? .attachment attachment)
  volumes := (items objects Kind.volumes.text).map (object? .persistentVolume persistentVolume)
  pods := (items objects Kind.pods.text).map placed
  classes := (items objects Kind.classes.text).map (object? .storageClass storageClass)
  claims := (items objects Kind.claims.text).map (entry .claim claim)
  secrets := (items objects Kind.secrets.text).map (entry .secret secret)
  refusals := refusals errors

/-- A store from two texts; a text that cannot be read holds nothing. -/
def storeOfTexts (objects errors : String) : Store :=
  store ((Json.parse? objects).getD .null) ((Json.parse? errors).getD .null)

end FuseVolumes.Orchestrator.Reader
