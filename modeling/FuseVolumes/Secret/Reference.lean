import FuseVolumes.Event
import FuseVolumes.Secret.Name
import FuseVolumes.Secret.Template
import FuseVolumes.Text.Quoted

/-! Which secret a volume is mounted with. A storage class names it by templates for name and
namespace, under keys of its own or under the keys shared by all secrets. -/

namespace FuseVolumes.Secret

/-- The keys under which a storage class names a secret. -/
structure Keys where
  kind : String
  oldName : Option String
  oldNamespace : Option String
  name : String
  «namespace» : String
  deriving DecidableEq, Repr

/-- The keys shared by every kind of secret. -/
def sharedKeys : Keys where
  kind := "Default"
  oldName := none
  oldNamespace := none
  name := "csi.storage.k8s.io/secret-name"
  «namespace» := "csi.storage.k8s.io/secret-namespace"

/-- The keys of the secret a volume is staged with. -/
def stageKeys : Keys where
  kind := "NodeStage"
  oldName := some "csiNodeStageSecretName"
  oldNamespace := some "csiNodeStageSecretNamespace"
  name := "csi.storage.k8s.io/node-stage-secret-name"
  «namespace» := "csi.storage.k8s.io/node-stage-secret-namespace"

inductive Error
  | doubleSpecified (kind : String)
  | incomplete (kind : String)
  | emptyTemplate (kind : String)
  | invalidTokens (template : String) (tokens : List String)
  | invalidName (template value what : String)
  deriving DecidableEq, Repr

def Error.message : Error → String
  | .doubleSpecified kind =>
    kind ++ " secrets specified in parameters with both \"csi\" and \"csi.storage.k8s.io/\" keys"
  | .incomplete kind =>
    s!"Either name or namespace for {kind} secrets specified, both must be specified"
  | .emptyTemplate kind =>
    s!"{kind} secrets specified in parameters but value of either namespace or name is empty"
  | .invalidTokens template tokens =>
    s!"Error resolving value '{template}': invalid tokens {Text.quotedList tokens}"
  | .invalidName template value what =>
    s!"'{template}' resolved to '{value}' which is not a valid {what}"

/-- A secret by namespace and name. -/
structure Reference where
  «namespace» : String
  name : String
  deriving DecidableEq, Repr

def Reference.display (r : Reference) : String := r.«namespace» ++ "/" ++ r.name

/-- The claim a volume is bound to, as far as templates can tell. -/
structure Claim where
  name : String
  «namespace» : String
  annotations : Dict
  deriving DecidableEq, Repr

/-- The templates of a reference. -/
structure Templates where
  name : String
  «namespace» : String
  deriving DecidableEq, Repr

/-- The values under an old key and its successor. -/
def valuesOf (parameters : Dict) (oldKey : Option String) (key : String) : List String :=
  (oldKey.bind parameters.get?).toList ++ (parameters.get? key).toList

/-- The templates under the given keys. Name and namespace must come together, each under one
key only, and filled in. -/
def Keys.templates (keys : Keys) (parameters : Dict) : Except Error (Option Templates) :=
  match valuesOf parameters keys.oldName keys.name,
      valuesOf parameters keys.oldNamespace keys.«namespace» with
  | [], [] => .ok none
  | [name], [ns] =>
    if name.isEmpty || ns.isEmpty then .error (.emptyTemplate keys.kind)
    else .ok (some ⟨name, ns⟩)
  | names, namespaces =>
    if names.length > 1 || namespaces.length > 1 then .error (.doubleSpecified keys.kind)
    else .error (.incomplete keys.kind)

/-- Warnings about old keys in use. -/
def Keys.warnings (keys : Keys) (parameters : Dict) : List Event :=
  [(keys.oldName, keys.name), (keys.oldNamespace, keys.«namespace»)].filterMap fun (old, key) =>
    (old.filter parameters.contains).map fun old =>
      .warn .secrets ("\"" ++ old ++ "\" is deprecated and will be removed in a future release, "
        ++ "please use \"" ++ key ++ "\" instead")

/-- What a namespace template may refer to. -/
def namespaceValues (volume : String) (claim : Option Claim) : Dict :=
  ("pv.name", volume) :: match claim with
    | some claim => [("pvc.namespace", claim.«namespace»)]
    | none => []

/-- What a name template may refer to besides. -/
def nameValues (volume : String) (claim : Option Claim) : Dict :=
  match claim with
  | none => namespaceValues volume claim
  | some claim =>
    Dict.insertAll ((namespaceValues volume claim).insert "pvc.name" claim.name)
      (claim.annotations.map fun (key, value) => ("pvc.annotations['" ++ key ++ "']", value))

def fillTemplate (template : String) (values : Dict) : Except Error String :=
  match Template.resolve template values with
  | .ok value => .ok value
  | .error tokens => .error (.invalidTokens template tokens)

/-- Fills the templates in, the namespace first, and checks both names. -/
def Templates.resolve (t : Templates) (volume : String) (claim : Option Claim) :
    Except Error Reference := do
  let ns ← fillTemplate t.«namespace» (namespaceValues volume claim)
  if ! isLabel ns then throw (.invalidName t.«namespace» ns "namespace name")
  let name ← fillTemplate t.name (nameValues volume claim)
  if ! isDomain name then throw (.invalidName t.name name "secret name")
  return ⟨ns, name⟩

/-- The secret under the given keys, failing any under the shared ones; nothing if the
storage class names none. -/
def Keys.reference (keys : Keys) (parameters : Dict) (volume : String) (claim : Option Claim) :
    Except Error (Option Reference) := do
  match ← keys.templates parameters with
  | some templates => some <$> templates.resolve volume claim
  | none =>
    match ← sharedKeys.templates parameters with
    | some templates => some <$> templates.resolve volume claim
    | none => return none

end FuseVolumes.Secret
