import FuseVolumes.Dict
import FuseVolumes.Fault
import FuseVolumes.Status

/-! Users of the storage engine, taken from secrets. The engine's tools read the key of a
user from a file only, so it is staged into one for as long as the credentials are in use. -/

namespace FuseVolumes

/-- A user and the file that holds its key. -/
structure Credentials where
  user : String
  keyFile : String
  deriving DecidableEq, Repr

namespace Credentials

/-- Which pair of secret entries to use. -/
inductive Kind
  | admin
  | user
  deriving DecidableEq, Repr

/-- Volumes set up by hand are mounted as their user, all others as the admin. -/
def Kind.forVolume (preProvisioned : Bool) : Kind :=
  if preProvisioned then .user else .admin

def Kind.idField : Kind → String
  | .admin => "adminName"
  | .user => "userName"

def Kind.keyField : Kind → String
  | .admin => "adminSecretKey"
  | .user => "userSecretKey"

/-- Where keys are staged. -/
def keyDirectory : String := "/tmp/csi/keys"

/-- How the names of key files start. -/
def keyFileStart : String := "keyfile-"

inductive Error
  | emptySecrets
  | missingId (field : String)
  | missingKey (field : String)
  | keyFile (directory : String) (fault : Fault)
  deriving DecidableEq, Repr

def Error.message : Error → String
  | .emptySecrets => "Provided secret is empty"
  | .missingId field => s!"Missing ID field '{field}' in secrets"
  | .missingKey field => s!"Missing key field '{field}' in secrets"
  | .keyFile directory fault => s!"Failed to stage key file in {directory}: {fault.message}"

def Error.status (e : Error) : Status :=
  match e with
  | .keyFile _ _ => ⟨.internal, e.message⟩
  | _ => ⟨.invalidArgument, e.message⟩

/-- The user and key of a kind, both of which must be filled in. -/
def select (kind : Kind) (secrets : Dict) : Except Error (String × String) :=
  if secrets.isEmpty then .error .emptySecrets
  else
    match secrets.filled? kind.idField with
    | none => .error (.missingId kind.idField)
    | some user =>
      match secrets.filled? kind.keyField with
      | none => .error (.missingKey kind.keyField)
      | some key => .ok (user, key)

/-- The arguments that every tool starts with. -/
def arguments (c : Credentials) : List String := ["-u", c.user, "-k", c.keyFile]

end Credentials

end FuseVolumes
