import FuseVolumes.Orchestrator.Address
import FuseVolumes.Orchestrator.Metadata

/-! An orchestrator as a store of objects. Requests for a kind of object may be set to fail; a
failure that says "not found" is how a missing object is told. An object that cannot be read
spoils every answer it is part of. -/

namespace FuseVolumes.Orchestrator

inductive Kind
  | nodes
  | attachments
  | volumes
  | pods
  | classes
  | claims
  | secrets
  deriving DecidableEq, Repr

namespace Kind

def all : List Kind := [nodes, attachments, volumes, pods, classes, claims, secrets]

/-- The plural under which a kind is known. -/
def text : Kind → String
  | nodes => "nodes"
  | attachments => "volumeattachments"
  | volumes => "persistentvolumes"
  | pods => "pods"
  | classes => "storageclasses"
  | claims => "persistentvolumeclaims"
  | secrets => "secrets"

end Kind

/-- Why all requests for a kind fail. -/
inductive Refusal
  /-- They are answered with a code and a reason instead of objects. -/
  | refused (code : Int) (reason : String)
  /-- They do not get to the orchestrator. -/
  | unreachable
  deriving DecidableEq, Repr

namespace Refusal

def error : Refusal → ApiError
  | refused _ _ => .failed
  | unreachable => .unreachable

/-- Whether it tells that there is no such object. Only codes of errors have a reason that
counts. -/
def isMissing : Refusal → Bool
  | refused code reason => 400 ≤ code && code < 600 && reason == "NotFound"
  | unreachable => false

end Refusal

/-- An object under its name and namespace, which are empty if it has none. Objects that cannot be
read are kept without their content. -/
structure Entry (α : Type) where
  name : String
  «namespace» : String
  object : Option α
  deriving Repr

/-- Whether an object is the one that is asked for. -/
def Entry.is {α : Type} (e : Entry α) (t : Target) : Bool :=
  e.name == t.name && t.«namespace».all (e.«namespace» == ·)

/-- Objects by kind. Those that are only listed have no need of a name, and pods are found by the
node they are placed on. -/
structure Store where
  nodes : List (Entry NodeObject)
  attachments : List (Option Attachment)
  volumes : List (Option PersistentVolume)
  pods : List (String × Option Pod)
  classes : List (Option StorageClass)
  claims : List (Entry ClaimObject)
  secrets : List (Entry SecretObject)
  refusals : List (Kind × Refusal)
  deriving Repr

/-- A request as it gets to the orchestrator. -/
inductive Request
  | list (kind : Kind)
  | podsOn (node : String)
  | named (target : Target)
  deriving DecidableEq, Repr

/-- A store at work: the requests made of it and the log of who made them. -/
structure Session where
  store : Store
  requests : List Request
  events : List Event
  deriving Repr

namespace Store

/-- A store that no request gets to. -/
def unreachable : Store := ⟨[], [], [], [], [], [], [], Kind.all.map fun kind => (kind, .unreachable)⟩

/-- What can be read, or the failure of the whole request. -/
def readable {α : Type} : Option α → Except ApiError α
  | some object => .ok object
  | none => .error .failed

/-- A list of objects, unless requests for the kind fail or one of the objects cannot be read. -/
def list {α : Type} (s : Store) (kind : Kind) (objects : List (Option α)) :
    Except ApiError (List α) :=
  match s.refusals.lookup kind with
  | some refusal => .error refusal.error
  | none => objects.mapM readable

/-- The first object that is asked for, unless requests for the kind fail otherwise than by saying
that there is none. -/
def find {α : Type} (s : Store) (kind : Kind) (objects : List (Entry α)) (t : Target) :
    Except ApiError (Option α) :=
  match s.refusals.lookup kind with
  | some refusal => if refusal.isMissing then .ok none else .error refusal.error
  | none =>
    match objects.find? (·.is t) with
    | some entry => (readable entry.object).map some
    | none => .ok none

end Store

namespace Session

def record (s : Session) (request : Request) : Session :=
  { s with requests := s.requests ++ [request] }

/-- A request for all objects of a kind. -/
def list {α : Type} (s : Session) (kind : Kind) (objects : List (Option α)) :
    Except ApiError (List α) × Session :=
  (s.store.list kind objects, s.record (.list kind))

/-- A request for an object of a kind. What arrives may ask for something else, of which there is
none. -/
def find {α : Type} (s : Session) (kind : Kind) (objects : List (Entry α))
    (ns : Option String) (name : String) : Except ApiError (Option α) × Session :=
  match (Target.mk kind.text ns name).sent? with
  | none => (.error .failed, s)
  | some arrived =>
    (if arrived.kind == kind.text then s.store.find kind objects arrived else .ok none,
      s.record (.named arrived))

end Session

def handle : Program.Handler interface Session
  | .node name, s => s.find .nodes s.store.nodes none name
  | .attachments, s => s.list .attachments s.store.attachments
  | .volumes, s => s.list .volumes s.store.volumes
  | .pods node, s =>
    (s.store.list .pods ((s.store.pods.filter (·.1 == node)).map (·.2)), s.record (.podsOn node))
  | .classes, s => s.list .classes s.store.classes
  | .claim ns name, s => s.find .claims s.store.claims (some ns) name
  | .secret ns name, s =>
    let (found, s) := s.find .secrets s.store.secrets (some ns) name
    (found.map fun object => object.map SecretObject.values, s)
  | .log event, s => ((), { s with events := s.events ++ [event] })

/-- Runs work against a store. -/
def Session.run {ε α : Type} (s : Session) (work : Work ε α) : Except ε α × Session :=
  Program.run handle (ExceptT.run work) s

end FuseVolumes.Orchestrator
