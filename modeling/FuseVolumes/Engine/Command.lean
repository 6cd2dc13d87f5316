import FuseVolumes.Credentials
import FuseVolumes.Event
import FuseVolumes.Program
import FuseVolumes.Text.Blank

/-! Commands of the storage engine. One tool manages the volumes of a pool and their quotas,
another mounts a volume through a fuse daemon. -/

namespace FuseVolumes.Engine

def poolTool : String := "/usr/bin/fcfs_pool"
def fuseTool : String := "/usr/bin/fcfs_fused"

/-- Every fuse daemon keeps its files below this directory, under the name of its volume. -/
def basePath : String := "/opt/fastcfs"

/-- The verbs of the tools. -/
inductive Operation
  | create
  | delete
  | quota
  | plist
  | restart
  deriving DecidableEq, Repr

def Operation.text : Operation → String
  | .create => "create"
  | .delete => "delete"
  | .quota => "quota"
  | .plist => "plist"
  | .restart => "restart"

def Operation.all : List Operation := [.create, .delete, .quota, .plist, .restart]

/-- How a command ended. Without an exit code it was ended by a signal. -/
structure Output where
  exitCode : Option Int
  text : String
  deriving DecidableEq, Repr

namespace Output

def success (o : Output) : Bool := o.exitCode == some 0

/-- The tools' exit code for a volume that does not exist. -/
def notFound (o : Output) : Bool := o.exitCode == some 2

/-- The text without blanks at either end. -/
def trimmed (o : Output) : String := Text.trimmed o.text

def exitText (o : Output) : String :=
  match o.exitCode with
  | some n => s!"Some({n})"
  | none => "None"

end Output

/-- Why the engine did not do what it was asked. -/
inductive Error
  | spawn (program : String) (fault : Fault)
  | failed (operation : Operation) (volume : String) (output : Output)
  | directory (path : String) (fault : Fault)
  | credentials (cause : Credentials.Error)
  | proxyUnreachable (endpoint : String)
  | proxyRefused (status : Status)
  deriving DecidableEq, Repr

/-- The words of the transport stand as `<transport>`. -/
def Error.message : Error → String
  | .spawn program fault => s!"Failed to execute {program}: {fault.message}"
  | .failed operation volume output =>
    s!"{operation.text} of volume {volume} failed with exit code {output.exitText}: {output.trimmed}"
  | .directory path fault => s!"Failed to create directory {path}: {fault.message}"
  | .credentials cause => cause.message
  | .proxyUnreachable endpoint =>
    s!"Failed to connect to the fcfsfused proxy at {endpoint}: <transport>"
  | .proxyRefused _ => "fcfsfused proxy mount failed: <transport>"

def Error.status (e : Error) : Status :=
  match e with
  | .credentials cause => cause.status
  | .proxyRefused status => ⟨status.code, "fcfsfused proxy: " ++ status.message⟩
  | _ => ⟨.internal, e.message⟩

/-- A mount as it is forwarded to another process. -/
structure MountRequest where
  basePath : String
  mountArguments : String
  secrets : Dict
  preProvisioned : Bool
  deriving DecidableEq, Repr

/-- Why a forwarded mount has no answer. -/
inductive ForwardError
  | unreachable
  | refused (status : Status)
  deriving DecidableEq, Repr

/-- What work on the engine asks its surroundings for. -/
inductive Call
  | reserve (name : String)
  | release (name : String)
  | log (event : Event)
  | makeDirectories (path : String)
  | stageKey (directory key : String)
  | dropKey (file : String)
  | run (program : String) (arguments : List String)
  | forward (endpoint : String) (request : MountRequest)
  deriving DecidableEq, Repr

@[reducible] def Call.Reply : Call → Type
  | .reserve _ => Bool
  | .release _ => Unit
  | .log _ => Unit
  | .makeDirectories _ => Except Fault Unit
  | .stageKey _ _ => Except Fault String
  | .dropKey _ => Unit
  | .run _ _ => Except Fault Output
  | .forward _ _ => Except ForwardError String

@[reducible] def interface : Interface := ⟨Call, Call.Reply⟩

/-- Work that ends in an answer or an error. -/
abbrev Work (ε α : Type) := ExceptT ε (Program interface) α

def log (event : Event) : Program interface Unit := .request (I := interface) (.log event)

def makeDirectories (path : String) : Work Error Unit :=
  (Program.request (I := interface) (.makeDirectories path)).orFail (.directory path)

def runTool (program : String) (arguments : List String) : Work Error Output :=
  (Program.request (I := interface) (.run program arguments)).orFail (.spawn program)

/-! ## Credentials in use -/

/-- Stages the key of the wanted user. -/
def openCredentials (kind : Credentials.Kind) (secrets : Dict) (directory : String) :
    Work Credentials.Error Credentials := do
  let (user, key) ← ExceptT.mk (.done (Credentials.select kind secrets))
  let file ← (Program.request (I := interface) (.stageKey directory key)).orFail
    (.keyFile directory)
  return ⟨user, file⟩

def closeCredentials (c : Credentials) : Program interface Unit :=
  .request (I := interface) (.dropKey c.keyFile)

/-- Work with credentials, which are closed however it ends. -/
def withCredentials {ε α : Type} (kind : Credentials.Kind) (secrets : Dict)
    (words : Credentials.Error → ε) (work : Credentials → Work ε α) : Work ε α :=
  ExceptT.mk do
    match ← (openCredentials kind secrets Credentials.keyDirectory).run with
    | .error e => return .error (words e)
    | .ok credentials =>
      let result ← (work credentials).run
      closeCredentials credentials
      return result

/-- Work under a reserved name, which is given back however the work ends. -/
def reserving {ε α : Type} (name : String) (taken : ε) (work : Work ε α) : Work ε α :=
  ExceptT.mk do
    if ← Program.request (I := interface) (.reserve name) then
      let result ← work.run
      Program.request (I := interface) (.release name)
      return result
    else return .error taken

end FuseVolumes.Engine
