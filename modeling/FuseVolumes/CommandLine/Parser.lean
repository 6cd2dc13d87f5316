import FuseVolumes.Dict
import FuseVolumes.Text.Blank

/-! Command lines. Options are named by a word after two dashes or by a letter after one, and
take their value from the same argument or the next one. What the arguments leave open is taken
from the environment, and then from defaults. -/

namespace FuseVolumes.CommandLine

inductive Action
  /-- Takes one value. -/
  | set
  /-- Is given or not. -/
  | switch
  /-- Counts how often it is given. -/
  | count
  | help
  | version
  deriving DecidableEq, Repr

structure Spec where
  name : String
  short : Option Char
  long : Option String
  /-- The part of the environment that stands in for the option. -/
  envName : Option String
  action : Action
  default : Option String
  /-- The values allowed, or none if any is. -/
  choices : List String
  /-- A value may look like an option. -/
  dashedValues : Bool
  required : Bool
  deriving DecidableEq, Repr

/-- An option that takes a value. -/
def Spec.value (name long : String) (envName default : Option String) : Spec :=
  ⟨name, none, some long, envName, .set, default, [], false, false⟩

def Spec.switch (name : String) : Spec :=
  ⟨name, none, some name, none, .switch, none, [], false, false⟩

def helpSpec : Spec := ⟨"help", some 'h', some "help", none, .help, none, [], false, false⟩
def versionSpec : Spec := ⟨"version", some 'V', some "version", none, .version, none, [], false, false⟩

/-- Why a command line is not run. -/
inductive Stop
  | help
  | version
  | unknownArgument
  | invalidValue
  | argumentConflict
  | tooManyValues
  | missingArgument
  deriving DecidableEq, Repr

/-- To ask for help is no mistake. -/
def Stop.exitCode : Stop → Int
  | .help | .version => 0
  | _ => 2

inductive Found
  | value (text : String)
  | switched
  | counted (n : Nat)
  deriving DecidableEq, Repr

/-- What was found, and the option under way with its value, if it has one yet. -/
structure State where
  found : List (String × Found)
  pending : Option (Spec × Option String)
  /-- Everything that follows is no option. -/
  trailing : Bool
  deriving Repr

/-- The most a counter counts. -/
def countLimit : Nat := 255

namespace State

def has (s : State) (o : Spec) : Bool := (s.found.lookup o.name).isSome

def put (s : State) (o : Spec) (f : Found) : State :=
  { s with found := (o.name, f) :: s.found.filter (·.1 != o.name) }

def setValue (s : State) (o : Spec) (value : String) : Except Stop State :=
  if o.choices.isEmpty || o.choices.contains value then .ok (s.put o (.value value))
  else .error .invalidValue

/-- Takes note of an option. Only counters may be given twice. -/
def store (s : State) (o : Spec) (value : Option String) : Except Stop State :=
  match o.action, value with
  | .help, _ => .error .help
  | .version, _ => .error .version
  | .count, _ =>
    match s.found.lookup o.name with
    | some (.counted n) => .ok (s.put o (.counted (min (n + 1) countLimit)))
    | _ => .ok (s.put o (.counted 1))
  | .switch, _ => if s.has o then .error .argumentConflict else .ok (s.put o .switched)
  | .set, none => .error .invalidValue
  | .set, some value => if s.has o then .error .argumentConflict else s.setValue o value

/-- Takes note of the option under way. -/
def settle (s : State) : Except Stop State :=
  match s.pending with
  | none => .ok s
  | some (o, value) => store { s with pending := none } o value

/-- Takes note of a complete option after the one under way. -/
def react (s : State) (o : Spec) (value : Option String) : Except Stop State := do
  let s ← s.settle
  s.store o value

/-- An option that waits for its value. -/
def await (s : State) (o : Spec) : Except Stop State := do
  let s ← s.settle
  return { s with pending := some (o, none) }

/-! ## Arguments -/

/-- An option by word, and the value after the equals sign. -/
def long (specs : List Spec) (s : State) (text : List Char) : Except Stop State :=
  let name := text.takeWhile (· != '=')
  let attached := match text.dropWhile (· != '=') with
    | [] => none
    | _ :: value => some (String.ofList value)
  match specs.find? (·.long == some (String.ofList name)) with
  | none => .error .unknownArgument
  | some o =>
    match o.action, attached with
    | .set, some value => s.react o (some value)
    | .set, none => s.await o
    | _, some _ => .error .tooManyValues
    | _, none => s.react o none

/-- Options by letter, of which the last may have a value behind it. -/
def short (specs : List Spec) : State → List Char → Except Stop State
  | s, [] => .ok s
  | s, c :: rest =>
    match specs.find? (·.short == some c) with
    | none => .error .unknownArgument
    | some o =>
      if o.action ≠ .set then do
        let s ← s.react o none
        short specs s rest
      else
        match rest with
        | [] => s.await o
        | '=' :: value => s.react o (some (.ofList value))
        | value => s.react o (some (.ofList value))

/-- A value for the option that waits for one; nothing else may stand alone. -/
def plain (s : State) (argument : String) : Except Stop State :=
  match s.pending with
  | some (o, none) => .ok { s with pending := some (o, some argument) }
  | _ => .error .unknownArgument

/-- Whether the option under way takes even what looks like an option. -/
def takesDashes (s : State) : Bool :=
  match s.pending with
  | some (o, none) => o.dashedValues
  | _ => false

def step (specs : List Spec) (s : State) (argument : String) : Except Stop State :=
  if s.trailing then .error .unknownArgument
  else if s.takesDashes then s.plain argument
  else
    match argument.toList with
    | ['-', '-'] => .ok { s with trailing := true }
    | '-' :: '-' :: text => s.long specs text
    | ['-'] => s.plain argument
    | '-' :: text => s.short specs text
    | _ => s.plain argument

/-! ## What the arguments leave open -/

def fillFromEnvironment (environment : Dict) (s : State) (o : Spec) : Except Stop State :=
  if s.has o then .ok s
  else
    match o.envName.bind environment.get? with
    | some value => s.setValue o value
    | none => .ok s

def fillDefault (s : State) (o : Spec) : State :=
  if s.has o then s
  else
    match o.default with
    | some value => s.put o (.value value)
    | none => s

end State

/-- The values of all options. -/
structure Matches where
  found : List (String × Found)
  deriving Repr

namespace Matches

def value? (m : Matches) (name : String) : Option String :=
  match m.found.lookup name with
  | some (.value text) => some text
  | _ => none

/-- The value of an option that always has one. -/
def text (m : Matches) (name : String) : String := (m.value? name).getD ""

def isSwitched (m : Matches) (name : String) : Bool := (m.found.lookup name).isSome

def count (m : Matches) (name : String) : Nat :=
  match m.found.lookup name with
  | some (.counted n) => n
  | _ => 0

end Matches

/-- Reads the arguments of a program, its own name not among them. -/
def parse (options : List Spec) (arguments : List String) (environment : Dict) :
    Except Stop Matches := do
  let specs := options ++ [helpSpec, versionSpec]
  let s ← arguments.foldlM (State.step specs) ⟨[], none, false⟩
  let s ← s.settle
  let s ← specs.foldlM (State.fillFromEnvironment environment) s
  let s := specs.foldl State.fillDefault s
  if specs.any fun o => o.required && ! s.has o then .error .missingArgument
  else return ⟨s.found⟩

end FuseVolumes.CommandLine
