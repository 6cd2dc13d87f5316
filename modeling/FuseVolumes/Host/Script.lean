import FuseVolumes.Engine.Command
import FuseVolumes.Host.Tree
import FuseVolumes.Text.Utf8

/-! Programs of a host that a command can name: the shell with a small language of scripts,
and nothing else. A script is a list of commands, each of which writes to one of two streams,
ends the script, or does nothing. -/

namespace FuseVolumes.Host.Script

/-! ## Words -/

inductive Token
  | word (text : List Char)
  | toErrors
  | stop
  deriving DecidableEq, Repr

/-- The word under way, if one is. -/
abbrev Pending := Option (List Char)

def Pending.tokens : Pending → List Token
  | none => []
  | some text => [.word text]

def Pending.add (p : Pending) (text : List Char) : Pending := some (p.getD [] ++ text)

/-- How the characters up to the next quote are read. -/
inductive Quotes
  | none
  | single
  | double
  deriving DecidableEq, Repr

/-- The parameter with the number that a digit names, empty where there is none. -/
def parameter? (parameters : List (List Char)) (digit : Char) : Option (List Char) :=
  if '1' ≤ digit ∧ digit ≤ '9' then some ((parameters[digit.toNat - 49]?).getD []) else none

/-- Cuts a script into tokens, with the parameters filled in. -/
def tokens (parameters : List (List Char)) : Quotes → Pending → List Char → List Token
  | _, p, [] => p.tokens
  | .single, p, '\'' :: rest => tokens parameters .none p rest
  | .single, p, c :: rest => tokens parameters .single (p.add [c]) rest
  | .double, p, '"' :: rest => tokens parameters .none p rest
  | .double, p, '\\' :: c :: rest =>
    let text := if c == '"' || c == '\\' || c == '$' then [c] else ['\\', c]
    tokens parameters .double (p.add text) rest
  | .double, p, '$' :: '$' :: rest => tokens parameters .double (p.add ['$', '$']) rest
  | .double, p, '$' :: c :: rest =>
    match parameter? parameters c with
    | some text => tokens parameters .double (p.add text) rest
    | none => tokens parameters .double (p.add ['$']) (c :: rest)
  | .double, p, c :: rest => tokens parameters .double (p.add [c]) rest
  | .none, p, '"' :: '$' :: '@' :: '"' :: rest =>
    p.tokens ++ parameters.map .word ++ tokens parameters .none none rest
  | .none, p, '\'' :: rest => tokens parameters .single (p.add []) rest
  | .none, p, '"' :: rest => tokens parameters .double (p.add []) rest
  | .none, p, '\\' :: c :: rest => tokens parameters .none (p.add [c]) rest
  | .none, none, '1' :: '>' :: '&' :: '2' :: rest => .toErrors :: tokens parameters .none none rest
  | .none, p, '>' :: '&' :: '2' :: rest => p.tokens ++ .toErrors :: tokens parameters .none none rest
  | .none, p, c :: rest =>
    if c == ';' || c == '\n' then p.tokens ++ .stop :: tokens parameters .none none rest
    else if c == ' ' || c == '\t' then p.tokens ++ tokens parameters .none none rest
    else tokens parameters .none (p.add [c]) rest

/-- A command: its words, and whether it writes to the stream of errors. -/
structure Command where
  words : List (List Char)
  toErrors : Bool
  deriving DecidableEq, Repr

def Command.add (c : Command) : Token → Command
  | .word text => { c with words := c.words ++ [text] }
  | _ => { c with toErrors := true }

def commands : Command → List Token → List Command
  | c, [] => [c]
  | c, .stop :: rest => c :: commands ⟨[], false⟩ rest
  | c, token :: rest => commands (c.add token) rest

/-! ## Formats -/

def octalDigit? (c : Char) : Option Nat :=
  if '0' ≤ c ∧ c ≤ '7' then some (c.toNat - 48) else none

/-- Up to three octal digits. -/
def octal (text : List Char) : Nat × List Char :=
  let digits := (text.take 3).takeWhile (octalDigit? · |>.isSome)
  (digits.foldl (fun n c => n * 8 + (octalDigit? c).getD 0) 0, text.drop digits.length)

def controlOctet? : Char → Option UInt8
  | 'a' => some 7
  | 'b' => some 8
  | 't' => some 9
  | 'n' => some 10
  | 'v' => some 11
  | 'f' => some 12
  | 'r' => some 13
  | '\\' => some 92
  | _ => none

/-- A format once through, taking arguments for its fields. Missing arguments are empty. -/
def format : Nat → List Char → List (List Char) → List UInt8 × List (List Char)
  | 0, _, arguments => ([], arguments)
  | _, [], arguments => ([], arguments)
  | fuel + 1, '%' :: '%' :: rest, arguments =>
    let (octets, arguments) := format fuel rest arguments
    (37 :: octets, arguments)
  | fuel + 1, '%' :: _ :: rest, arguments =>
    let (octets, left) := format fuel rest arguments.tail
    (Text.octets (arguments.headD []) ++ octets, left)
  | fuel + 1, '\\' :: c :: rest, arguments =>
    match controlOctet? c, octalDigit? c with
    | some octet, _ =>
      let (octets, arguments) := format fuel rest arguments
      (octet :: octets, arguments)
    | none, some _ =>
      let (n, rest) := octal (c :: rest)
      let (octets, arguments) := format fuel rest arguments
      (.ofNat n :: octets, arguments)
    | none, none =>
      let (octets, arguments) := format fuel rest arguments
      (Text.octets ['\\', c] ++ octets, arguments)
  | fuel + 1, c :: rest, arguments =>
    let (octets, arguments) := format fuel rest arguments
    (Text.octets [c] ++ octets, arguments)

/-- A format as often as it takes to use up the arguments. -/
def formatAll : Nat → List Char → List (List Char) → List UInt8
  | 0, _, _ => []
  | rounds + 1, text, arguments =>
    let (octets, left) := format text.length text arguments
    if left.isEmpty || left.length == arguments.length then octets
    else octets ++ formatAll rounds text left

/-- Words on one line, with their escapes read but no fields in them. -/
def echoed (words : List String) : List UInt8 :=
  let line := Text.joinWith [' '] (words.map String.toList)
  let text := line.flatMap fun c => if c == '%' then ['%', '%'] else [c]
  (format text.length text []).1

/-! ## Running -/

structure State where
  out : List UInt8
  errors : List UInt8
  deriving Repr

def State.write (s : State) (c : Command) (octets : List UInt8) : State :=
  if c.toErrors then { s with errors := s.errors ++ octets } else { s with out := s.out ++ octets }

/-- Exit codes have eight bits. -/
def exitCode (digits : List Char) (last : Nat) : Nat :=
  match (String.ofList digits).toNat? with
  | some n => n % 256
  | none => last

/-- Runs the commands in turn; the code of the last one counts unless one ends the script. -/
def run : Nat → State → List Command → Option Nat × State
  | last, s, [] => (some last, s)
  | last, s, c :: rest =>
    match c.words.map String.ofList with
    | [] => run last s rest
    | "printf" :: arguments =>
      match arguments.map String.toList with
      | [] => run 2 s rest
      | text :: operands =>
        run 0 (s.write c (formatAll (operands.length + 1) text operands)) rest
    | "echo" :: "-n" :: arguments => run 0 (s.write c (echoed arguments)) rest
    | "echo" :: arguments => run 0 (s.write c (echoed arguments ++ [10])) rest
    | "exit" :: code => (some (exitCode (code.headD "").toList last), s)
    | ["kill", "$$"] | ["kill", _, "$$"] => (none, s)
    | "true" :: _ | ":" :: _ => run 0 s rest
    | "false" :: _ => run 1 s rest
    | name :: _ =>
      run 127 { s with errors := s.errors ++ Text.octets (name ++ ": not found\n").toList } rest

def output (result : Option Nat × State) : Engine.Output :=
  ⟨result.1.map Int.ofNat,
    .ofList (Text.lossy result.2.out) ++ .ofList (Text.lossy result.2.errors)⟩

/-- The shell with its arguments; without a script it has nothing to do. -/
def shell : List String → Engine.Output
  | "-c" :: script :: parameters =>
    output <| run 0 ⟨[], []⟩ <| commands ⟨[], false⟩ <|
      tokens (parameters.tail.map String.toList) .none none script.toList
  | _ => ⟨some 0, ""⟩

end Script

/-- Where programs named without a slash are looked for. -/
def programDirectories : List String := ["/usr/bin", "/bin"]

def Tree.findProgram (t : Tree) (program : String) : Except Fault (Place × Entry) :=
  if program.isEmpty then .error .notFound
  else if program.toList.contains '/' then t.find program
  else
    match programDirectories.findSome? fun directory =>
        (t.find (Path.join directory program)).toOption with
    | some found => .ok found
    | none => .error .notFound

/-- Runs a program to its end, or tells why it cannot be started. -/
def Tree.spawn (t : Tree) (program : String) (arguments : List String) :
    Except Fault Engine.Output :=
  if (program :: arguments).any (·.toList.contains '\x00') then .error .nulInArgument
  else do
    match ← t.findProgram program with
    | (place, .file _ true) =>
      match place.getLast? with
      | some "true" => return ⟨some 0, ""⟩
      | some "false" => return ⟨some 1, ""⟩
      | _ => return Script.shell arguments
    | _ => .error .permissionDenied

end FuseVolumes.Host
