import FuseVolumes.Text.Bytes

/-! Strict JSON. Objects keep every member in order, so that a reader can refuse repeated
keys, and numbers keep their spelling. A string whose escapes name half of a surrogate pair
is well formed but has no text. -/

namespace FuseVolumes

inductive Json
  | null
  | bool (b : Bool)
  | number (spelling : List Char)
  | string (text : Option String)
  | array (items : List Json)
  | object (members : List (Option String × Json))
  deriving Repr, Inhabited

namespace Json

def isSpace (c : Char) : Bool := c == ' ' || c == '\t' || c == '\n' || c == '\r'

def skipSpace (text : List Char) : List Char := text.dropWhile isSpace

/-! ## Strings -/

/-- A unit of 16 bits from four digits. -/
def unit? : List Char → Option (Nat × List Char)
  | a :: b :: c :: d :: rest => (Text.hexNumber? [a, b, c, d]).map (·, rest)
  | _ => none

def isHighHalf (n : Nat) : Bool := 0xD800 ≤ n && n < 0xDC00
def isLowHalf (n : Nat) : Bool := 0xDC00 ≤ n && n < 0xE000

/-- What a string holds: characters and units that were written by number. -/
inductive Piece
  | char (c : Char)
  | unit (n : Nat)
  deriving Repr

/-- The text of pieces, where a high half needs a low half right after it. -/
def Piece.text? : List Piece → Option (List Char)
  | [] => some []
  | .char c :: rest => (text? rest).map (c :: ·)
  | .unit n :: rest =>
    if isLowHalf n then none
    else if isHighHalf n then
      match rest with
      | .unit low :: rest' =>
        if isLowHalf low then
          (text? rest').map (Char.ofNat (0x10000 + (n - 0xD800) * 1024 + (low - 0xDC00)) :: ·)
        else none
      | _ => none
    else (text? rest).map (Char.ofNat n :: ·)

def escape? (c : Char) : Option Char :=
  match c with
  | '"' => some '"'
  | '\\' => some '\\'
  | '/' => some '/'
  | 'b' => some '\x08'
  | 'f' => some '\x0c'
  | 'n' => some '\n'
  | 'r' => some '\r'
  | 't' => some '\t'
  | _ => none

/-- The pieces up to the closing quote, and what follows it. -/
def readPieces : Nat → List Char → Option (List Piece × List Char)
  | 0, _ => none
  | _ + 1, [] => none
  | _ + 1, '"' :: rest => some ([], rest)
  | fuel + 1, '\\' :: 'u' :: rest =>
    (unit? rest).bind fun (n, rest) =>
      (readPieces fuel rest).map fun (pieces, rest) => (.unit n :: pieces, rest)
  | fuel + 1, '\\' :: c :: rest =>
    (escape? c).bind fun c =>
      (readPieces fuel rest).map fun (pieces, rest) => (.char c :: pieces, rest)
  | fuel + 1, c :: rest =>
    if c.toNat < 0x20 then none
    else (readPieces fuel rest).map fun (pieces, rest) => (.char c :: pieces, rest)

/-- A string after its opening quote. -/
def readString (text : List Char) : Option (Option String × List Char) :=
  (readPieces (text.length + 1) text).map fun (pieces, rest) =>
    ((Piece.text? pieces).map String.ofList, rest)

/-! ## Numbers -/

/-- Digits, at least one. -/
def readDigits (text : List Char) : Option (List Char × List Char) :=
  match text.takeWhile Char.isDigit with
  | [] => none
  | digits => some (digits, text.dropWhile Char.isDigit)

/-- Digits without a leading zero. -/
def readWhole : List Char → Option (List Char × List Char)
  | '0' :: rest =>
    match rest with
    | [] => some (['0'], [])
    | c :: _ => if c.isDigit then none else some (['0'], rest)
  | text => readDigits text

def readFraction : List Char → Option (List Char × List Char)
  | '.' :: rest => (readDigits rest).map fun (digits, rest) => ('.' :: digits, rest)
  | text => some ([], text)

def readSign : List Char → List Char × List Char
  | '+' :: rest => (['+'], rest)
  | '-' :: rest => (['-'], rest)
  | text => ([], text)

def readExponent : List Char → Option (List Char × List Char)
  | c :: rest =>
    if c == 'e' || c == 'E' then
      let (sign, rest) := readSign rest
      (readDigits rest).map fun (digits, rest) => (c :: sign ++ digits, rest)
    else some ([], c :: rest)
  | [] => some ([], [])

def readNumber (text : List Char) : Option (List Char × List Char) := do
  let (sign, text) := match text with
    | '-' :: rest => (['-'], rest)
    | text => ([], text)
  let (whole, text) ← readWhole text
  let (fraction, text) ← readFraction text
  let (exponent, text) ← readExponent text
  return (sign ++ whole ++ fraction ++ exponent, text)

/-! ## Values -/

mutual

/-- One value, spaces before it allowed. -/
def readValue : Nat → List Char → Option (Json × List Char)
  | 0, _ => none
  | fuel + 1, text =>
    match skipSpace text with
    | [] => none
    | '"' :: rest => (readString rest).map fun (s, rest) => (.string s, rest)
    | '[' :: rest =>
      match skipSpace rest with
      | ']' :: rest => some (.array [], rest)
      | rest => (readItems fuel rest).map fun (items, rest) => (.array items, rest)
    | '\x7b' :: rest =>
      match skipSpace rest with
      | '\x7d' :: rest => some (.object [], rest)
      | rest => (readMembers fuel rest).map fun (members, rest) => (.object members, rest)
    | 't' :: 'r' :: 'u' :: 'e' :: rest => some (.bool true, rest)
    | 'f' :: 'a' :: 'l' :: 's' :: 'e' :: rest => some (.bool false, rest)
    | 'n' :: 'u' :: 'l' :: 'l' :: rest => some (.null, rest)
    | text => (readNumber text).map fun (spelling, rest) => (.number spelling, rest)

/-- The items of an array that is not empty, and what follows its bracket. -/
def readItems : Nat → List Char → Option (List Json × List Char)
  | 0, _ => none
  | fuel + 1, text =>
    (readValue fuel text).bind fun (item, rest) =>
      match skipSpace rest with
      | ']' :: rest => some ([item], rest)
      | ',' :: rest => (readItems fuel rest).map fun (items, rest) => (item :: items, rest)
      | _ => none

/-- The members of an object that is not empty, and what follows its brace. -/
def readMembers : Nat → List Char → Option (List (Option String × Json) × List Char)
  | 0, _ => none
  | fuel + 1, text =>
    match skipSpace text with
    | '"' :: rest =>
      (readString rest).bind fun (key, rest) =>
        match skipSpace rest with
        | ':' :: rest =>
          (readValue fuel rest).bind fun (value, rest) =>
            match skipSpace rest with
            | '\x7d' :: rest => some ([(key, value)], rest)
            | ',' :: rest =>
              (readMembers fuel rest).map fun (members, rest) => ((key, value) :: members, rest)
            | _ => none
        | _ => none
    | _ => none

end

/-- A whole text as one value. Every step of the reader uses up a character, so twice the
length is fuel enough. -/
def parse? (text : String) : Option Json :=
  let chars := text.toList
  (readValue (2 * chars.length + 2) chars).bind fun (value, rest) =>
    if (skipSpace rest).isEmpty then some value else none

/-! ## Looking into values -/

/-- The member of an object under a key; everything else has none. -/
def member (key : String) : Json → Json
  | .object members => ((members.find? (·.1 == some key)).map (·.2)).getD .null
  | _ => .null

def isObject : Json → Bool
  | .object _ => true
  | _ => false

/-- The member under a key, if it is an object itself. -/
def object? (j : Json) (key : String) : Option Json :=
  if (j.member key).isObject then some (j.member key) else none

def text? : Json → Option String
  | .string text => text
  | _ => none

def items : Json → List Json
  | .array items => items
  | _ => []

def isNull : Json → Bool
  | .null => true
  | _ => false

def isFlag : Json → Bool
  | .bool _ => true
  | _ => false

/-- A number without fraction and exponent. -/
def whole? : Json → Option Int
  | .number ('-' :: digits) => (digitsValue? digits).map fun n => -Int.ofNat n
  | .number digits => (digitsValue? digits).map Int.ofNat
  | _ => none
where
  digitsValue? (digits : List Char) : Option Nat :=
    if digits.all Char.isDigit then
      some (digits.foldl (fun n c => n * 10 + (c.toNat - 48)) 0)
    else none

def isTrue : Json → Bool
  | .bool b => b
  | _ => false

/-- The members of an object whose keys are texts. -/
def members : Json → List (String × Json)
  | .object members => members.filterMap fun (key, value) => key.map (·, value)
  | _ => []

/-- The members of an object that are texts. -/
def texts (j : Json) : List (String × String) :=
  j.members.filterMap fun (key, value) => value.text?.map (key, ·)

end Json

end FuseVolumes
