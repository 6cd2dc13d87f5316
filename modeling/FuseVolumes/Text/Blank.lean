/-! Blanks, which are the characters with the Unicode property `White_Space`, and what is
cut at them. -/

namespace FuseVolumes.Text

/-- The property `White_Space`. -/
def isBlank (c : Char) : Bool :=
  let n := c.toNat
  (9 ≤ n && n ≤ 13) || n == 0x20 || n == 0x85 || n == 0xA0 || n == 0x1680
    || (0x2000 ≤ n && n ≤ 0x200A) || n == 0x2028 || n == 0x2029 || n == 0x202F
    || n == 0x205F || n == 0x3000

/-- The pieces between the separators, empty ones included. -/
def pieces (isSeparator : Char → Bool) : List Char → List (List Char)
  | [] => [[]]
  | c :: rest =>
    if isSeparator c then [] :: pieces isSeparator rest
    else
      match pieces isSeparator rest with
      | [] => [[c]]
      | piece :: others => (c :: piece) :: others

/-- The words between blanks. -/
def words (text : List Char) : List (List Char) :=
  (pieces isBlank text).filter (! ·.isEmpty)

def trimEnd (drop : Char → Bool) (text : List Char) : List Char :=
  (text.reverse.dropWhile drop).reverse

/-- Without the blanks at either end. -/
def trim (text : List Char) : List Char :=
  trimEnd isBlank (text.dropWhile isBlank)

/-- Parts with a separator between every two. -/
def joinWith (separator : List Char) : List (List Char) → List Char
  | [] => []
  | [part] => part
  | part :: others => part ++ separator ++ joinWith separator others

/-- The text after `start`, if it starts so. -/
def stripStart? : List Char → List Char → Option (List Char)
  | [], text => some text
  | _ :: _, [] => none
  | a :: start, c :: text => if a == c then stripStart? start text else none

/-- Whether `part` occurs in the text. -/
def contains (part : List Char) : List Char → Bool
  | [] => part.isEmpty
  | c :: rest => part.isPrefixOf (c :: rest) || contains part rest

/-- What is before the first line break; a carriage return there belongs to the break. -/
def firstLine (s : String) : String :=
  let line := s.toList.takeWhile (· != '\n')
  .ofList (if line.getLast? == some '\r' then line.dropLast else line)

/-- `trim` on strings. -/
def trimmed (s : String) : String :=
  .ofList (trim s.toList)

end FuseVolumes.Text
