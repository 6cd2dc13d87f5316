import FuseVolumes.Text.Bytes
import FuseVolumes.Text.Unprintable

/-! Text in double quotes, for messages that must show where a value starts and ends. -/

namespace FuseVolumes.Text

def escape (c : Char) : List Char :=
  if c == '"' then ['\\', '"']
  else if c == '\\' then ['\\', '\\']
  else if c == '\n' then ['\\', 'n']
  else if c == '\r' then ['\\', 'r']
  else if c == '\t' then ['\\', 't']
  else if c.toNat == 0 then ['\\', '0']
  else if isUnprintable c then ['\\', 'u', '\x7b'] ++ hexShort c.toNat ++ ['\x7d']
  else [c]

/-- A text in quotes, with quotes, backslashes and unprintable characters escaped. -/
def quoted (s : String) : String :=
  .ofList (['"'] ++ s.toList.flatMap escape ++ ['"'])

/-- Texts in quotes, in brackets. -/
def quotedList (items : List String) : String :=
  "[" ++ ", ".intercalate (items.map quoted) ++ "]"

end FuseVolumes.Text
