import FuseVolumes.Text.Bytes

/-! Volume handles. A handle packs the cluster, the user who created the volume and the pool
volume's name into one text, `<len>-<cluster>-<len>-<owner>-<len>-<volume>`, where each
`<len>` is the number of bytes of the field after it as four hexadecimal digits. As lengths
are explicit, a field may hold anything, separators included. -/

namespace FuseVolumes

/-- The decoded form of a handle. -/
structure Handle where
  cluster : String
  owner : String
  volume : String
  deriving DecidableEq, Repr

namespace Handle

/-- The longest handle an orchestrator is bound to accept, in bytes. -/
def maxLength : Nat := 128

/-- Three lengths of four digits and the five separators between six parts. -/
def overhead : Nat := 17

/-- Why a text is no handle, and where it stops being one. -/
inductive DecodeError
  | truncated (offset : Nat)
  | invalidLength (offset : Nat)
  | missingSeparator (offset : Nat)
  | trailingData (offset : Nat)
  deriving DecidableEq, Repr

/-- A handle that would be too long to write. -/
structure TooLong where
  length : Nat
  deriving DecidableEq, Repr

def DecodeError.offset : DecodeError → Nat
  | .truncated n | .invalidLength n | .missingSeparator n | .trailingData n => n

def DecodeError.message (id : String) : DecodeError → String
  | .truncated n => s!"Volume id '{id}' is truncated at offset {n}"
  | .invalidLength n => s!"Volume id '{id}' has an invalid length prefix at offset {n}"
  | .missingSeparator n => s!"Volume id '{id}' is missing a separator at offset {n}"
  | .trailingData n => s!"Volume id '{id}' has unexpected data from offset {n}"

def TooLong.message (e : TooLong) : String :=
  s!"Volume id encoding length {e.length} overflows the maximum of {maxLength}"

/-- Readable form, not meant to be read back. -/
def display (h : Handle) : String := h.cluster ++ "/" ++ h.owner ++ "/" ++ h.volume

/-! ## Writing -/

def encodedLength (h : Handle) : Nat :=
  overhead + Text.byteLength h.cluster.toList + Text.byteLength h.owner.toList
    + Text.byteLength h.volume.toList

/-- A field behind its length. -/
def writeField (field : List Char) : List Char :=
  Text.hexWord (Text.byteLength field) ++ '-' :: field

def write (h : Handle) : List Char :=
  writeField h.cluster.toList ++ '-' :: (writeField h.owner.toList
    ++ '-' :: writeField h.volume.toList)

/-- The handle as one text, if it is short enough. -/
def encode (h : Handle) : Except TooLong String :=
  if h.encodedLength ≤ maxLength then .ok (.ofList h.write)
  else .error ⟨h.encodedLength⟩

/-! ## Reading -/

/-- What is left to read, and how many bytes were read before it. -/
structure Cursor where
  offset : Nat
  rest : List Char
  deriving Repr

namespace Cursor

def take (c : Cursor) (n : Nat) : Except DecodeError (List Char × Cursor) :=
  match Text.takeBytes n c.rest with
  | some (front, rest) => .ok (front, ⟨c.offset + n, rest⟩)
  | none => .error (.truncated c.offset)

/-- Anything but a separator is a missing one, the end of the text included. -/
def separator (c : Cursor) : Except DecodeError Cursor :=
  match c.rest with
  | '-' :: rest => .ok ⟨c.offset + 1, rest⟩
  | _ => .error (.missingSeparator c.offset)

def lengthDigits (c : Cursor) : Except DecodeError (Nat × Cursor) := do
  let (digits, next) ← c.take 4
  match Text.hexNumber? digits with
  | some n => .ok (n, next)
  | none => .error (.invalidLength c.offset)

def field (c : Cursor) : Except DecodeError (List Char × Cursor) := do
  let (n, c) ← c.lengthDigits
  let c ← c.separator
  c.take n

end Cursor

/-- Reads a handle. Any deviation from the layout is an error, data after the last field
included. -/
def decode (id : String) : Except DecodeError Handle := do
  let (cluster, c) ← Cursor.field ⟨0, id.toList⟩
  let c ← c.separator
  let (owner, c) ← c.field
  let c ← c.separator
  let (volume, c) ← c.field
  if c.rest.isEmpty then
    .ok ⟨.ofList cluster, .ofList owner, .ofList volume⟩
  else .error (.trailingData c.offset)

end Handle

end FuseVolumes
