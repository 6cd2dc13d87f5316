import FuseVolumes.Text.Percent
import FuseVolumes.Text.Utf8

/-! The outcome of a refused or failed call, and what becomes of it on the way to a caller in
another process. -/

namespace FuseVolumes

/-- Codes a call can be answered with. -/
inductive Code
  | unknown
  | invalidArgument
  | notFound
  | failedPrecondition
  | aborted
  | unimplemented
  | internal
  | unavailable
  deriving DecidableEq, Repr

/-- A code and the words that go with it. -/
structure Status where
  code : Code
  message : String
  deriving DecidableEq, Repr

namespace Status

/-- The status of a call for something that is not served. -/
def unserved : Status := ⟨.unimplemented, ""⟩

/-- What a caller reads. Its side takes the words for percent-coded text; words that are no text
then, it cannot tell, nor can it trust the code. -/
def delivered (s : Status) : Status :=
  match Text.strict (Text.percentDecoded (Text.octets s.message.toList)) with
  | .ok message => { s with message }
  | .error garbled =>
    ⟨.unknown, "Error deserializing status message header: " ++ garbled.message⟩

end Status

end FuseVolumes
