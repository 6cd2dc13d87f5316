import FuseVolumes.Text.Bytes
import FuseVolumes.Text.Pattern

/-! Names of orchestrator objects: labels of a domain name, and domain names made of them. -/

namespace FuseVolumes.Secret

open Text (Pattern)

def isAlphanumeric (c : Char) : Bool := ('a' ≤ c && c ≤ 'z') || ('0' ≤ c && c ≤ '9')

/-- `[a-z0-9]([-a-z0-9]*[a-z0-9])?` -/
def labelPattern : Pattern :=
  .both (.one isAlphanumeric)
    (.optional (.both (.many (.one fun c => c == '-' || isAlphanumeric c))
      (.one isAlphanumeric)))

/-- Labels with a dot between every two. -/
def domainPattern : Pattern :=
  .both labelPattern (.many (.both (.one (· == '.')) labelPattern))

/-- The name of a namespace. -/
def isLabel (name : String) : Bool :=
  Text.byteLength name.toList ≤ 63 && labelPattern.accepts name.toList

/-- The name of a secret. -/
def isDomain (name : String) : Bool :=
  Text.byteLength name.toList ≤ 253 && domainPattern.accepts name.toList

end FuseVolumes.Secret
