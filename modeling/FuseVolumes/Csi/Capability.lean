import FuseVolumes.Dict

/-! What a storage plugin is asked for and what it offers. Kinds are numbered as in the
interface's protocol. -/

namespace FuseVolumes.Csi

/-- How a volume is to be accessed: as a device, or as a file system mounted with flags. -/
inductive Access
  | block
  | mount (fileSystem : String) (flags : List String)
  deriving DecidableEq, Repr

/-- A wanted way to use a volume; without an access type or a mode any will do. -/
structure Capability where
  access : Option Access
  mode : Option Int
  deriving DecidableEq, Repr

def blockRefusal : String := "FastCFS doesn't support block access type"

/-- One node that writes, or many. -/
def supportedModes : List Int := [1, 5]

/-- Why a capability is not supported. -/
inductive Unsupported
  | block
  | mode (number : Int)
  deriving DecidableEq, Repr

def Unsupported.message : Unsupported → String
  | .block => blockRefusal
  | .mode number => s!"Invalid volume access mode: {number}"

def Capability.check (c : Capability) : Except Unsupported Unit :=
  if c.access = some .block then .error .block
  else
    match c.mode with
    | none => .ok ()
    | some mode => if supportedModes.contains mode then .ok () else .error (.mode mode)

/-- The first capability that is not supported decides. -/
def checkAll : List Capability → Except Unsupported Unit
  | [] => .ok ()
  | c :: rest =>
    match c.check with
    | .error e => .error e
    | .ok () => checkAll rest

/-- What a plugin offers as a whole: a kind of service, or a kind of volume expansion. -/
inductive Offer
  | service (number : Int)
  | volumeExpansion (number : Int)
  deriving DecidableEq, Repr

/-- A controller, volumes bound to topologies, and expansion of volumes in use. -/
def pluginOffers : List Offer := [.service 1, .service 2, .volumeExpansion 1]

/-- Creating and deleting volumes, and expanding them. -/
def controllerOffers : List Int := [1, 9]

/-- Staging, figures, and the condition of volumes. -/
def nodeOffers : List Int := [1, 2, 4]

end FuseVolumes.Csi
