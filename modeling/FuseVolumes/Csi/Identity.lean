import FuseVolumes.Csi.Capability

/-! The identity of a plugin, and whether it is ready. Everyone who holds the identity sees
the same readiness. -/

namespace FuseVolumes.Csi

/-- The name a driver goes by unless told otherwise. -/
def defaultDriver : String := "fcfs.csi.vazmin.github.io"

def version : String := "1.0.0"

structure Identity where
  driver : String
  ready : Bool
  deriving DecidableEq, Repr

/-- A plugin is ready from the start. -/
def Identity.ofDriver (driver : String) : Identity := ⟨driver, true⟩

/-- What a plugin tells of itself. -/
structure PluginInfo where
  name : String
  version : String
  manifest : Dict
  deriving DecidableEq, Repr

def Identity.info (i : Identity) : PluginInfo := ⟨i.driver, version, []⟩

end FuseVolumes.Csi
