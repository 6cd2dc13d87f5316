import FuseVolumes.Orchestrator.Store

/-! A host without a network. What runs elsewhere can be named but not reached. -/

namespace FuseVolumes

/-- The orchestrator of another host, as it is seen from here. -/
def Orchestrator.Session.overNetwork (session : Orchestrator.Session) : Orchestrator.Session :=
  { session with store := .unreachable }

end FuseVolumes
