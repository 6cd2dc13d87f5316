import FuseVolumes.Node.Machine
import FuseVolumes.Orchestrator.Store
import FuseVolumes.Recovery.Task

/-! A recovery pass: all volumes are planned, then each is recovered by a task of its own, and
the outcomes are counted. -/

namespace FuseVolumes.Recovery

/-- How many volumes were recovered, failed, or were skipped. -/
structure Report where
  recovered : Nat
  failed : Nat
  skipped : Nat
  deriving DecidableEq, Repr

def Report.count (outcomes : List Outcome) : Report :=
  ⟨outcomes.count .recovered, outcomes.count .failed, outcomes.count .skipped⟩

/-- The task that is left for a prepared volume. -/
def Prepared.task (root : String) : Prepared → Program Node.interface Outcome
  | .counted outcome => return outcome
  | .planned plan => recover root plan

/-- Runs the tasks one after the other. -/
def runTasks (root : String) : List Prepared → Program Node.interface (List Outcome)
  | [] => return []
  | prepared :: rest => do
    let outcome ← prepared.task root
    return outcome :: (← runTasks root rest)

/-- A pass over a store of objects and a node that answers by a handler. -/
def pass (handler : Program.Handler Node.interface Node.Machine) (scope : Scope)
    (session : Orchestrator.Session) (m : Node.Machine) :
    Except Error Report × Orchestrator.Session × Node.Machine :=
  match session.run (prepare scope) with
  | (.error e, session) => (.error e, session, m)
  | (.ok prepared, session) =>
    let (outcomes, m) := (runTasks scope.root prepared).run handler m
    (.ok (.count outcomes), session, m)

end FuseVolumes.Recovery
