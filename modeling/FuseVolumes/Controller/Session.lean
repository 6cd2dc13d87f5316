import FuseVolumes.Controller.Service
import FuseVolumes.Engine.Bench

/-! A run of a controller in which requests may overlap: a request can be halted before its
n-th command and finished later. Every request has the replies of its own commands. -/

namespace FuseVolumes.Controller

open Engine (Bench)

/-- The rest of a request, and the replies left for it. -/
structure Halted where
  rest : Program Engine.interface (Except Status Answer)
  replies : List Engine.Reply

structure Session where
  clusters : Clusters
  bench : Bench
  halted : List (String × Halted)

/-- What a step shows: the answer unless the request was halted, and the commands. -/
structure Progress where
  answer : Option (Except Status Answer)
  commands : List Engine.Command

namespace Session

def handler : Program.Handler Engine.interface Bench := Bench.handle Bench.recorded Bench.strangers

def start (clusters : Clusters) : Session := ⟨clusters, .start, []⟩

/-- Whether the next request to the surroundings is the command after the first `n`. -/
def isCommand (n : Nat) (call : Engine.Call) (b : Bench) : Bool :=
  match call with
  | .run _ _ => b.commands.length == n
  | _ => false

/-- Runs a request to its end. -/
def request (s : Session) (r : Request) (replies : List Engine.Reply) : Progress × Session :=
  let (answer, bench) := (r.answer s.clusters).run.run handler (s.bench.prepare replies)
  (⟨some answer, bench.commands⟩, { s with bench })

/-- Runs a request up to its n-th command, if it has so many. -/
def requestUntil (s : Session) (r : Request) (replies : List Engine.Reply) (n : Nat)
    (tag : String) : Progress × Session :=
  match (r.answer s.clusters).run.runUntil handler (isCommand n) (s.bench.prepare replies) with
  | (.done answer, bench) => (⟨some answer, bench.commands⟩, { s with bench })
  | (.ask call next, bench) =>
    let command := match call with
      | .run program arguments => [bench.record program arguments]
      | _ => []
    (⟨none, bench.commands ++ command⟩,
      { s with bench, halted := (tag, ⟨.ask call next, bench.replies⟩) :: s.halted })

/-- Finishes a halted request, and shows the commands after the one it was halted before. -/
def resume (s : Session) (tag : String) : Option (Progress × Session) :=
  (s.halted.lookup tag).map fun h =>
    let (answer, bench) := h.rest.run handler (s.bench.prepare h.replies)
    (⟨some answer, bench.commands.drop 1⟩,
      { s with bench, halted := s.halted.filter (·.1 != tag) })

end Session

end FuseVolumes.Controller
