import FuseVolumes.Plugin.Run

/-! A rehearsal of a program's start. The first argument names the program and the others are
its own; it is started on a host that has the list of clusters of this one, and its log, its
error and its exit code are reported. -/

namespace FuseVolumes

/-- What the programs take from the environment. -/
def environmentNames : List String :=
  logVariable :: (Plugin.Binary.all.flatMap fun b => b.options.filterMap (·.envName))

def readEnvironment : List String → IO Dict
  | [] => return []
  | name :: rest => do
    let found ← readEnvironment rest
    match ← IO.getEnv name with
    | some value => return found.insert name value
    | none => return found

/-- The host of a rehearsal, with one file of this host if it can be read. -/
def rehearsalHost (path : Option String) : IO Host.Tree := do
  match path with
  | none => return .base
  | some path =>
    try
      let text ← IO.FS.readFile path
      let parent := (Path.parent? path).getD ""
      return (Host.Tree.base.makeDirectories parent).2.writeFile path text
    catch _ => return .base

/-- The file with the list of clusters, if the command line is good. -/
def clusterFile? (b : Plugin.Binary) (i : Plugin.Invocation) : Option String :=
  match CommandLine.parse b.options i.arguments i.environment with
  | .ok found => found.value? "cluster-config"
  | .error _ => none

def report (run : Plugin.Run) : IO UInt32 := do
  for event in run.told do
    IO.println s!"{event.level.text} {event.message}"
  match run.error? with
  | some message => IO.eprintln s!"Error: {message}"
  | none => pure ()
  return run.exitCode.toNat.toUInt32

def rehearse (b : Plugin.Binary) (arguments : List String) : IO UInt32 := do
  let invocation : Plugin.Invocation := ⟨arguments, ← readEnvironment environmentNames, false, none⟩
  let tree ← rehearsalHost (clusterFile? b invocation)
  let machine : Node.Machine := .ofBench { Engine.Bench.start with scene := ⟨tree, []⟩ }
  report (Plugin.Run.of b invocation machine)

/-- Rehearses the program that the first argument names. -/
def dispatch (arguments : List String) : IO UInt32 := do
  match arguments with
  | name :: rest =>
    match Plugin.Binary.ofName? name with
    | some b => rehearse b rest
    | none =>
      IO.eprintln s!"unknown program {name}"
      return 2
  | [] =>
    IO.eprintln ("usage: " ++ " | ".intercalate (Plugin.Binary.all.map (·.name)) ++ " [OPTIONS]")
    return 2

end FuseVolumes

def main (arguments : List String) : IO UInt32 := FuseVolumes.dispatch arguments
