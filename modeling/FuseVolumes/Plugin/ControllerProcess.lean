import FuseVolumes.Host.Socket
import FuseVolumes.Plugin.Server

/-! The process of a controller. Its settings are made once, before it serves, and stay. -/

namespace FuseVolumes.Plugin

open CommandLine (Matches)
open Node (Machine)

/-- A step out of order, or settings that no process can have. It ends the process. -/
inductive Misuse
  | alreadyConfigured
  | notConfigured
  | timeoutTooLong
  | timeoutUnrepresentable
  deriving DecidableEq, Repr

def Misuse.message : Misuse → String
  | .alreadyConfigured => "CSI Controller config already initialized"
  | .notConfigured => "CSI Controller config is not initialized"
  | .timeoutTooLong => "overflow when adding durations"
  | .timeoutUnrepresentable => "overflow in Duration::new"

/-- Why a process has no settings. -/
inductive ConfigureError
  | misuse (misuse : Misuse)
  | settings (cause : SettingsError)
  deriving DecidableEq, Repr

/-- A time that cannot be told ends the process; other faults are told. -/
def ConfigureError.ofSettings : SettingsError → ConfigureError
  | .duration .unrepresentable => .misuse .timeoutUnrepresentable
  | cause => .settings cause

/-- Why a process does not serve. -/
inductive ServeError
  | misuse (misuse : Misuse)
  | listen (cause : Host.ListenError)
  deriving DecidableEq, Repr

structure ControllerProcess where
  settings : Option ControllerSettings
  machine : Machine
  deriving Repr

namespace ControllerProcess

def start (machine : Machine) : ControllerProcess := ⟨none, machine⟩

def scene (p : ControllerProcess) : Host.Scene := p.machine.bench.scene

def withScene (p : ControllerProcess) (scene : Host.Scene) : ControllerProcess :=
  { p with machine := { p.machine with bench := { p.machine.bench with scene } } }

def log (p : ControllerProcess) (event : Event) : ControllerProcess := p.withScene (p.scene.log event)

/-- Makes the settings. Settings that were refused may be made again. -/
def configure (p : ControllerProcess) (m : Matches) :
    Except ConfigureError ControllerSettings × ControllerProcess :=
  match p.settings with
  | some _ => (.error (.misuse .alreadyConfigured), p)
  | none =>
    match (ControllerSettings.load m).run p.scene with
    | (.error e, scene) => (.error (.ofSettings e), p.withScene scene)
    | (.ok settings, scene) => (.ok settings, { p.withScene scene with settings })

def current (p : ControllerProcess) : Except Misuse ControllerSettings :=
  match p.settings with
  | some settings => .ok settings
  | none => .error .notConfigured

/-- A request may take as long as its commands and these seconds. -/
def grace : Nat := 3

/-- Whether the time for a request can be told. -/
def hasTime (settings : ControllerSettings) : Bool :=
  settings.timeout.seconds + grace < Text.Duration.limit

/-- Listens, and only then looks at the settings. -/
def serve (p : ControllerProcess) (endpoint : String) : Except ServeError Server × ControllerProcess :=
  match p.scene.listen endpoint with
  | (.error e, scene) => (.error (.listen e), p.withScene scene)
  | (.ok (), scene) =>
    let p := p.withScene scene
    match p.current with
    | .error misuse => (.error (.misuse misuse), p)
    | .ok settings =>
      let p := p.log <| .info .controllerServer
        (s!"CSI controller {settings.driver} serving {settings.clusters.size} FastCFS cluster(s) on "
          ++ endpoint)
      if hasTime settings then (.ok (.controller settings.driver settings.clusters), p)
      else (.error (.misuse .timeoutTooLong), p)

end ControllerProcess

end FuseVolumes.Plugin
