/-! What a running program tells its log. -/

namespace FuseVolumes

inductive Level
  | trace
  | debug
  | info
  | warn
  | error
  deriving DecidableEq, Repr

namespace Level

/-- From the most to the least detail. -/
def rank : Level → Nat
  | .trace => 0
  | .debug => 1
  | .info => 2
  | .warn => 3
  | .error => 4

def text : Level → String
  | .trace => "TRACE"
  | .debug => "DEBUG"
  | .info => "INFO"
  | .warn => "WARN"
  | .error => "ERROR"

end Level

/-- The part of a program that speaks. -/
inductive Source
  | logging
  | shutdown
  | transport
  | clusters
  | secrets
  | mounts
  | mountPoint
  | pool
  | fuse
  | proxy
  | recovery
  | controllerProgram
  | controllerServer
  | controller
  | nodeProgram
  | nodeStart
  | node
  | proxyProgram
  deriving DecidableEq, Repr

/-- The name under which log filters know a part. -/
def Source.target : Source → String
  | .logging => "csi_driver::logging"
  | .shutdown => "csi_driver::shutdown"
  | .transport => "csi_driver::transport"
  | .clusters => "csi_driver::cluster"
  | .secrets => "csi_driver::secret"
  | .mounts => "csi_driver::mount::linux"
  | .mountPoint => "csi_driver::mount_point"
  | .pool => "csi_driver::engine::pool"
  | .fuse => "csi_driver::engine::fused"
  | .proxy => "csi_driver::engine::proxy"
  | .recovery => "csi_driver::recovery"
  | .controllerProgram => "csi_controller"
  | .controllerServer => "csi_controller::server"
  | .controller => "csi_controller::controller"
  | .nodeProgram => "csi_node"
  | .nodeStart => "csi_node::main_"
  | .node => "csi_node::node"
  | .proxyProgram => "fcfsfused_proxy"

/-- Work that events happen during, with named values of which some are told later. -/
structure Span where
  source : Source
  name : String
  fields : List (String × Option String)
  deriving DecidableEq, Repr

/-- Work on a volume. -/
def Span.onVolume (source : Source) (name id : String) : Span :=
  ⟨source, name, [("volume.id", some id)]⟩

/-- A message with named values beside it, and the work it belongs to. -/
structure Event where
  source : Source
  level : Level
  message : String
  fields : List (String × String)
  span : Option Span
  deriving DecidableEq, Repr

namespace Event

def info (source : Source) (message : String) : Event := ⟨source, .info, message, [], none⟩
def warn (source : Source) (message : String) : Event := ⟨source, .warn, message, [], none⟩
def error (source : Source) (message : String) : Event := ⟨source, .error, message, [], none⟩

/-- With further named values. -/
def beside (event : Event) (fields : List (String × String)) : Event :=
  { event with fields := event.fields ++ fields }

/-- As an event of some work. -/
def during (event : Event) (span : Span) : Event := { event with span := some span }

end Event

end FuseVolumes
