import FuseVolumes.Engine.Command
import FuseVolumes.Path
import FuseVolumes.Volume

/-! Mounting a volume through a fuse daemon: started directly, or by a proxy that outlives
the plugin and gets the arguments of the daemon as one line. -/

namespace FuseVolumes.Engine.Fuse

/-- The arguments that name the volume, the mount point and the client configuration. -/
def mountArguments (v : Volume) (target : String) : List String :=
  ["-n", v.name, "-m", target, v.fuseUrl, Operation.restart.text]

/-- The directory of a volume's daemon. -/
def daemonDirectory (base : String) (v : Volume) : String := Path.join base v.name

/-! ## Directly -/

/-- All arguments of a daemon that the plugin starts itself. -/
def directArguments (base : String) (v : Volume) (target : String) (c : Credentials) :
    List String :=
  c.arguments ++ ["-b", daemonDirectory base v] ++ mountArguments v target

/-- Prepares both directories and starts the daemon. -/
def mountDirectly (base : String) (v : Volume) (target : String) (secrets : Dict) :
    Work Error Unit := do
  makeDirectories target
  makeDirectories (daemonDirectory base v)
  withCredentials (.forVolume v.preProvisioned) secrets .credentials fun c => do
    let output ← runTool fuseTool (directArguments base v target c)
    if ! output.success then
      log <| (Event.warn .fuse ("[FastCFS] failed to mount, output <= " ++ output.trimmed)).beside
        [("volume.id", v.id)]
      throw (.failed .restart v.name output)

/-! ## Through the proxy -/

/-- The request that stands for a mount. -/
def request (base : String) (v : Volume) (target : String) (secrets : Dict) : MountRequest where
  basePath := daemonDirectory base v
  mountArguments := " ".intercalate (mountArguments v target)
  secrets := secrets
  preProvisioned := v.preProvisioned

/-- Prepares the mount point and forwards the rest. -/
def mountThroughProxy (endpoint base : String) (v : Volume) (target : String) (secrets : Dict) :
    Work Error Unit := do
  makeDirectories target
  discard <| (Program.request (I := interface)
    (.forward endpoint (request base v target secrets))).orFail fun
      | .unreachable => .proxyUnreachable endpoint
      | .refused status => .proxyRefused status

/-- All arguments of a daemon that the proxy starts. -/
def proxyArguments (r : MountRequest) (c : Credentials) : List String :=
  c.arguments ++ (if r.basePath.isEmpty then [] else ["-b", r.basePath])
    ++ (Text.words r.mountArguments.toList).map String.ofList

def failedStatus (output : Output) : Status :=
  ⟨.internal, s!"fcfs_fused mount failed with exit code {output.exitText}: {output.trimmed}"⟩

/-- The proxy's side: answers with what the tool printed. -/
def serve (r : MountRequest) : Work Status String := do
  log <| (Event.info .proxy "Received mount request").beside [("mount_args", r.mountArguments)]
  ExceptT.mk do
    match ← (openCredentials (.forVolume r.preProvisioned) r.secrets
        Credentials.keyDirectory).run with
    | .error e =>
      log <| (Event.error .proxy "Failed to retrieve mount credentials").beside [("error", e.message)]
      return .error e.status
    | .ok c =>
      let result ← (mount c).run
      closeCredentials c
      return result
where
  mount (c : Credentials) : Work Status String := do
    if ! r.basePath.isEmpty then
      ((makeDirectories r.basePath).run).orFail Error.status
    let output ← ((runTool fuseTool (proxyArguments r c)).run).orFail Error.status
    if ! output.success then throw (failedStatus output)
    log (.info .proxy "Successfully mounted")
    return output.text

end FuseVolumes.Engine.Fuse
