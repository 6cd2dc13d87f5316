import FuseVolumes.Clusters
import FuseVolumes.CommandLine.Parser
import FuseVolumes.Csi.Identity
import FuseVolumes.Logging.Style
import FuseVolumes.Recovery.Kubelet

/-! The options of the three programs: the controller, the node plugin, and the proxy that runs
fuse daemons for it. -/

namespace FuseVolumes.CommandLine

def controllerSocket : String := "unix:///var/tmp/csi.sock"
def nodeSocket : String := "unix:///csi/csi.sock"
def proxySocket : String := "unix:///tmp/fcfsfused-proxy.sock"

/-! ## Shared options -/

def driverName : Spec := .value "driver-name" "driver-name" (some "DRIVER_NAME") (some Csi.defaultDriver)

def clusterConfig : Spec :=
  .value "cluster-config" "cluster-config" (some "CLUSTER_CONFIG") (some Clusters.defaultFile)

def logFormat : Spec :=
  { Spec.value "log-format" "log-format" (some "LOG_FORMAT") (some LogStyle.pretty.text) with
    choices := LogStyle.all.map LogStyle.text }

def verbose : Spec := ⟨"verbose", some 'v', none, none, .count, none, [], false, false⟩

def socket (default : String) : Spec :=
  { Spec.value "csi-socket" "csi-socket" (some "CSI_ENDPOINT") (some default) with short := some 'c' }

/-! ## Programs -/

def controller : List Spec :=
  [socket controllerSocket, driverName, clusterConfig,
    { Spec.value "timeout" "io-timeout" (some "IO_TIMEOUT") (some "60s") with short := some 't' },
    logFormat, verbose]

def node : List Spec :=
  [socket nodeSocket,
    { Spec.value "node-name" "node-name" (some "KUBE_NODE_NAME") none with
      short := some 'n', required := true },
    driverName, clusterConfig,
    .value "domain-labels" "domain-labels" (some "DOMAIN_LABELS") none,
    { Spec.value "max-volumes-per-node" "max-volumes-per-node" none (some "0") with
      dashedValues := true },
    .value "kubelet-dir" "kubelet-dir" (some "KUBELET_DIR") (some Recovery.Kubelet.defaultRoot),
    .switch "enable-fcfsfused-proxy",
    .value "fcfsfused-proxy-endpoint" "fcfsfused-proxy-endpoint" none (some proxySocket),
    .value "fcfsfused-proxy-conn-timeout" "fcfsfused-proxy-conn-timeout" none (some "5"),
    .switch "skip-recovery", logFormat, verbose]

def proxy : List Spec :=
  [{ Spec.value "endpoint" "fcfsfused-proxy-endpoint" (some "FCFSFUSED_PROXY_ENDPOINT")
      (some proxySocket) with short := some 'e' },
    logFormat, verbose]

end FuseVolumes.CommandLine
