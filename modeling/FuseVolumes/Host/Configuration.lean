import FuseVolumes.Clusters
import FuseVolumes.Event
import FuseVolumes.Host.Tree

/-! The list of storage clusters, as a file of a host. -/

namespace FuseVolumes.Host

/-- Reads the list of clusters. A host without the file has none. -/
def Tree.loadClusters (t : Tree) (path : String) : Except Clusters.Error Clusters × List Event :=
  match t.readText path with
  | .ok text => (Clusters.ofJson text, [])
  | .error fault =>
    if fault = .notFound then
      (.ok .empty, [(Event.warn .clusters "Cluster config not found").beside [("path", path)]])
    else (.error (.read path fault), [])

end FuseVolumes.Host
