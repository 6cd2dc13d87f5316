import FuseVolumes.Orchestrator.Schema

/-! Shapes that several kinds of objects share. -/

namespace FuseVolumes.Orchestrator.Shape

def ownerReference : Shape :=
  record (texts ["apiVersion", "kind", "name", "uid"] ++ flags ["blockOwnerDeletion", "controller"])

def managedFields : Shape :=
  record (texts ["apiVersion", "fieldsType", "manager", "operation"]
    ++ [("fieldsV1", anything), ("time", moment)])

def objectMeta : Shape :=
  record (texts ["clusterName", "generateName", "name", "namespace", "resourceVersion", "selfLink",
      "uid"]
    ++ each (dict text) ["annotations", "labels"]
    ++ each moment ["creationTimestamp", "deletionTimestamp"]
    ++ each int64 ["deletionGracePeriodSeconds", "generation"]
    ++ [("finalizers", list text), ("managedFields", list managedFields),
      ("ownerReferences", list ownerReference)])

/-! ## References -/

def objectReference : Shape :=
  record (texts ["apiVersion", "fieldPath", "kind", "name", "namespace", "resourceVersion", "uid"])

def localReference : Shape := record (texts ["name"])

def secretReference : Shape := record (texts ["name", "namespace"])

def typedReference : Shape := record (texts ["apiGroup", "kind", "name"])

/-! ## Selectors -/

/-- A key, an operator and the values it works on. -/
def requirement : Shape := record (texts ["key", "operator"] ++ [("values", list text)])

def labelSelector : Shape :=
  record [("matchExpressions", list requirement), ("matchLabels", dict text)]

def nodeSelectorTerm : Shape :=
  record (each (list requirement) ["matchExpressions", "matchFields"])

def nodeSelector : Shape := record [("nodeSelectorTerms", list nodeSelectorTerm)]

/-! ## Resources -/

def resourceRequirements : Shape := record (each (dict quantity) ["limits", "requests"])

def claimSpec : Shape :=
  record (texts ["storageClassName", "volumeMode", "volumeName"]
    ++ [("accessModes", list text), ("dataSource", typedReference),
      ("resources", resourceRequirements), ("selector", labelSelector)])

/-! ## Conditions -/

/-- A condition with the given moments. -/
def condition (moments : List String) : Shape :=
  record (texts ["message", "reason", "status", "type"] ++ each moment moments)

/-! ## Kinds -/

/-- An object of a kind, which is named in it or left out. -/
def objectOf (version kind : String) (fields : List (String × Shape)) : Shape :=
  record ([("apiVersion", constant version), ("kind", constant kind), ("metadata", objectMeta)]
    ++ fields)

end FuseVolumes.Orchestrator.Shape
