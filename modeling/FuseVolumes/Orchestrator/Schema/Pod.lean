import FuseVolumes.Orchestrator.Schema.Volume

/-! Shapes of pods: what they ask for, and what became of them. -/

namespace FuseVolumes.Orchestrator.Shape

/-! ## Where pods may run -/

def podAffinityTerm : Shape :=
  record [("labelSelector", labelSelector), ("namespaces", list text), ("topologyKey", text)]

def podAffinity : Shape :=
  record [("preferredDuringSchedulingIgnoredDuringExecution",
      list (record [("podAffinityTerm", podAffinityTerm), ("weight", int32)])),
    ("requiredDuringSchedulingIgnoredDuringExecution", list podAffinityTerm)]

def nodeAffinity : Shape :=
  record [("preferredDuringSchedulingIgnoredDuringExecution",
      list (record [("preference", nodeSelectorTerm), ("weight", int32)])),
    ("requiredDuringSchedulingIgnoredDuringExecution", nodeSelector)]

def affinity : Shape :=
  record [("nodeAffinity", nodeAffinity), ("podAffinity", podAffinity),
    ("podAntiAffinity", podAffinity)]

def toleration : Shape :=
  record (texts ["effect", "key", "operator", "value"] ++ [("tolerationSeconds", int64)])

def topologySpread : Shape :=
  record [("labelSelector", labelSelector), ("maxSkew", int32), ("topologyKey", text),
    ("whenUnsatisfiable", text)]

/-! ## Security -/

def seLinux : Shape := record (texts ["level", "role", "type", "user"])

def seccomp : Shape := record (texts ["localhostProfile", "type"])

def windows : Shape :=
  record (texts ["gmsaCredentialSpec", "gmsaCredentialSpecName", "runAsUserName"])

/-- Settings that a pod and its containers have in common. -/
def identitySettings : List (String × Shape) :=
  [("runAsGroup", int64), ("runAsNonRoot", flag), ("runAsUser", int64), ("seLinuxOptions", seLinux),
    ("seccompProfile", seccomp), ("windowsOptions", windows)]

def containerSecurity : Shape :=
  record (flags ["allowPrivilegeEscalation", "privileged", "readOnlyRootFilesystem"]
    ++ [("capabilities", record (each (list text) ["add", "drop"])), ("procMount", text)]
    ++ identitySettings)

/-- A name and its value. -/
def setting : Shape := record (texts ["name", "value"])

def podSecurity : Shape :=
  record ([("fsGroup", int64), ("fsGroupChangePolicy", text), ("supplementalGroups", list int64),
      ("sysctls", list setting)]
    ++ identitySettings)

/-! ## Containers -/

def httpGet : Shape :=
  record (texts ["host", "path", "scheme"] ++ [("httpHeaders", list setting), ("port", wholeOrText)])

/-- What can be done to a container. -/
def actions : List (String × Shape) :=
  [("exec", record [("command", list text)]), ("httpGet", httpGet),
    ("tcpSocket", record [("host", text), ("port", wholeOrText)])]

def probe : Shape :=
  record (actions ++ each int32 ["failureThreshold", "initialDelaySeconds", "periodSeconds",
    "successThreshold", "timeoutSeconds"])

def lifecycle : Shape := record (each (record actions) ["postStart", "preStop"])

def keySelector : Shape := record (texts ["key", "name"] ++ flags ["optional"])

def variableSource : Shape :=
  record [("configMapKeyRef", keySelector), ("fieldRef", fieldSelector),
    ("resourceFieldRef", resourceFieldSelector), ("secretKeyRef", keySelector)]

def environmentVariable : Shape :=
  record (texts ["name", "value"] ++ [("valueFrom", variableSource)])

def environmentSource : Shape :=
  record (("prefix", text)
    :: each (record [("name", text), ("optional", flag)]) ["configMapRef", "secretRef"])

def containerPort : Shape :=
  record (texts ["hostIP", "name", "protocol"] ++ each int32 ["containerPort", "hostPort"])

def volumeMount : Shape :=
  record (texts ["mountPath", "mountPropagation", "name", "subPath", "subPathExpr"]
    ++ flags ["readOnly"])

def containerFields : List (String × Shape) :=
  texts ["image", "imagePullPolicy", "name", "terminationMessagePath", "terminationMessagePolicy",
      "workingDir"]
    ++ flags ["stdin", "stdinOnce", "tty"]
    ++ each (list text) ["args", "command"]
    ++ each probe ["livenessProbe", "readinessProbe", "startupProbe"]
    ++ [("env", list environmentVariable), ("envFrom", list environmentSource),
      ("lifecycle", lifecycle), ("ports", list containerPort), ("resources", resourceRequirements),
      ("securityContext", containerSecurity),
      ("volumeDevices", list (record (texts ["devicePath", "name"]))),
      ("volumeMounts", list volumeMount)]

def container : Shape := record containerFields

def ephemeralContainer : Shape := record (("targetContainerName", text) :: containerFields)

/-! ## Pods -/

def nameResolution : Shape :=
  record [("nameservers", list text), ("options", list setting), ("searches", list text)]

def podSpec : Shape :=
  record (texts ["dnsPolicy", "hostname", "nodeName", "preemptionPolicy", "priorityClassName",
      "restartPolicy", "runtimeClassName", "schedulerName", "serviceAccount", "serviceAccountName",
      "subdomain"]
    ++ flags ["automountServiceAccountToken", "enableServiceLinks", "hostIPC", "hostNetwork",
      "hostPID", "setHostnameAsFQDN", "shareProcessNamespace"]
    ++ each int64 ["activeDeadlineSeconds", "terminationGracePeriodSeconds"]
    ++ each (list container) ["containers", "initContainers"]
    ++ [("affinity", affinity), ("dnsConfig", nameResolution),
      ("ephemeralContainers", list ephemeralContainer),
      ("hostAliases", list (record [("hostnames", list text), ("ip", text)])),
      ("imagePullSecrets", list localReference), ("nodeSelector", dict text),
      ("overhead", dict quantity), ("priority", int32),
      ("readinessGates", list (record (texts ["conditionType"]))), ("securityContext", podSecurity),
      ("tolerations", list toleration), ("topologySpreadConstraints", list topologySpread),
      ("volumes", list podVolume)])

def containerState : Shape :=
  record [("running", record [("startedAt", moment)]),
    ("terminated",
      record (texts ["containerID", "message", "reason"] ++ each int32 ["exitCode", "signal"]
        ++ each moment ["finishedAt", "startedAt"])),
    ("waiting", record (texts ["message", "reason"]))]

def containerStatus : Shape :=
  record (texts ["containerID", "image", "imageID", "name"] ++ flags ["ready", "started"]
    ++ each containerState ["lastState", "state"] ++ [("restartCount", int32)])

def podStatus : Shape :=
  record (texts ["hostIP", "message", "nominatedNodeName", "phase", "podIP", "qosClass", "reason"]
    ++ each (list containerStatus) ["containerStatuses", "ephemeralContainerStatuses",
      "initContainerStatuses"]
    ++ [("conditions", list (condition ["lastProbeTime", "lastTransitionTime"])),
      ("podIPs", list (record (texts ["ip"]))), ("startTime", moment)])

def pod : Shape := objectOf "v1" "Pod" [("spec", podSpec), ("status", podStatus)]

end FuseVolumes.Orchestrator.Shape
