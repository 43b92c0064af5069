import VolumeAttacher.Object.Shape

/-!
# The parts of a node

What the specification and the status of a node say, none of which attaching looks at.
-/

namespace VolumeAttacher.NodeParts

open Shape (text flag int32 int64 time list table record each texts)

def settingsSource : Shape :=
  record []
    [("configMap",
      record (texts ["kubeletConfigKey", "name", "namespace"])
        (texts ["resourceVersion", "uid"]))]

def taint : Shape :=
  record (texts ["effect", "key"]) (("timeAdded", time) :: texts ["value"])

def specification : Shape :=
  record []
    ([("configSource", settingsSource), ("podCIDRs", list text), ("taints", list taint),
        ("unschedulable", flag)]
      ++ texts ["externalID", "podCIDR", "providerID"])

def condition : Shape :=
  record (texts ["status", "type"])
    (each ["lastHeartbeatTime", "lastTransitionTime"] time ++ texts ["message", "reason"])

def settings : Shape :=
  record [] (("error", text) :: each ["active", "assigned", "lastKnownGood"] settingsSource)

def system : Shape :=
  record
    (texts ["architecture", "bootID", "containerRuntimeVersion", "kernelVersion",
      "kubeProxyVersion", "kubeletVersion", "machineID", "operatingSystem", "osImage",
      "systemUUID"])
    []

def runtimeHandler : Shape :=
  let features := record [] (each ["recursiveReadOnlyMounts", "userNamespaces"] flag)
  record [] [("features", features), ("name", text)]

def status : Shape :=
  record []
    [("addresses", list (record (texts ["address", "type"]) [])),
      ("allocatable", table text), ("capacity", table text),
      ("conditions", list condition), ("config", settings),
      ("daemonEndpoints", record [] [("kubeletEndpoint", record [("Port", int32)] [])]),
      ("features", record [] [("supplementalGroupsPolicy", flag)]),
      ("images", list (record [] [("names", list text), ("sizeBytes", int64)])),
      ("nodeInfo", system), ("phase", text), ("runtimeHandlers", list runtimeHandler),
      ("volumesAttached", list (record (texts ["devicePath", "name"]) [])),
      ("volumesInUse", list text)]

end VolumeAttacher.NodeParts
