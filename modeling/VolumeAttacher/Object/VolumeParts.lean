import VolumeAttacher.Object.Shape

/-!
# The other parts of a volume

What a volume's specification and status may say beyond what attaching looks at: the sources of
volumes that no CSI driver provides, the claim that a volume is bound to, the nodes it can be used
on.
-/

namespace VolumeAttacher.VolumeParts

open Shape (text flag int32 int64 time list table record each texts)

def secretReference : Shape :=
  record [] (texts ["name", "namespace"])

def objectReference : Shape :=
  record [] (texts
    ["apiVersion", "fieldPath", "kind", "name", "namespace", "resourceVersion", "uid"])

def nodeRequirement : Shape :=
  record (texts ["key", "operator"]) [("values", list text)]

def nodeAffinity : Shape :=
  let term := record [] (each ["matchExpressions", "matchFields"] (list nodeRequirement))
  record [] [("required", record [("nodeSelectorTerms", list term)] [])]

def fileSystem : List (String × Shape) :=
  texts ["fsType"]

/-- Whether a volume is read-only, which any source may say. -/
def readOnly : List (String × Shape) :=
  [("readOnly", flag)]

/-- The sources of volumes that are disks of a cloud or of a host. -/
def disks : List (String × Shape) :=
  [("awsElasticBlockStore",
      record (texts ["volumeID"]) (("partition", int32) :: fileSystem ++ readOnly)),
    ("azureDisk",
      record (texts ["diskName", "diskURI"])
        (texts ["cachingMode", "kind"] ++ fileSystem ++ readOnly)),
    ("cinder",
      record (texts ["volumeID"]) (("secretRef", secretReference) :: fileSystem ++ readOnly)),
    ("fc",
      record [] (("lun", int32) :: each ["targetWWNs", "wwids"] (list text)
        ++ fileSystem ++ readOnly)),
    ("flexVolume",
      record (texts ["driver"]) (("options", table text) :: ("secretRef", secretReference)
        :: fileSystem ++ readOnly)),
    ("flocker", record [] (texts ["datasetName", "datasetUUID"])),
    ("gcePersistentDisk",
      record (texts ["pdName"]) (("partition", int32) :: fileSystem ++ readOnly)),
    ("iscsi",
      record (("lun", int32) :: texts ["iqn", "targetPortal"])
        (each ["chapAuthDiscovery", "chapAuthSession"] flag
          ++ texts ["initiatorName", "iscsiInterface"]
          ++ ("portals", list text) :: ("secretRef", secretReference) :: fileSystem ++ readOnly)),
    ("local", record (texts ["path"]) fileSystem),
    ("photonPersistentDisk", record (texts ["pdID"]) fileSystem),
    ("portworxVolume", record (texts ["volumeID"]) (fileSystem ++ readOnly)),
    ("rbd",
      record (("monitors", list text) :: texts ["image"])
        (("secretRef", secretReference) :: texts ["keyring", "pool", "user"]
          ++ fileSystem ++ readOnly)),
    ("scaleIO",
      record (("secretRef", secretReference) :: texts ["gateway", "system"])
        (("sslEnabled", flag)
          :: texts ["protectionDomain", "storageMode", "storagePool", "volumeName"]
          ++ fileSystem ++ readOnly)),
    ("storageos",
      record [] (("secretRef", objectReference) :: texts ["volumeName", "volumeNamespace"]
        ++ fileSystem ++ readOnly)),
    ("vsphereVolume",
      record (texts ["volumePath"]) (texts ["storagePolicyID", "storagePolicyName"] ++ fileSystem))]

def shares : List (String × Shape) :=
  [("azureFile",
      record (texts ["secretName", "shareName"]) (texts ["secretNamespace"] ++ readOnly)),
    ("cephfs",
      record [("monitors", list text)]
        (("secretRef", secretReference) :: texts ["path", "secretFile", "user"] ++ readOnly)),
    ("glusterfs",
      record (texts ["endpoints", "path"]) (texts ["endpointsNamespace"] ++ readOnly)),
    ("nfs", record (texts ["path", "server"]) readOnly),
    ("quobyte",
      record (texts ["registry", "volume"]) (texts ["group", "tenant", "user"] ++ readOnly))]

def specification : List (String × Shape) :=
  disks ++ shares
    ++ [("claimRef", objectReference), ("nodeAffinity", nodeAffinity)]
    ++ texts ["persistentVolumeReclaimPolicy", "storageClassName", "volumeAttributesClassName"]

def status : Shape :=
  record [] (("lastPhaseTransitionTime", time) :: texts ["message", "phase", "reason"])

end VolumeAttacher.VolumeParts
