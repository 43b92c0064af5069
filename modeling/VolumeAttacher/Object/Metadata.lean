import VolumeAttacher.Object.Format

/-!
# Metadata of cluster objects

What every object of the cluster carries: its name, its version, the annotations and finalizers on
it, and the time at which its deletion was asked for. An empty list or map is not the same as an
absent one.
-/

namespace VolumeAttacher

/-- A reference to the object that owns another. -/
structure OwnerReference where
  apiVersion : String
  kind : String
  name : String
  uid : String
  blockOwnerDeletion : Option Bool
  controller : Option Bool
deriving DecidableEq

/-- Which fields of an object one of its writers has set. -/
structure ManagedFields where
  apiVersion : Option String
  fieldsType : Option String
  fieldsV1 : Option Json
  manager : Option String
  operation : Option String
  subresource : Option String
  time : Option Timestamp
deriving DecidableEq

/-- The metadata of an object. -/
structure Metadata where
  name : Option String := none
  generateName : Option String := none
  space : Option String := none
  uid : Option String := none
  selfLink : Option String := none
  resourceVersion : Option String := none
  generation : Option Int := none
  labels : Option (Table String) := none
  annotations : Option (Table String) := none
  /-- Who has to agree before the object is dropped. -/
  finalizers : Option (List String) := none
  creationTimestamp : Option Timestamp := none
  deletionTimestamp : Option Timestamp := none
  deletionGracePeriodSeconds : Option Int := none
  ownerReferences : Option (List OwnerReference) := none
  managedFields : Option (List ManagedFields) := none
deriving DecidableEq

namespace OwnerReference

def ofJson? (value : Json) : Option OwnerReference := do
  let members ← value.members?
  return {
    apiVersion := ← Format.fieldD? members "apiVersion" Json.text? ""
    kind := ← Format.fieldD? members "kind" Json.text? ""
    name := ← Format.fieldD? members "name" Json.text? ""
    uid := ← Format.fieldD? members "uid" Json.text? ""
    blockOwnerDeletion := ← Format.field? members "blockOwnerDeletion" Json.bool?
    controller := ← Format.field? members "controller" Json.bool? }

def toJson (owner : OwnerReference) : Json :=
  Format.written [
    ("apiVersion", some (.text owner.apiVersion)),
    ("blockOwnerDeletion", owner.blockOwnerDeletion.map .bool),
    ("controller", owner.controller.map .bool),
    ("kind", some (.text owner.kind)),
    ("name", some (.text owner.name)),
    ("uid", some (.text owner.uid))]

end OwnerReference

namespace ManagedFields

def ofJson? (value : Json) : Option ManagedFields := do
  let members ← value.members?
  return {
    apiVersion := ← Format.field? members "apiVersion" Json.text?
    fieldsType := ← Format.field? members "fieldsType" Json.text?
    fieldsV1 := ← Format.field? members "fieldsV1" some
    manager := ← Format.field? members "manager" Json.text?
    operation := ← Format.field? members "operation" Json.text?
    subresource := ← Format.field? members "subresource" Json.text?
    time := ← Format.field? members "time" Format.timestamp? }

def toJson (entry : ManagedFields) : Json :=
  Format.written [
    ("apiVersion", entry.apiVersion.map .text),
    ("fieldsType", entry.fieldsType.map .text),
    ("fieldsV1", entry.fieldsV1),
    ("manager", entry.manager.map .text),
    ("operation", entry.operation.map .text),
    ("subresource", entry.subresource.map .text),
    ("time", entry.time.map Format.ofTimestamp)]

end ManagedFields

namespace Metadata

def ofJson? (value : Json) : Option Metadata := do
  let members ← value.members?
  return {
    name := ← Format.field? members "name" Json.text?
    generateName := ← Format.field? members "generateName" Json.text?
    space := ← Format.field? members "namespace" Json.text?
    uid := ← Format.field? members "uid" Json.text?
    selfLink := ← Format.field? members "selfLink" Json.text?
    resourceVersion := ← Format.field? members "resourceVersion" Json.text?
    generation := ← Format.field? members "generation" Json.int64?
    labels := ← Format.field? members "labels" (Format.table? Json.text?)
    annotations := ← Format.field? members "annotations" (Format.table? Json.text?)
    finalizers := ← Format.field? members "finalizers" (Format.list? Json.text?)
    creationTimestamp := ← Format.field? members "creationTimestamp" Format.timestamp?
    deletionTimestamp := ← Format.field? members "deletionTimestamp" Format.timestamp?
    deletionGracePeriodSeconds :=
      ← Format.field? members "deletionGracePeriodSeconds" Json.int64?
    ownerReferences :=
      ← Format.field? members "ownerReferences" (Format.list? OwnerReference.ofJson?)
    managedFields := ← Format.field? members "managedFields" (Format.list? ManagedFields.ofJson?) }

def toJson (metadata : Metadata) : Json :=
  Format.written [
    ("annotations", metadata.annotations.map Format.ofStringTable),
    ("creationTimestamp", metadata.creationTimestamp.map Format.ofTimestamp),
    ("deletionGracePeriodSeconds", metadata.deletionGracePeriodSeconds.map .ofInt),
    ("deletionTimestamp", metadata.deletionTimestamp.map Format.ofTimestamp),
    ("finalizers", metadata.finalizers.map Format.ofStrings),
    ("generateName", metadata.generateName.map .text),
    ("generation", metadata.generation.map .ofInt),
    ("labels", metadata.labels.map Format.ofStringTable),
    ("managedFields", metadata.managedFields.map fun entries =>
      .array (entries.map ManagedFields.toJson)),
    ("name", metadata.name.map .text),
    ("namespace", metadata.space.map .text),
    ("ownerReferences", metadata.ownerReferences.map fun owners =>
      .array (owners.map OwnerReference.toJson)),
    ("resourceVersion", metadata.resourceVersion.map .text),
    ("selfLink", metadata.selfLink.map .text),
    ("uid", metadata.uid.map .text)]

/-- The name that an object goes by: its name, else the beginning of the name to be completed. -/
def displayName (metadata : Metadata) : String :=
  (metadata.name <|> metadata.generateName).getD ""

def annotation? (metadata : Metadata) (name : String) : Option String :=
  metadata.annotations.bind fun annotations => Table.find? annotations name

def annotate (metadata : Metadata) (name value : String) : Metadata :=
  { metadata with annotations := some (Table.insert (metadata.annotations.getD []) name value) }

/-- The finalizers, none if the list is absent. -/
def finalizerList (metadata : Metadata) : List String :=
  metadata.finalizers.getD []

def hasFinalizer (metadata : Metadata) (finalizer : String) : Bool :=
  metadata.finalizerList.contains finalizer

/-- Puts a finalizer at the end of the list unless it is there. -/
def addFinalizer (metadata : Metadata) (finalizer : String) : Metadata :=
  if metadata.hasFinalizer finalizer then metadata
  else { metadata with finalizers := some (metadata.finalizerList ++ [finalizer]) }

/-- Removes every copy of a finalizer. The list is there afterwards, even if it was absent. -/
def removeFinalizer (metadata : Metadata) (finalizer : String) : Metadata :=
  { metadata with finalizers := some (metadata.finalizerList.filter (· ≠ finalizer)) }

def isDeleting (metadata : Metadata) : Bool :=
  metadata.deletionTimestamp.isSome

@[simp] theorem finalizerList_addFinalizer (metadata : Metadata) (finalizer : String) :
    (metadata.addFinalizer finalizer).finalizerList =
      if finalizer ∈ metadata.finalizerList then metadata.finalizerList
      else metadata.finalizerList ++ [finalizer] := by
  simp only [addFinalizer, hasFinalizer, List.contains_iff_mem]
  split <;> simp [finalizerList]

@[simp] theorem finalizerList_removeFinalizer (metadata : Metadata) (finalizer : String) :
    (metadata.removeFinalizer finalizer).finalizerList =
      metadata.finalizerList.filter (· ≠ finalizer) := rfl

end Metadata

end VolumeAttacher
