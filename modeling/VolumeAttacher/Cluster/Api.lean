import VolumeAttacher.Failure
import VolumeAttacher.Json.MergePatch
import VolumeAttacher.Net.Uri
import VolumeAttacher.Object.Node
import VolumeAttacher.Object.VolumeAttachment
import VolumeAttacher.Object.PersistentVolume

/-!
# Requests to the cluster

Objects are written by sending the difference between two versions as a merge patch, and secrets are
fetched one at a time. Here are the requests that are made and what their answers mean.
-/

namespace VolumeAttacher.Api

/-- What a patch is for. -/
inductive PatchTarget where
  | attachment
  | status
  | volume
deriving DecidableEq, Repr

/-- The path of an object to be patched. -/
def PatchTarget.path (target : PatchTarget) (name : String) : String :=
  match target with
  | attachment => s!"/apis/storage.k8s.io/v1/volumeattachments/{name}"
  | status => s!"/apis/storage.k8s.io/v1/volumeattachments/{name}/status"
  | volume => s!"/api/v1/persistentvolumes/{name}"

/-- A request. -/
inductive Request where
  | patch (target : PatchTarget) (name : String) (difference : Json)
  | secret (space name : String)
deriving DecidableEq

/-- Who patches are made by. -/
def fieldManager : String := "external-attacher"

namespace Request

/-- The name of the method of a request. -/
def method : Request → String
  | patch _ _ _ => "PATCH"
  | secret _ _ => "GET"

/-- The URI of a request. Names stand in it as they are, so that a question mark or a number sign in
a name ends the path. -/
def uri : Request → String
  | patch target name _ => s!"{target.path name}?&fieldManager={fieldManager}"
  | secret space name => s!"/api/v1/namespaces/{space}/secrets/{name}"

/-- The type of what is sent. -/
def contentType? : Request → Option String
  | patch _ _ _ => some "application/merge-patch+json"
  | secret _ _ => none

/-- What is sent. -/
def body? : Request → Option Json
  | patch _ _ difference => some difference
  | secret _ _ => none

/-- The name of the object that a request is about. -/
def name : Request → String
  | patch _ name _ | secret _ name => name

/-- The path and the query of a request. There are none, and the request cannot be made, if the name
is empty or the URI holds a character that cannot stand there. -/
def target? (request : Request) : Option UriTarget :=
  if request.name.isEmpty then none
  else
    match Uri.ofText? request.uri with
    | some (.origin target) => some target
    | _ => none

end Request

/-- An answer. -/
inductive Reply where
  | refused (code : Nat) (reason : String)
  | granted (body : Json)
deriving DecidableEq

/-- Whether a code says that the request is refused. -/
def isRefusal (code : Nat) : Bool :=
  400 ≤ code && code < 600

/-- The failure that an answer with a code means. If the code does not say that the request is
refused, the answer cannot be read. -/
def refusal (code : Nat) : Failure :=
  .cluster (if isRefusal code then some code else none)

/-- The code that says that an object has changed. -/
def conflictCode : Nat := 409

/-- The object that an answer to a patch brings. -/
def patched {α : Type} (read : Json → Option α) (name : String) : Reply → Except Failure α
  | .refused code _ => .error (if code = conflictCode then .conflict name else refusal code)
  | .granted body =>
      match read body with
      | some object => .ok object
      | none => .error (.cluster none)

/-- The reason of a refusal that says that there is no such object. -/
def notFoundReason : String := "NotFound"

/-- The secret that an answer brings, if there is one. -/
def fetched : Reply → Except Failure (Option Secret)
  | .refused code reason =>
      if isRefusal code ∧ reason = notFoundReason then .ok none else .error (refusal code)
  | .granted body =>
      match Secret.ofJson? body with
      | some secret => .ok (some secret)
      | none => .error (.cluster none)

/-- The request that writes the difference between two versions of an attachment. -/
def patchAttachment (target : PatchTarget) (old new : VolumeAttachment) : Request :=
  .patch target old.name (Json.versionedPatch old.toJson new.toJson)

/-- The request that writes the difference between two versions of a volume. -/
def patchVolume (old new : PersistentVolume) : Request :=
  .patch .volume old.name (Json.versionedPatch old.toJson new.toJson)

end VolumeAttacher.Api
