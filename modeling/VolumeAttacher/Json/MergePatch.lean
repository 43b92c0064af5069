import VolumeAttacher.Json.Basic

/-!
# Merge patches

A merge patch is a JSON object that describes a change of another one: a member that is `null`
removes the member of that name, a member that is an object is applied inside it, and any other
member replaces it. `Json.applyPatch` is that rule, and `Json.difference?` computes the patch that
turns one value into another.

`Json.versionedPatch` is what is sent to change a stored object: the difference, and with it the
resource version that the change was computed from, so that the change is refused once the stored
object has moved on.
-/

namespace VolumeAttacher.Json

mutual

def applyPatch (target : Json) : Json → Json
  | .object patch => .object (applyMembers target.members patch)
  | replacement => replacement

def applyMembers (target : Table Json) : List (String × Json) → Table Json
  | [] => target
  | (name, .null) :: rest => applyMembers (Table.erase target name) rest
  | (name, change) :: rest =>
      applyMembers
        (Table.insert target name (applyPatch ((Table.find? target name).getD .null) change))
        rest

end

def removedMembers (old new : Table Json) : List String :=
  (Table.names old).filter fun name => !Table.contains new name

mutual

/-- The patch that turns one value into another; `none` if they are equal. -/
def difference? (old : Json) : Json → Option Json
  | .object new =>
      match old with
      | .object old =>
          let patch := (removedMembers old new).foldl
            (fun patch name => Table.insert patch name .null) (changedMembers old new)
          if patch.isEmpty then none else some (.object patch)
      | _ => some (.object new)
  | new => if old = new then none else some new

def changedMembers (old : Table Json) : List (String × Json) → Table Json
  | [] => []
  | (name, value) :: rest =>
      match Table.find? old name with
      | none => (name, value) :: changedMembers old rest
      | some previous =>
          match difference? previous value with
          | none => changedMembers old rest
          | some change => (name, change) :: changedMembers old rest

end

/-- The resource version among the members of an object's metadata. -/
def resourceVersion? (object : Json) : Option Json := do
  let metadata ← Table.find? object.members "metadata"
  Table.find? metadata.members "resourceVersion"

/-- The patch that turns one object into another provided that it is stored in the version of the
first one. A difference that replaces the object as a whole is not sent. -/
def versionedPatch (old new : Json) : Json :=
  let patch := ((difference? old new).getD (.object [])).members
  match resourceVersion? old with
  | none => .object patch
  | some version =>
      match (Table.find? patch "metadata").getD (.object []) with
      | .object metadata =>
          .object (Table.insert patch "metadata"
            (.object (Table.insert metadata "resourceVersion" version)))
      | _ => .object patch

end VolumeAttacher.Json
