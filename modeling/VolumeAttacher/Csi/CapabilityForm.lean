import VolumeAttacher.Csi.Capability
import VolumeAttacher.Csi.Encoding
import VolumeAttacher.Json.Fields
import VolumeAttacher.Text.Bytes

/-!
# The JSON form of capabilities

What a driver can do and what volumes are published with, as reports show it.
-/

namespace VolumeAttacher.Csi

/-- The members that stand for a capability: the access mode, the access type and the bytes that are
sent. -/
def VolumeCapability.formMembers (capability : VolumeCapability) : List (String × Json) :=
  let accessType : Json :=
    match capability.accessType with
    | .block => .text "Block"
    | .mount fsType flags => .ofMembers [("fs_type", .text fsType), ("mount_flags", .ofTexts flags)]
  [("access_mode", .text capability.accessMode.name), ("access_type", accessType),
    ("wire", .text (Text.hex (Wire.encode capability.toMessage)))]

/-- What a controller can do: the known features, and what follows from them. -/
def ControllerFeatures.toJson (features : ControllerFeatures) : Json :=
  .ofMembers
    [("set", .ofTexts (features.features.map ControllerFeature.name)),
      ("attach", .bool features.supportsAttach),
      ("readonly", .bool features.supportsReadonlyAttach),
      ("list_published", .bool features.supportsListPublishedNodes)]

end VolumeAttacher.Csi
