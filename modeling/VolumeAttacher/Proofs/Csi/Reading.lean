import VolumeAttacher.Proofs.Csi.Outlines

/-!
# Messages are read as they were written

Every message to or from a driver is read back from its encoding, whatever its values are. It is
also read if a driver knows more fields than are known here, and has written some of them between
those of the message or of any of its parts. Tables have no order of their own, and come back in the
order of their names.
-/

namespace VolumeAttacher.Csi

open Wire

/-- A type of messages that are written and read field by field. -/
structure OutlinedType where
  Carrier : Type
  [message : Message Carrier]
  [outlined : Outlined Carrier]

/-- The requests and responses of the seven calls, and the parts that they consist of. -/
inductive Kind where
  | pluginInfoRequest | pluginInfoResponse | pluginCapabilitiesRequest
  | pluginCapabilitiesResponse | probeRequest | probeResponse | controllerCapabilitiesRequest
  | controllerCapabilitiesResponse | publishRequest | publishResponse | unpublishRequest
  | unpublishResponse | listRequest | listResponse
  | pluginCapability | service | volumeExpansion | boolValue | controllerServiceCapability
  | controllerRpc | volumeCapability | accessMode | blockVolume | mountVolume | listEntry
  | volume | volumeStatus
deriving DecidableEq, Repr

namespace Kind

/-- The messages of a kind, with what is known of them. -/
def type : Kind → OutlinedType
  | pluginInfoRequest => ⟨PluginInfoRequest⟩
  | pluginInfoResponse => ⟨PluginInfoResponse⟩
  | pluginCapabilitiesRequest => ⟨PluginCapabilitiesRequest⟩
  | pluginCapabilitiesResponse => ⟨PluginCapabilitiesResponse⟩
  | probeRequest => ⟨ProbeRequest⟩
  | probeResponse => ⟨ProbeResponse⟩
  | controllerCapabilitiesRequest => ⟨ControllerCapabilitiesRequest⟩
  | controllerCapabilitiesResponse => ⟨ControllerCapabilitiesResponse⟩
  | publishRequest => ⟨PublishRequest⟩
  | publishResponse => ⟨PublishResponse⟩
  | unpublishRequest => ⟨UnpublishRequest⟩
  | unpublishResponse => ⟨UnpublishResponse⟩
  | listRequest => ⟨ListRequest⟩
  | listResponse => ⟨ListResponse⟩
  | pluginCapability => ⟨PluginCapability⟩
  | service => ⟨Service⟩
  | volumeExpansion => ⟨VolumeExpansion⟩
  | boolValue => ⟨BoolValue⟩
  | controllerServiceCapability => ⟨ControllerServiceCapability⟩
  | controllerRpc => ⟨ControllerRpc⟩
  | volumeCapability => ⟨VolumeCapabilityMessage⟩
  | accessMode => ⟨AccessModeMessage⟩
  | blockVolume => ⟨BlockVolume⟩
  | mountVolume => ⟨MountVolume⟩
  | listEntry => ⟨ListEntry⟩
  | volume => ⟨VolumeMessage⟩
  | volumeStatus => ⟨VolumeStatus⟩

abbrev Carrier (kind : Kind) : Type :=
  kind.type.Carrier

instance (kind : Kind) : Message kind.Carrier :=
  kind.type.message

instance (kind : Kind) : Outlined kind.Carrier :=
  kind.type.outlined

theorem rank_le (kind : Kind) : rank kind.Carrier ≤ nestingLimit := by
  cases kind <;> decide

/-- Every message is read back from its encoding, whose length is to be a number of 64 bits. It is
the same message if its tables are in order, and else the one with its tables in order. -/
theorem decode_encode (kind : Kind) (message : kind.Carrier)
    (fits : (encode message).length < 2 ^ 64) :
    decode (encode message) = .ok (tidy message) ∧
      ((∀ table ∈ tables message, table.isOrdered = true) →
        decode (encode message) = .ok message) := by
  have decoded := decode_of_spelled kind.rank_le (spelled_encode message) fits
  refine ⟨decoded, fun ordered => ?_⟩
  rw [decoded, Outlined.tidy_eq_self message ordered]

/-- Parts that have nothing but defaults, an entry without a name or a value, and a number below
zero: none of it is lost. -/
theorem decode_encode_defaults :
    decode (encode
        (⟨[⟨some { capacityBytes := -1, volumeContext := [("", "")] }, some {}⟩, {}], ""⟩ :
          ListResponse)) =
      .ok (⟨[⟨some { capacityBytes := -1, volumeContext := [("", "")] }, some {}⟩, {}], ""⟩ :
        ListResponse) := by
  let message : ListResponse :=
    ⟨[⟨some { capacityBytes := -1, volumeContext := [("", "")] }, some {}⟩, {}], ""⟩
  exact (decode_encode .listResponse message (by decide +kernel)).2 (by decide)

/-- A message is read from whatever spells it with fields that are not known here. -/
theorem decode_spelled (kind : Kind) (message : kind.Carrier) :
    encode message = encodeFields (payloads (outline message)) ∧
      ∀ bytes, Spelled nestingLimit (isKnown kind.Carrier) (outline message) bytes →
        bytes.length < 2 ^ 64 →
        decode bytes = .ok (tidy message) ∧
          ((∀ table ∈ tables message, table.isOrdered = true) → decode bytes = .ok message) := by
  refine ⟨encode_eq message, fun bytes spelled fits => ?_⟩
  have decoded := decode_of_spelled kind.rank_le spelled fits
  refine ⟨decoded, fun ordered => ?_⟩
  rw [decoded, Outlined.tidy_eq_self message ordered]

/-- A driver is ready, and says so between a group and a number that are not known here. -/
theorem decode_spelled_ready :
    decode [0x2B, 0x38, 0x96, 0x01, 0x2C, 0x0A, 0x07, 0x15, 1, 2, 3, 4, 0x08, 0x01] =
      .ok ({ ready := some { value := true } } : ProbeResponse) := by
  have number : IsField 99 7 ([0x38] ++ [0x96, 0x01]) :=
    .plain (isStart_key (by decide)) (.varint (isNumber_varint (by decide : 150 < 2 ^ 64)))
  have start : IsStart 5 .groupStart [0x2B] := isStart_key (by decide)
  have ends : IsStart 5 .groupEnd [0x2C] := isStart_key (by decide)
  have group : IsField 100 5 ([0x2B] ++ [(7, [0x38, 0x96, 0x01])].flatMap Prod.snd ++ [0x2C]) :=
    .group start (List.forall_mem_singleton.mpr number) ends
  have fixed : IsField 99 2 ([0x15] ++ [1, 2, 3, 4]) :=
    .plain (isStart_key (by decide)) (.fixed32 rfl)
  have ready : Spelled 100 (isKnown ProbeResponse)
      [(1, .part (isKnown BoolValue) [(1, .plain (.varint 1))])]
      (([0x2B] ++ [(7, [0x38, 0x96, 0x01])].flatMap Prod.snd ++ [0x2C]) ++
        (encodeField (1, .bytes (([0x15] ++ [1, 2, 3, 4]) ++ (encodeField (1, .varint 1) ++ []))) ++
          [])) :=
    .foreign rfl group (.part (.foreign rfl fixed (.plain .nil)) .nil)
  have read := (decode_spelled .probeResponse ⟨some ⟨true⟩⟩).2 _ ready (by decide +kernel)
  have same : ([0x2B] ++ [(7, [0x38, 0x96, 0x01])].flatMap Prod.snd ++ [0x2C]) ++
      (encodeField (1, .bytes (([0x15] ++ [1, 2, 3, 4]) ++ (encodeField (1, .varint 1) ++ []))) ++
        []) = [0x2B, 0x38, 0x96, 0x01, 0x2C, 0x0A, 0x07, 0x15, 1, 2, 3, 4, 0x08, 0x01] := by
    decide +kernel
  rw [same] at read
  exact read.1

end Kind

end VolumeAttacher.Csi
