import VolumeAttacher.Csi.Encoding
import VolumeAttacher.Proofs.Wire.Slots

/-!
# The outlines of the messages

For every type of messages to and from a driver, and for every type of their parts: how a message is
outlined, and that its outline is taken up field by field to the message that it is the outline of.
-/

namespace VolumeAttacher.Csi

open Wire

instance : Steady PluginInfoRequest where
  isSome_slot? _ _ := rfl

instance : Outlined PluginInfoRequest where
  outline _ := []
  tables _ := []
  tidy message := message
  tidy_eq_self _ _ := rfl
  rank := 0
  payloads_outline _ := by simp [Message.fields, payloads]
  takes _ message := takes_nil message

instance : Steady PluginInfoResponse where
  isSome_slot? message tag := by
    simp only [isKnown, Message.slot?]
    split <;> rfl

instance : Outlined PluginInfoResponse where
  outline message :=
    plainly (textField 1 message.name) ++
      (plainly (textField 2 message.vendorVersion) ++ tableContents 3 message.manifest)
  tables message := [message.manifest]
  tidy message := { message with manifest := .ofList message.manifest }
  tidy_eq_self _ ordered := by rw [Table.ofList_eq_self (ordered _ List.mem_cons_self)]
  rank := 1
  payloads_outline message := by simp [Message.fields]
  takes enough message :=
    .append (takes_textField (by decide) rfl rfl rfl) <|
    .append (takes_textField (by decide) rfl rfl rfl) <|
    takes_tableFields (fun manifest => { message with manifest }) (by decide) (fun _ => rfl)
      enough rfl rfl

instance : Steady PluginCapabilitiesRequest where
  isSome_slot? _ _ := rfl

instance : Outlined PluginCapabilitiesRequest where
  outline _ := []
  tables _ := []
  tidy message := message
  tidy_eq_self _ _ := rfl
  rank := 0
  payloads_outline _ := by simp [Message.fields, payloads]
  takes _ message := takes_nil message

instance : Steady Service where
  isSome_slot? message tag := by simp only [isKnown, Message.slot?]

instance : Outlined Service where
  outline message := plainly (int32Field 1 message.kind)
  tables _ := []
  tidy message := message
  tidy_eq_self _ _ := rfl
  rank := 0
  payloads_outline message := by simp [Message.fields]
  takes _ _ := takes_int32Field (by decide) rfl rfl rfl

instance : Steady VolumeExpansion where
  isSome_slot? message tag := by simp only [isKnown, Message.slot?]

instance : Outlined VolumeExpansion where
  outline message := plainly (int32Field 1 message.kind)
  tables _ := []
  tidy message := message
  tidy_eq_self _ _ := rfl
  rank := 0
  payloads_outline message := by simp [Message.fields]
  takes _ _ := takes_int32Field (by decide) rfl rfl rfl

instance : Steady PluginCapability where
  isSome_slot? message tag := by
    simp only [isKnown, Message.slot?]
    split <;> rfl

instance : Outlined PluginCapability where
  outline message :=
    match message.kind with
    | none => []
    | some (.service service) => partContents 1 [service]
    | some (.volumeExpansion expansion) => partContents 2 [expansion]
  tables _ := []
  tidy message := message
  tidy_eq_self _ _ := rfl
  rank := 1
  payloads_outline message := by
    rcases message with ⟨_ | _ | _⟩ <;> simp [Message.fields, payloads]
  takes enough message := by
    rcases message with ⟨_ | service | expansion⟩
    · exact takes_nil _
    · exact takes_part (by decide) rfl enough rfl
    · exact takes_part (by decide) rfl enough rfl

instance : Steady PluginCapabilitiesResponse where
  isSome_slot? message tag := by
    simp only [isKnown, Message.slot?]
    split <;> rfl

instance : Outlined PluginCapabilitiesResponse where
  outline message := partContents 1 message.capabilities
  tables message := message.capabilities.flatMap tables
  tidy message := { capabilities := message.capabilities.map tidy }
  tidy_eq_self _ ordered := by rw [map_tidy_eq_self ordered]
  rank := 2
  payloads_outline message := by simp [Message.fields]
  takes enough _ := takes_parts .mk (by decide) (fun _ => rfl) enough rfl rfl

instance : Steady ProbeRequest where
  isSome_slot? _ _ := rfl

instance : Outlined ProbeRequest where
  outline _ := []
  tables _ := []
  tidy message := message
  tidy_eq_self _ _ := rfl
  rank := 0
  payloads_outline _ := by simp [Message.fields, payloads]
  takes _ message := takes_nil message

instance : Steady BoolValue where
  isSome_slot? message tag := by simp only [isKnown, Message.slot?]

instance : Outlined BoolValue where
  outline message := plainly (boolField 1 message.value)
  tables _ := []
  tidy message := message
  tidy_eq_self _ _ := rfl
  rank := 0
  payloads_outline message := by simp [Message.fields]
  takes _ _ := takes_boolField (by decide) rfl rfl rfl

instance : Steady ProbeResponse where
  isSome_slot? message tag := by
    simp only [isKnown, Message.slot?]
    split <;> rfl

instance : Outlined ProbeResponse where
  outline message := partContents 1 message.ready.toList
  tables message := message.ready.toList.flatMap tables
  tidy message := { ready := message.ready.map tidy }
  tidy_eq_self _ ordered := by rw [optionMap_tidy_eq_self ordered]
  rank := 1
  payloads_outline message := by simp [Message.fields, optionalPart]
  takes enough _ := takes_optionalPart (by decide) rfl enough rfl rfl

instance : Steady ControllerCapabilitiesRequest where
  isSome_slot? _ _ := rfl

instance : Outlined ControllerCapabilitiesRequest where
  outline _ := []
  tables _ := []
  tidy message := message
  tidy_eq_self _ _ := rfl
  rank := 0
  payloads_outline _ := by simp [Message.fields, payloads]
  takes _ message := takes_nil message

instance : Steady ControllerRpc where
  isSome_slot? message tag := by simp only [isKnown, Message.slot?]

instance : Outlined ControllerRpc where
  outline message := plainly (int32Field 1 message.kind)
  tables _ := []
  tidy message := message
  tidy_eq_self _ _ := rfl
  rank := 0
  payloads_outline message := by simp [Message.fields]
  takes _ _ := takes_int32Field (by decide) rfl rfl rfl

instance : Steady ControllerServiceCapability where
  isSome_slot? message tag := by
    simp only [isKnown, Message.slot?]
    split <;> rfl

instance : Outlined ControllerServiceCapability where
  outline message := partContents 1 message.rpc.toList
  tables message := message.rpc.toList.flatMap tables
  tidy message := { rpc := message.rpc.map tidy }
  tidy_eq_self _ ordered := by rw [optionMap_tidy_eq_self ordered]
  rank := 1
  payloads_outline message := by simp [Message.fields, optionalPart]
  takes enough _ := takes_optionalPart (by decide) rfl enough rfl rfl

instance : Steady ControllerCapabilitiesResponse where
  isSome_slot? message tag := by
    simp only [isKnown, Message.slot?]
    split <;> rfl

instance : Outlined ControllerCapabilitiesResponse where
  outline message := partContents 1 message.capabilities
  tables message := message.capabilities.flatMap tables
  tidy message := { capabilities := message.capabilities.map tidy }
  tidy_eq_self _ ordered := by rw [map_tidy_eq_self ordered]
  rank := 2
  payloads_outline message := by simp [Message.fields]
  takes enough _ := takes_parts .mk (by decide) (fun _ => rfl) enough rfl rfl

instance : Steady AccessModeMessage where
  isSome_slot? message tag := by simp only [isKnown, Message.slot?]

instance : Outlined AccessModeMessage where
  outline message := plainly (int32Field 1 message.mode)
  tables _ := []
  tidy message := message
  tidy_eq_self _ _ := rfl
  rank := 0
  payloads_outline message := by simp [Message.fields]
  takes _ _ := takes_int32Field (by decide) rfl rfl rfl

instance : Steady MountVolume where
  isSome_slot? message tag := by
    simp only [isKnown, Message.slot?]
    split <;> rfl

instance : Outlined MountVolume where
  outline message :=
    plainly (textField 1 message.fsType) ++ plainly (textFields 2 message.mountFlags)
  tables _ := []
  tidy message := message
  tidy_eq_self _ _ := rfl
  rank := 0
  payloads_outline message := by simp [Message.fields]
  takes _ message :=
    .append (takes_textField (by decide) rfl rfl rfl) <|
    takes_textFields (fun mountFlags => { message with mountFlags }) (by decide) (fun _ => rfl)
      rfl rfl

instance : Steady BlockVolume where
  isSome_slot? _ _ := rfl

instance : Outlined BlockVolume where
  outline _ := []
  tables _ := []
  tidy message := message
  tidy_eq_self _ _ := rfl
  rank := 0
  payloads_outline _ := by simp [Message.fields, payloads]
  takes _ message := takes_nil message

instance : Steady VolumeCapabilityMessage where
  isSome_slot? message tag := by
    simp only [isKnown, Message.slot?]
    split <;> rfl

instance : Outlined VolumeCapabilityMessage where
  outline message :=
    (match message.accessType with
      | none => []
      | some .block => partContents 1 [({} : BlockVolume)]
      | some (.mount mount) => partContents 2 [mount])
      ++ partContents 3 message.accessMode.toList
  tables message := message.accessMode.toList.flatMap tables
  tidy message := { message with accessMode := message.accessMode.map tidy }
  tidy_eq_self _ ordered := by rw [optionMap_tidy_eq_self ordered]
  rank := 1
  payloads_outline message := by
    rcases message with ⟨_, _ | _ | _⟩ <;> simp [Message.fields, optionalPart]
  takes enough message := by
    rcases message with ⟨mode, _ | _ | mount⟩
    · exact takes_optionalPart (by decide) rfl enough rfl rfl
    · exact .append (takes_part (by decide) rfl enough rfl)
        (takes_optionalPart (by decide) rfl enough rfl rfl)
    · exact .append (takes_part (by decide) rfl enough rfl)
        (takes_optionalPart (by decide) rfl enough rfl rfl)

instance : Steady PublishRequest where
  isSome_slot? message tag := by
    simp only [isKnown, Message.slot?]
    split <;> rfl

instance : Outlined PublishRequest where
  outline message :=
    plainly (textField 1 message.volumeId) ++
      (plainly (textField 2 message.nodeId) ++
        (partContents 3 message.volumeCapability.toList ++
          (plainly (boolField 4 message.readonly) ++
            (tableContents 5 message.secrets ++ tableContents 6 message.volumeContext))))
  tables message :=
    message.volumeCapability.toList.flatMap tables ++ [message.secrets, message.volumeContext]
  tidy message :=
    { message with
      volumeCapability := message.volumeCapability.map tidy
      secrets := .ofList message.secrets
      volumeContext := .ofList message.volumeContext }
  tidy_eq_self _ ordered := by
    rcases List.forall_mem_append.mp ordered with ⟨capability, own⟩
    rw [optionMap_tidy_eq_self capability, Table.ofList_eq_self (own _ (by simp)),
      Table.ofList_eq_self (own _ (by simp))]
  rank := 2
  payloads_outline message := by simp [Message.fields, optionalPart]
  takes enough message :=
    .append (takes_textField (by decide) rfl rfl rfl) <|
    .append (takes_textField (by decide) rfl rfl rfl) <|
    .append (takes_optionalPart (by decide) rfl enough rfl rfl) <|
    .append (takes_boolField (by decide) rfl rfl rfl) <|
    .append
      (takes_tableFields
        (fun secrets =>
          { volumeId := message.volumeId
            nodeId := message.nodeId
            volumeCapability := message.volumeCapability.map tidy
            readonly := message.readonly
            secrets })
        (by decide) (fun _ => rfl) (Nat.lt_of_lt_of_le (by decide) enough) rfl rfl) <|
    takes_tableFields
      (fun volumeContext =>
        { message with
          volumeCapability := message.volumeCapability.map tidy
          secrets := .ofList message.secrets
          volumeContext })
      (by decide) (fun _ => rfl) (Nat.lt_of_lt_of_le (by decide) enough) rfl rfl

instance : Steady PublishResponse where
  isSome_slot? message tag := by
    simp only [isKnown, Message.slot?]
    split <;> rfl

instance : Outlined PublishResponse where
  outline message := tableContents 1 message.publishContext
  tables message := [message.publishContext]
  tidy message := { publishContext := .ofList message.publishContext }
  tidy_eq_self _ ordered := by rw [Table.ofList_eq_self (ordered _ List.mem_cons_self)]
  rank := 1
  payloads_outline message := by simp [Message.fields]
  takes enough _ := takes_tableFields .mk (by decide) (fun _ => rfl) enough rfl rfl

instance : Steady UnpublishRequest where
  isSome_slot? message tag := by
    simp only [isKnown, Message.slot?]
    split <;> rfl

instance : Outlined UnpublishRequest where
  outline message :=
    plainly (textField 1 message.volumeId) ++
      (plainly (textField 2 message.nodeId) ++ tableContents 3 message.secrets)
  tables message := [message.secrets]
  tidy message := { message with secrets := .ofList message.secrets }
  tidy_eq_self _ ordered := by rw [Table.ofList_eq_self (ordered _ List.mem_cons_self)]
  rank := 1
  payloads_outline message := by simp [Message.fields]
  takes enough message :=
    .append (takes_textField (by decide) rfl rfl rfl) <|
    .append (takes_textField (by decide) rfl rfl rfl) <|
    takes_tableFields (fun secrets => { message with secrets }) (by decide) (fun _ => rfl)
      enough rfl rfl

instance : Steady UnpublishResponse where
  isSome_slot? _ _ := rfl

instance : Outlined UnpublishResponse where
  outline _ := []
  tables _ := []
  tidy message := message
  tidy_eq_self _ _ := rfl
  rank := 0
  payloads_outline _ := by simp [Message.fields, payloads]
  takes _ message := takes_nil message

instance : Steady ListRequest where
  isSome_slot? message tag := by
    simp only [isKnown, Message.slot?]
    split <;> rfl

instance : Outlined ListRequest where
  outline message :=
    plainly (int32Field 1 message.maxEntries) ++ plainly (textField 2 message.startingToken)
  tables _ := []
  tidy message := message
  tidy_eq_self _ _ := rfl
  rank := 0
  payloads_outline message := by simp [Message.fields]
  takes _ _ :=
    .append (takes_int32Field (by decide) rfl rfl rfl) (takes_textField (by decide) rfl rfl rfl)

instance : Steady VolumeMessage where
  isSome_slot? message tag := by
    simp only [isKnown, Message.slot?]
    split <;> rfl

instance : Outlined VolumeMessage where
  outline message :=
    plainly (int64Field 1 message.capacityBytes) ++
      (plainly (textField 2 message.volumeId) ++ tableContents 3 message.volumeContext)
  tables message := [message.volumeContext]
  tidy message := { message with volumeContext := .ofList message.volumeContext }
  tidy_eq_self _ ordered := by rw [Table.ofList_eq_self (ordered _ List.mem_cons_self)]
  rank := 1
  payloads_outline message := by simp [Message.fields]
  takes enough message :=
    .append (takes_int64Field (by decide) rfl rfl rfl) <|
    .append (takes_textField (by decide) rfl rfl rfl) <|
    takes_tableFields (fun volumeContext => { message with volumeContext }) (by decide)
      (fun _ => rfl) enough rfl rfl

instance : Steady VolumeStatus where
  isSome_slot? message tag := by
    simp only [isKnown, Message.slot?]
    split <;> rfl

instance : Outlined VolumeStatus where
  outline message := plainly (textFields 1 message.publishedNodeIds)
  tables _ := []
  tidy message := message
  tidy_eq_self _ _ := rfl
  rank := 0
  payloads_outline message := by simp [Message.fields]
  takes _ _ := takes_textFields .mk (by decide) (fun _ => rfl) rfl rfl

instance : Steady ListEntry where
  isSome_slot? message tag := by
    simp only [isKnown, Message.slot?]
    split <;> rfl

instance : Outlined ListEntry where
  outline message :=
    partContents 1 message.volume.toList ++ partContents 2 message.status.toList
  tables message :=
    message.volume.toList.flatMap tables ++ message.status.toList.flatMap tables
  tidy message := { volume := message.volume.map tidy, status := message.status.map tidy }
  tidy_eq_self _ ordered := by
    rcases List.forall_mem_append.mp ordered with ⟨volume, status⟩
    rw [optionMap_tidy_eq_self volume, optionMap_tidy_eq_self status]
  rank := 2
  payloads_outline message := by simp [Message.fields, optionalPart]
  takes enough _ :=
    .append (takes_optionalPart (by decide) rfl enough rfl rfl)
      (takes_optionalPart (by decide) rfl (Nat.lt_of_lt_of_le (by decide) enough) rfl rfl)

instance : Steady ListResponse where
  isSome_slot? message tag := by
    simp only [isKnown, Message.slot?]
    split <;> rfl

instance : Outlined ListResponse where
  outline message :=
    partContents 1 message.entries ++ plainly (textField 2 message.nextToken)
  tables message := message.entries.flatMap tables
  tidy message := { message with entries := message.entries.map tidy }
  tidy_eq_self _ ordered := by rw [map_tidy_eq_self ordered]
  rank := 3
  payloads_outline message := by simp [Message.fields]
  takes enough _ :=
    .append (takes_parts (fun entries => { entries }) (by decide) (fun _ => rfl) enough rfl rfl)
      (takes_textField (by decide) rfl rfl rfl)

end VolumeAttacher.Csi
