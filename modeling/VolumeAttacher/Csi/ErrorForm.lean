import VolumeAttacher.Csi.Error
import VolumeAttacher.Json.Fields

/-!
# The JSON form of a driver's errors

An error is written with its kind, its status code and whether it is final, and read from a
description of its cause. The text of an error is added by `Failure.toJson`.
-/

namespace VolumeAttacher.Csi.Error

def kind : Error → String
  | rpc _ _ => "Rpc"
  | transport _ => "TransportError"
  | invalidAddress _ => "InvalidAddress"
  | invalidArgument _ => "InvalidArgument"
  | internal _ => "Internal"

def codeJson (error : Error) : Json :=
  .ofOption (fun code => .text code.name) error.code?

def silentMembers (error : Error) : List (String × Json) :=
  [("error", .text error.kind), ("final", .bool error.isFinal), ("code", error.codeJson)]

/-- An error without its text. -/
def toSilentJson (error : Error) : Json :=
  .ofMembers error.silentMembers

/-- The error that a value describes, if it describes one. -/
def ofJson? (json : Json) : Option Error :=
  match json.part "status" with
  | .array items =>
      let status : Json := .array items
      some (.rpc (Code.ofNumber (status.int32Item 0).toInt) (status.textItem 1))
  | _ =>
      (json.textAt? "transport").map .transport
        <|> (json.textAt? "invalid_address").map .invalidAddress
        <|> (json.textAt? "invalid_argument").map .invalidArgument
        <|> (json.textAt? "internal").map .internal

end VolumeAttacher.Csi.Error
