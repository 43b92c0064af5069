import VolumeAttacher.Csi.Error
import VolumeAttacher.Text.Blank

/-!
# Addresses of drivers

A driver listens on a socket of the file system or, if it runs elsewhere, at a host and port.
-/

namespace VolumeAttacher.Csi

/-- Where a driver listens. -/
inductive Address where
  | unix (path : String)
  | tcp (host : String)
deriving DecidableEq, Repr

namespace Address

def unixScheme : List Char := "unix://".toList

def tcpScheme : List Char := "tcp://".toList

def hasScheme : List Char → Bool
  | [] => false
  | c :: rest => "://".toList.isPrefixOf (c :: rest) || hasScheme rest

/-- The address that a text writes: a path after `unix://` or from a slash on, else a host with a
port, which may stand after `tcp://`. -/
def ofChars? (text : List Char) : Option Address :=
  match Text.after? unixScheme text with
  | some path => if path = [] then none else some (.unix (String.ofList path))
  | none =>
      if text.head? = some '/' then some (.unix (String.ofList text))
      else
        let host := (Text.after? tcpScheme text).getD text
        if host = [] ∨ hasScheme host ∨ ':' ∉ host then none else some (.tcp (String.ofList host))

/-- The address that a text writes, or the error that names the text. -/
def ofText (text : String) : Except Error Address :=
  match ofChars? text.toList with
  | some address => .ok address
  | none => .error (.invalidAddress text)

def text : Address → String
  | unix path => "unix://" ++ path
  | tcp host => "tcp://" ++ host

end Address

end VolumeAttacher.Csi
