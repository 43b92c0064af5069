import VolumeAttacher.Text.Quoted

/-!
# Errors of a driver

How a call to a CSI driver can fail, and which failures are final: after a final failure the call
has had no effect and has none in the future. Any other failure leaves the call possibly running.
-/

namespace VolumeAttacher.Csi

/-- The status codes of remote calls. -/
inductive Code where
  | ok
  | cancelled
  | unknown
  | invalidArgument
  | deadlineExceeded
  /-- Something was not found. -/
  | notFound
  | alreadyExists
  /-- The caller may not do this. -/
  | permissionDenied
  | resourceExhausted
  /-- The state does not allow the call. -/
  | failedPrecondition
  | aborted
  | outOfRange
  /-- The call is not implemented. -/
  | unimplemented
  | internal
  | unavailable
  | dataLoss
  /-- The caller is not known. -/
  | unauthenticated
deriving DecidableEq, Repr

namespace Code

/-- The codes in the order of their numbers. -/
def all : List Code :=
  [ok, cancelled, unknown, invalidArgument, deadlineExceeded, notFound, alreadyExists,
    permissionDenied, resourceExhausted, failedPrecondition, aborted, outOfRange, unimplemented,
    internal, unavailable, dataLoss, unauthenticated]

/-- The code of a number; numbers without a code count as unknown. -/
def ofNumber (n : Int) : Code :=
  if 0 ≤ n then all[n.toNat]?.getD unknown else unknown

def name : Code → String
  | ok => "Ok"
  | cancelled => "Cancelled"
  | unknown => "Unknown"
  | invalidArgument => "InvalidArgument"
  | deadlineExceeded => "DeadlineExceeded"
  | notFound => "NotFound"
  | alreadyExists => "AlreadyExists"
  | permissionDenied => "PermissionDenied"
  | resourceExhausted => "ResourceExhausted"
  | failedPrecondition => "FailedPrecondition"
  | aborted => "Aborted"
  | outOfRange => "OutOfRange"
  | unimplemented => "Unimplemented"
  | internal => "Internal"
  | unavailable => "Unavailable"
  | dataLoss => "DataLoss"
  | unauthenticated => "Unauthenticated"

/-- Whether the call may still be running after a failure with this code. -/
def mayStillRun : Code → Bool
  | cancelled | deadlineExceeded | unavailable | resourceExhausted | aborted => true
  | _ => false

end Code

/-- Why a call failed. -/
inductive Error where
  | rpc (code : Code) (message : String)
  /-- The call did not get through. -/
  | transport (message : String)
  /-- The address of the driver is not usable. -/
  | invalidAddress (address : String)
  /-- An argument is missing or wrong; the driver was not asked, or its answer is unusable. -/
  | invalidArgument (message : String)
  /-- Something that should not happen. -/
  | internal (message : String)
deriving DecidableEq, Repr

namespace Error

def code? : Error → Option Code
  | rpc code _ => some code
  | _ => none

/-- Whether the call is known to have no effect. -/
def isFinal : Error → Bool
  | rpc code _ => !code.mayStillRun
  | _ => false

def message : Error → String
  | rpc code message => s!"rpc error: code = {code.name} desc = {message}"
  | transport message => s!"transport error: {message}"
  | invalidAddress address => s!"invalid CSI address {Text.quoted address}"
  | invalidArgument message => s!"invalid argument: {message}"
  | internal message => s!"internal error: {message}"

end Error

end VolumeAttacher.Csi
