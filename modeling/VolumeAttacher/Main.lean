import VolumeAttacher.Json.Printer
import VolumeAttacher.Settings.Form

/-!
# The command line

Checks a command line: the settings that it gives are printed as JSON, with the text of the first
fault in them. The exit code is 2 if the arguments cannot be read and 1 if the settings cannot be
used.
-/

namespace VolumeAttacher

/-- The exit code for arguments that ask for something or cannot be read. -/
def UsageError.exitCode : UsageError → UInt32
  | help | version => 0
  | _ => 2

def CommandLine.exitCode (settings : CommandLine) : UInt32 :=
  if settings.fault?.isSome then 1 else 0

def checkArguments (arguments : List String) : Json × UInt32 :=
  match CommandLine.ofArguments arguments with
  | .ok settings => (settings.toJson, settings.exitCode)
  | .error error => (error.toJson, error.exitCode)

end VolumeAttacher

def main (arguments : List String) : IO UInt32 := do
  let (report, code) := VolumeAttacher.checkArguments arguments
  IO.println report.compact
  return code
