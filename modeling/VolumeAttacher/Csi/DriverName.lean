/-!
# Names that belong to a driver

A driver's name may hold characters that are not allowed in names of the cluster. What the attacher
puts on cluster objects for a driver is named after the sanitized name.
-/

namespace VolumeAttacher.DriverName

/-- Whether a character may stay in a sanitized name: an ASCII letter or digit, or a hyphen. -/
def isPlain (c : Char) : Bool :=
  c.isAlphanum || c = '-'

/-- The characters of a sanitized name: a hyphen for each character that may not stay, and an `X`
after a hyphen at the end. -/
def sanitizedChars (driver : List Char) : List Char :=
  let plain := driver.map fun c => if isPlain c then c else '-'
  if plain.getLast? = some '-' then plain ++ ['X'] else plain

def sanitized (driver : String) : String :=
  String.ofList (sanitizedChars driver.toList)

def finalizer (driver : String) : String :=
  "external-attacher/" ++ sanitized driver

/-- The name of the lease that the attachers for a driver compete for. -/
def lease (driver : String) : String :=
  "external-attacher-leader-" ++ sanitized driver

end VolumeAttacher.DriverName
