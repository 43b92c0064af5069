/-!
# Variable-length numbers

A number below `2 ^ 64` is written in groups of seven bits, least significant first; the high bit of
a byte says that more follow. At most ten bytes are read, and the tenth holds a single bit.
-/

namespace VolumeAttacher.Wire

/-- The bytes of a number, least significant group first; the fuel is the number of bytes there may
be. -/
def varintBytes : Nat → Nat → List UInt8
  | 0, _ => []
  | fuel + 1, n =>
      if n < 128 then [UInt8.ofNat n] else UInt8.ofNat (128 + n % 128) :: varintBytes fuel (n / 128)

/-- The bytes of a number below `2 ^ 64`. -/
def varint (n : Nat) : List UInt8 :=
  varintBytes 10 n

/-- Reads a number of at most the given number of bytes, of which the last holds one bit. -/
def varintWithin? : Nat → List UInt8 → Option (Nat × List UInt8)
  | 0, _ => none
  | _, [] => none
  | room + 1, byte :: rest =>
      if byte < 128 then
        if room = 0 ∧ 2 ≤ byte then none else some (byte.toNat, rest)
      else
        (varintWithin? room rest).map fun (high, rest) => (byte.toNat - 128 + 128 * high, rest)

def varint? (bytes : List UInt8) : Option (Nat × List UInt8) :=
  varintWithin? 10 bytes

end VolumeAttacher.Wire
