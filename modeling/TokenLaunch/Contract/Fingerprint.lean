/-
# Fingerprints

The fingerprint of a text tells at a glance whether it has changed.  It is the 64-bit FNV-1a hash
of the text's UTF-8 bytes, written as sixteen hexadecimal digits.
-/
import TokenLaunch.Text.Hex

namespace TokenLaunch
namespace Fingerprint

/-- The hash of no bytes. -/
def start : UInt64 := 0xcbf29ce484222325

/-- The multiplier of each step, an odd number. -/
def prime : UInt64 := 0x100000001b3

/-- Take in one byte. -/
def step (hash : UInt64) (byte : UInt8) : UInt64 :=
  (hash ^^^ byte.toUInt64) * prime

/-- The hash of bytes. -/
def hash (bytes : List UInt8) : UInt64 :=
  bytes.foldl step start

/-- The fingerprint of a text. -/
def ofText (text : String) : String :=
  String.ofList (Hex.padded 16 (hash text.toByteArray.data.toList).toNat)

end Fingerprint
end TokenLaunch
