/-
# Random identifiers

A random identifier is made of sixteen bytes, of which six bits say that it is one; it is written
in hexadecimal digits with dashes between its five parts.
-/
import TokenLaunch.Text.Hex

namespace TokenLaunch
namespace Uuid

/-- The bytes of an identifier with the bits that say that they are random. -/
def stamped (bs : List UInt8) : List UInt8 :=
  bs.mapIdx fun i b =>
    if i = 6 then 0x40 + b % 0x10 else if i = 8 then 0x80 + b % 0x40 else b

@[simp] theorem length_stamped (bs : List UInt8) : (stamped bs).length = bs.length := by
  simp [stamped]

/-- The lengths of the five parts in bytes. -/
def parts : List Nat := [4, 2, 2, 2, 6]

/-- Bytes in parts of given lengths. -/
def split : List Nat → List UInt8 → List (List UInt8)
  | [], _ => []
  | n :: ns, bs => bs.take n :: split ns (bs.drop n)

/-- The identifier that sixteen random bytes make. -/
def ofRandom (bs : List UInt8) : String :=
  String.ofList (['-'].intercalate ((split parts (stamped bs)).map Hex.ofBytes))

end Uuid
end TokenLaunch
