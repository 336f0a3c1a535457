import OatImage.Region

/-!
# ULEB128 numbers

A number is written in groups of seven bits, the lowest first, one group a byte; the top
bit is set on every byte but the last. A reader takes at most five bytes, so a number
lies below 2 ^ 35.
-/
namespace OatImage

namespace Region

/-- Reads a ULEB128 number that began at `start` and may take `left` more bytes: seven
bits a byte, the lowest first, the top bit set on every byte but the last. -/
def ulebFrom (r : Region) (what : String) (start : Int) :
    (left : Nat) → (cursor : Int) → Decode (Nat × Int)
  | 0, _ => .error (.inImage (.longNumber what) start)
  | left + 1, cursor => do
    r.check cursor 1 what
    let b ← r.byteAt cursor
    if b < 0x80 then pure (b.toNat, cursor + 1)
    else
      let (high, next) ← r.ulebFrom what start left (cursor + 1)
      pure (b.toNat % 128 + 128 * high, next)

/-- The ULEB128 number at an address, and the address after it. It takes at most five
bytes. -/
def uleb128 (r : Region) (address : Int) (what : String) : Decode (Nat × Int) :=
  r.ulebFrom what address 5 address

end Region

namespace Uleb128

/-- The shortest ULEB128 form of a number. -/
def encode (n : Nat) : List UInt8 :=
  if n < 128 then [UInt8.ofNat n]
  else UInt8.ofNat (n % 128 + 128) :: encode (n / 128)
termination_by n
decreasing_by omega

end Uleb128

end OatImage
