import OatImage.Fault

/-!
# Bounds-checked regions

A region is a window `[begin, stop)` of absolute addresses over a buffer whose first byte
lies at `begin`. An address is any integer. Every read is checked against the window
first; a read that crosses an edge fails with the address that was asked for, and bytes
of the buffer beyond the window are cut off when the region is made.

A window may promise more bytes than its buffer holds. Reads of such a region that pass
the check end in `Fault.broken`; `Backed` says that this cannot happen.
-/
namespace OatImage

/-- A number from its bytes, the least significant first. -/
def ofBytesLE : List UInt8 → Nat
  | [] => 0
  | b :: rest => b.toNat + 256 * ofBytesLE rest

/-- The lowest `width` bytes of a number, the least significant first. -/
def toBytesLE : (width : Nat) → Nat → List UInt8
  | 0, _ => []
  | width + 1, n => UInt8.ofNat (n % 256) :: toBytesLE width (n / 256)

/-- A word of `width` bytes read as a two's complement number. -/
def signedWord (width n : Nat) : Int :=
  if n < Nat.pow 256 width / 2 then n else (n : Int) - Nat.pow 256 width

/-- The bytes of a buffer in `[start, stop)`, as many as there are. -/
def cut (buffer : ByteArray) (start stop : Nat) : ByteArray :=
  buffer.extract (min start buffer.size) (min stop buffer.size)

/-- Positions in a buffer are numbers of 64 bits with a sign. -/
def positionLimit : Nat := 0x8000000000000000

structure Region where
  bytes : ByteArray
  begin : Int
  stop : Int

namespace Region

/-- The window `[begin, stop)` over a buffer that starts at `begin`. -/
def ofBuffer (buffer : ByteArray) (begin stop : Int) : Region :=
  { bytes := cut buffer 0 (stop - begin).toNat, begin, stop }

/-- The number of addresses in the window; negative if its ends are the wrong way round. -/
def size (r : Region) : Int := r.stop - r.begin

/-- The buffer holds a byte for every address of the window. -/
def Backed (r : Region) : Prop := (r.bytes.size : Int) = r.stop - r.begin

/-- `[address, address + size)` lies in the window. -/
def contains (r : Region) (address size : Int) : Bool :=
  0 ≤ size && r.begin ≤ address && address + size ≤ r.stop

/-- Fails unless `[address, address + size)` lies in the window. -/
def check (r : Region) (address size : Int) (what : String) : Decode Unit :=
  if r.contains address size then .ok ()
  else .error (.inImage (.outside what r.begin r.stop size) address)

def offset (r : Region) (address : Int) : Nat := (address - r.begin).toNat

/-- At most `count` bytes of the buffer from a position on. -/
def slice (r : Region) : (start count : Nat) → List UInt8
  | _, 0 => []
  | start, count + 1 =>
    match r.bytes[start]? with
    | some b => b :: r.slice (start + 1) count
    | none => []

def readBytes (r : Region) (address : Int) (size : Int) (what : String) :
    Decode (List UInt8) := do
  r.check address size what
  pure (r.slice (r.offset address) size.toNat)

/-- Why words are not found at a position: no buffer has it, or this one ends before them. -/
def unpackFault (start : Nat) : Fault :=
  .broken (if positionLimit ≤ start then .unpackBeyond else .unpack)

/-- A little-endian word of `width` bytes in the buffer. -/
def unpack (r : Region) (start width : Nat) : Decode Nat :=
  let bytes := r.slice start width
  if bytes.length = width then .ok (ofBytesLE bytes) else .error (unpackFault start)

/-- The word of `width` bytes at an address. -/
def word (r : Region) (width : Nat) (address : Int) (what : String) : Decode Nat := do
  r.check address width what
  r.unpack (r.offset address) width

def u16 (r : Region) (address : Int) (what : String) : Decode Nat := r.word 2 address what

def u32 (r : Region) (address : Int) (what : String) : Decode Nat := r.word 4 address what

def i16 (r : Region) (address : Int) (what : String) : Decode Int := do
  pure (signedWord 2 (← r.word 2 address what))

def i32 (r : Region) (address : Int) (what : String) : Decode Int := do
  pure (signedWord 4 (← r.word 4 address what))

/-- `count` words of four bytes in the buffer, one after the other. -/
def words (r : Region) : (start count : Nat) → List Nat
  | _, 0 => []
  | start, count + 1 => ofBytesLE (r.slice start 4) :: r.words (start + 4) count

/-- `count` words of four bytes in the buffer, all of which it has to hold. Not even an
empty list of words is found behind the end of the buffer. -/
def unpackAll (r : Region) (start count : Nat) : Decode (List Nat) :=
  if start + 4 * count ≤ r.bytes.size then .ok (r.words start count)
  else if positionLimit ≤ 4 * count then .error (.broken .unpack)
  else .error (unpackFault start)

/-- The words of four bytes at an address. One check covers them all. -/
def u32s (r : Region) (address : Int) (count : Int) (what : String) : Decode (List Nat) := do
  r.check address (count * 4) what
  r.unpackAll (r.offset address) count.toNat

def byteAt (r : Region) (address : Int) : Decode UInt8 :=
  match r.bytes[r.offset address]? with
  | some b => .ok b
  | none =>
    .error (.broken (if r.offset address < positionLimit then .byteAt else .byteBeyond))

/-- The first position of a byte among `count` positions from `start` on. -/
def seek (r : Region) (value : UInt8) : (start count : Nat) → Option Nat
  | _, 0 => none
  | start, count + 1 =>
    match r.bytes[start]? with
    | some b => if b = value then some start else r.seek value (start + 1) count
    | none => none

/-- The addresses from one up to a limit, which is brought down to the end of the window,
are some and lie in the window. -/
def covers (r : Region) (address limit : Int) : Bool :=
  r.begin ≤ address && address < min limit r.stop

/-- The address of the first byte of a value in `[address, limit)`, and -1 if there is
none. The limit is brought down to the end of the window. -/
def findByte (r : Region) (address : Int) (value : UInt8) (limit : Int) : Int :=
  if r.covers address limit then
    match r.seek value (r.offset address) (min limit r.stop - address).toNat with
    | some position => r.begin + position
    | none => -1
  else -1

/-- The same search for any number. One that is no byte is an error where there are bytes
to be searched. -/
def findValue (r : Region) (address value limit : Int) : Decode Int :=
  if !r.covers address limit then .ok (-1)
  else if 0 ≤ value && value < 256 then
    .ok (r.findByte address (UInt8.ofNat value.toNat) limit)
  else .error (.broken .notByte)

/-- The part of a region at an address, as a region of its own. -/
def window (r : Region) (address : Int) (size : Int) (what : String) : Decode Region := do
  r.check address size what
  let start := r.offset address
  let bytes := cut r.bytes start (start + size.toNat)
  pure { bytes, begin := address, stop := address + bytes.size }

end Region

end OatImage
