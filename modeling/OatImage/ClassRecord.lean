import OatImage.Region

/-!
# Class records

The record of a class holds its status, how much of it was compiled, for a partly
compiled class a bitmap with one bit a method, and then the table of code offsets of the
compiled methods. The table has no stored length: an entry is read when it is asked for,
and entry number k belongs to the k-th method whose bit is set.
-/
namespace OatImage

inductive Coverage
  | all
  | some
  | none
deriving DecidableEq, Repr

namespace Coverage

def ofCode? : Nat → Option Coverage
  | 0 => Option.some .all
  | 1 => Option.some .some
  | 2 => Option.some .none
  | _ => Option.none

def code : Coverage → Nat
  | .all => 0
  | .some => 1
  | .none => 2

def name : Coverage → String
  | .all => "ALL_COMPILED"
  | .some => "SOME_COMPILED"
  | .none => "NONE_COMPILED"

def reportName : Coverage → String
  | .all => "all_compiled"
  | .some => "some_compiled"
  | .none => "none_compiled"

end Coverage

/-- A decoded class record. The bitmap is there for partial coverage, the table unless
nothing was compiled. -/
structure ClassRecord where
  address : Int
  status : Int
  coverage : Coverage
  bitmap : Option (List UInt8)
  table : Option Int
deriving DecidableEq, Repr

structure CodeSlot where
  address : Int
  codeOffset : Nat
deriving DecidableEq, Repr

def CodeSlot.describe (s : CodeSlot) : String :=
  "OatMethodOffsets(address=" ++ Numeral.hex s.address ++ ", code_offset=" ++
    Numeral.hex s.codeOffset ++ ")"

/-! Bitmaps of methods. A negative position counts from the end of the bytes. -/

namespace Bitmap

def popCount (b : UInt8) : Nat :=
  (List.range 8).countP fun i => b.toNat.testBit i

/-- The byte at a position; a negative one counts from the end. -/
def byteAt? (bitmap : List UInt8) (position : Int) : Option UInt8 :=
  let position := if position < 0 then position + bitmap.length else position
  if position < 0 then none else bitmap[position.toNat]?

/-- The bytes before a position; a negative one counts from the end. -/
def bytesBefore (bitmap : List UInt8) (position : Int) : List UInt8 :=
  let position := if position < 0 then position + bitmap.length else position
  bitmap.take position.toNat

/-- The bit of a method. A method beyond the bitmap has none set. -/
def isSet (bitmap : List UInt8) (method : Int) : Decode Bool :=
  let position := method / 8
  if (bitmap.length : Int) ≤ position then .ok false
  else
    match byteAt? bitmap position with
    | some b => .ok (b.toNat.testBit (method % 8).toNat)
    | none => .error (.broken .bitmapAt)

def rank (bitmap : List UInt8) (method : Int) : Decode Nat :=
  let full := method / 8
  let rest := (method % 8).toNat
  let below := Numeral.total ((bytesBefore bitmap full).map popCount)
  if rest = 0 then .ok below
  else
    match byteAt? bitmap full with
    | some b => .ok (below + popCount (UInt8.ofNat (b.toNat % Nat.pow 2 rest)))
    | none => .error (.broken .bitmapAt)

end Bitmap

namespace ClassRecord

/-- Reads the record at an address. Every class has one, so no address is a failure. -/
def decode (r : Region) : Option Int → Decode ClassRecord
  | none => .error (.decode { cause := .zeroClassOffset })
  | some address => do
    let status ← r.i16 address "OatClass status"
    let code ← r.u16 (address + 2) "OatClass type"
    match Coverage.ofCode? code with
    | none => .error (.inImage (.unknownClassKind code) address)
    | some .none => pure ⟨address, status, .none, none, none⟩
    | some .all => pure ⟨address, status, .all, none, some (address + 4)⟩
    | some .some =>
      let size ← r.u32 (address + 4) "OatClass bitmap size"
      let bitmap ← r.readBytes (address + 8) size "OatClass bitmap"
      pure ⟨address, status, .some, some bitmap, some (address + 8 + size)⟩

/-- The entry in the table that belongs to a method, if it was compiled. -/
def entryIndex (c : ClassRecord) (method : Int) : Decode (Option Int) :=
  match c.bitmap with
  | none => .ok (some method)
  | some bitmap => do
    if ← Bitmap.isSet bitmap method then
      let below ← Bitmap.rank bitmap method
      pure (some (below : Int))
    else pure none

/-- The code slot of a method; none if the method was left to the interpreter. -/
def codeSlot (r : Region) (c : ClassRecord) (method : Int) : Decode (Option CodeSlot) :=
  match c.table with
  | none => .ok none
  | some table => do
    match ← c.entryIndex method with
    | none => pure none
    | some entry =>
      let address := table + 4 * entry
      pure (some ⟨address, ← r.u32 address "OatMethodOffsets"⟩)

/-- The bytes of a record before its table. -/
def encode (status : Int) (coverage : Coverage) (bitmap : List UInt8) : List UInt8 :=
  toBytesLE 2 (status % 0x10000).toNat ++ toBytesLE 2 coverage.code ++
    match coverage with
    | .some => toBytesLE 4 bitmap.length ++ bitmap
    | _ => []

end ClassRecord

end OatImage
