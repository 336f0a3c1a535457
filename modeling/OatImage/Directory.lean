import OatImage.Dex.Module
import OatImage.Image
import OatImage.Journal

/-!
# The directory of dex files

The records of the dex files are packed one after the other behind the key-value store.
The length of a record is known only once it is decoded: it holds a location of any length
and one class offset for each class definition of the module it points at. So the record
with a position is reached by decoding those before it, and a record that does not decode
ends the walk.
-/
namespace OatImage

structure Record where
  location : List UInt8
  checksum : Nat
  dexOffset : Nat
  dexPointer : Int
  classOffsets : List Nat
  address : Int
  size : Int
deriving DecidableEq, Repr

namespace Record

def locationText (r : Record) : String := Utf8.decodeReplacing r.location

/-- The bytes of a record, field after field. -/
def encode (location : List UInt8) (checksum dexOffset : Nat) (classOffsets : List Nat) :
    List UInt8 :=
  toBytesLE 4 location.length ++ location ++ toBytesLE 4 checksum ++ toBytesLE 4 dexOffset ++
    classOffsets.flatMap (toBytesLE 4)

end Record

structure DexFile where
  index : Nat
  record : Record
deriving DecidableEq, Repr

namespace DexFile

def location (f : DexFile) : String := f.record.locationText

def describe (f : DexFile) : String :=
  "OatDexFile(index=" ++ Numeral.decimal f.index ++ ", location=" ++ Quoted.text f.location ++
    ")"

def module (image : Image) (f : DexFile) : Decode Dex.Module :=
  Dex.Module.load image.region f.record.dexPointer

end DexFile

/-- A walk through the records: how many were passed, where the next one starts, and
whether the walk is over. -/
structure Walk where
  index : Nat
  cursor : Int
  ended : Bool
deriving DecidableEq, Repr

/-- What a walk found: the records that decode, and the failure that ended it if one did. -/
structure Walked where
  files : List DexFile
  failure : Option Fault
  entries : List Entry

namespace Image

/-- Decodes the record at an address. The answer holds the address after it. -/
def decodeNext (image : Image) (cursor : Int) : Decode (Record × Int) := do
  let length ← image.region.u32 cursor "dex file location size"
  let location ← image.region.readBytes (cursor + 4) length "dex file location"
  let rest := cursor + 4 + length
  let checksum ← image.region.u32 rest "dex file location checksum"
  let dexOffset ← image.region.u32 (rest + 4) "dex file offset"
  match image.pointer dexOffset with
  | none => .error (.inImage .zeroDexOffset (rest + 4))
  | some dexPointer =>
    let count ← Dex.classDefCount image.region dexPointer
    let classOffsets ← image.region.u32s (rest + 8) count "class definition offsets"
    let next := rest + 8 + 4 * count
    pure ({ location, checksum, dexOffset, dexPointer, classOffsets, address := cursor
            size := next - cursor }, next)

def dexFileCount (image : Image) : Nat := image.header.dexFileCount

/-- The entry for a record that does not decode. -/
def recordEntry (index : Nat) (e : DecodeFault) : Entry :=
  { level := .error
    message := Text.ofString ("Error decoding oat dex file #" ++ Numeral.decimal index ++ ": " ++
      e.cause.message)
    context := { index := some (index : Int), address := e.address } }

/-- Decodes the record with a position at an address. A failure names the position. -/
def decodeEntry (image : Image) (index : Nat) (cursor : Int) : Logged (DexFile × Int) :=
  Logged.reporting
    (do
      let (record, next) ← image.decodeNext cursor
      pure (⟨index, record⟩, next))
    (recordEntry index)
    fun e => e.withContext (some index) none none

def walk (image : Image) : Walk := { index := 0, cursor := image.recordsStart, ended := false }

/-- The next record of a walk, none at the end. A failure ends the walk. -/
def advance (image : Image) (w : Walk) : Logged (Option DexFile) × Walk :=
  if w.ended || image.dexFileCount ≤ w.index then (pure none, { w with ended := true })
  else
    match image.decodeEntry w.index w.cursor with
    | ⟨entries, .ok (file, next)⟩ =>
      (⟨entries, .ok (some file)⟩, { index := w.index + 1, cursor := next, ended := false })
    | ⟨entries, .error e⟩ => (⟨entries, .error e⟩, { w with ended := true })

/-- Walks on for at most `left` records from a position and an address. -/
def walkFrom (image : Image) : (left index : Nat) → (cursor : Int) → Walked
  | 0, _, _ => ⟨[], none, []⟩
  | left + 1, index, cursor =>
    match image.decodeEntry index cursor with
    | ⟨entries, .ok (file, next)⟩ =>
      let rest := image.walkFrom left (index + 1) next
      ⟨file :: rest.files, rest.failure, entries ++ rest.entries⟩
    | ⟨entries, .error e⟩ => ⟨[], some e, entries⟩

/-- Every record of the image, in order, up to the first that does not decode. -/
def dexFiles (image : Image) : Walked := image.walkFrom image.dexFileCount 0 image.recordsStart

/-- Takes `skipped` records from a walk and drops them, then takes one more. -/
def takeAfter (image : Image) : (skipped : Nat) → Walk → Logged DexFile
  | 0, w => do
    match ← (image.advance w).1 with
    | some file => pure file
    | none => Logged.fail (.broken .finishedWalk)
  | skipped + 1, w =>
    match image.advance w with
    | (step, w) => do
      match ← step with
      | some _ => image.takeAfter skipped w
      | none => Logged.fail (.broken .finishedWalk)

/-- The dex file with an index. The records before it have to decode too. -/
def dexFile (image : Image) (index : Int) : Logged DexFile :=
  if index < 0 ∨ image.dexFileCount ≤ index then
    Logged.fail (.noDexFile index image.dexFileCount)
  else image.takeAfter index.toNat image.walk

/-- The first record with a location among at most `left` records. -/
def findFrom (image : Image) (location : List UInt8) :
    (left index : Nat) → (cursor : Int) → Logged (Option DexFile)
  | 0, _, _ => pure none
  | left + 1, index, cursor => do
    let (file, next) ← image.decodeEntry index cursor
    if file.record.location = location then pure (some file)
    else image.findFrom location left (index + 1) next

/-- The first dex file whose location has exactly these bytes. -/
def findDexFile (image : Image) (location : List UInt8) : Logged (Option DexFile) :=
  image.findFrom location image.dexFileCount 0 image.recordsStart

/-- The first dex file with a location. A location with a lone surrogate has no bytes to
compare with, and is refused before the walk begins. -/
def findDexFileNamed (image : Image) (location : Text) : Logged (Option DexFile) :=
  match Utf8.encode? location with
  | none => Logged.fail .unencodable
  | some bytes => image.findDexFile bytes

end Image

end OatImage
