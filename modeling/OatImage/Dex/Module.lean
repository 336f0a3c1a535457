import OatImage.Text.ModifiedUtf8
import OatImage.Uleb128

/-!
# DEX modules

A module embedded in an image starts with a magic, a version and a header of 112 bytes
that gives the sizes and offsets of its tables. Everything else is read when it is asked
for, through a window that starts at the module and has its declared size, so that no
answer depends on a byte outside the module. Offsets count from the start of the module.
-/
namespace OatImage.Dex

/-- The bytes `dex` and a line feed. -/
def magicBytes : List UInt8 := [0x64, 0x65, 0x78, 0x0A]

/-- The versions 035 to 039, each with a zero byte. -/
def supportedVersions : List (List UInt8) := [
  [0x30, 0x33, 0x35, 0], [0x30, 0x33, 0x36, 0], [0x30, 0x33, 0x37, 0],
  [0x30, 0x33, 0x38, 0], [0x30, 0x33, 0x39, 0]]

def headerSize : Nat := 112

def endianTag : Nat := 0x12345678

/-- Fails unless the magic and a supported version stand at an address. -/
def checkSignature (r : Region) (address : Int) : Decode Unit := do
  let head ← Decode.asModule (r.readBytes address 8 "DEX magic")
  if head.take 4 ≠ magicBytes then .error (.inModule .badDexMagic address)
  else if (head.drop 4) ∉ supportedVersions then
    .error (.inModule (.unsupportedDexVersion ((head.drop 4).take 3)) address)
  else pure ()

/-- The number of class definitions, read ahead of the rest of the module: it sizes the
table of class offsets in the record of a dex file. -/
def classDefCount (r : Region) (address : Int) : Decode Nat := do
  checkSignature r address
  Decode.asModule (r.u32 (address + 96) "DEX class_defs_size")

/-- A table of a module: how many entries it has and where it starts. -/
structure Table where
  count : Nat
  offset : Nat
deriving DecidableEq, Repr

structure Module where
  window : Region
  address : Int
  version : String
  fileSize : Nat
  strings : Table
  types : Table
  prototypes : Table
  methods : Table
  classDefs : Table

def Table.has (t : Table) (index : Int) : Bool := 0 ≤ index && index < t.count

namespace Module

def ofWindow (window : Region) (address : Int) : Decode Module := do
  let versionBytes ← window.readBytes (address + 4) 3 "DEX version"
  match Ascii.decode? versionBytes with
  | none => .error (.broken .versionText)
  | some version =>
    match ← Decode.asModule (window.u32s (address + 32) 3 "DEX header") with
    | [fileSize, _, tag] =>
      if tag ≠ endianTag then .error (.inModule (.unsupportedEndianTag tag) address)
      else
        match ← Decode.asModule (window.u32s (address + 56) 12 "DEX header") with
        | [a, b, c, d, e, f, _, _, g, h, i, j] =>
          pure { window, address, version, fileSize, strings := ⟨a, b⟩, types := ⟨c, d⟩,
                 prototypes := ⟨e, f⟩, methods := ⟨g, h⟩, classDefs := ⟨i, j⟩ }
        | _ => .error (.broken .unpack)
    | _ => .error (.broken .unpack)

/-- Opens the module at an address: checks its signature, cuts out its window, which is at
least as long as the header, and reads the header. -/
def load (r : Region) (address : Int) : Decode Module := do
  checkSignature r address
  let declared ← Decode.asModule (r.u32 (address + 32) "DEX file_size")
  let size := max declared headerSize
  let window ← Decode.asModule (r.window address size "DEX module")
  ofWindow window address

def addressOf (m : Module) (offset : Int) : Int := m.address + offset

def u16 (m : Module) (address : Int) (what : String) : Decode Nat :=
  Decode.asModule (m.window.u16 address what)

def u32 (m : Module) (address : Int) (what : String) : Decode Nat :=
  Decode.asModule (m.window.u32 address what)

def u32s (m : Module) (address : Int) (count : Int) (what : String) : Decode (List Nat) :=
  Decode.asModule (m.window.u32s address count what)

def uleb128 (m : Module) (address : Int) : Decode (Nat × Int) :=
  Decode.asModule (m.window.uleb128 address "class_data ULEB128")

/-- Reads the string data at an offset: its length, which is not needed, and its bytes up
to a zero byte. -/
def stringData (m : Module) (offset : Nat) : Decode Text := do
  let (_, start) ← m.uleb128 (m.addressOf offset)
  let zero := m.window.findByte start 0 m.window.stop
  if zero < 0 then .error (.inModule .unterminatedString start)
  else
    let bytes ← m.window.readBytes start (zero - start) "read"
    match ModifiedUtf8.decode bytes with
    | .ok text => pure text
    | .error flaw => .error (.inModule (.malformedString flaw) start)

def string (m : Module) (index : Int) : Decode Text :=
  if !m.strings.has index then .error (.ofIndex .noString index)
  else do
    let offset ← m.u32 (m.addressOf (m.strings.offset + index * 4)) "string_id"
    m.stringData offset

def typeName (m : Module) (index : Int) : Decode Nat :=
  if !m.types.has index then .error (.ofIndex .noType index)
  else m.u32 (m.addressOf (m.types.offset + index * 4)) "type_id"

def typeDescriptor (m : Module) (index : Int) : Decode Text := do
  m.string (← m.typeName index)

structure MethodId where
  prototype : Nat
  name : Nat
deriving DecidableEq, Repr

def methodId (m : Module) (index : Int) : Decode MethodId :=
  if !m.methods.has index then .error (.ofIndex .noMethod index)
  else do
    let address := m.addressOf (m.methods.offset + index * 8)
    let _class ← m.u16 address "method_id"
    let prototype ← m.u16 (address + 2) "method_id"
    let name ← m.u32 (address + 4) "method_id"
    pure ⟨prototype, name⟩

def methodName (m : Module) (index : Int) : Decode Text := do
  m.string (← m.methodId index).name

/-- The type index of a prototype's result, and the offset of its list of parameters. -/
structure Prototype where
  result : Nat
  parameters : Nat
deriving DecidableEq, Repr

def prototype (m : Module) (index : Nat) : Decode Prototype :=
  if !m.prototypes.has index then .error (.ofIndex .noPrototype index)
  else do
    match ← m.u32s (m.addressOf (m.prototypes.offset + index * 12)) 3 "proto_id" with
    | [_, result, parameters] => pure ⟨result, parameters⟩
    | _ => .error (.broken .unpack)

/-- The descriptors of `count` types listed from an address on. -/
def typeList (m : Module) : (count : Nat) → (address : Int) → Decode (List Text)
  | 0, _ => .ok []
  | count + 1, address => do
    let index ← m.u16 address "type_list"
    let first ← m.typeDescriptor index
    let rest ← m.typeList count (address + 2)
    pure (first :: rest)

/-- The parameter descriptors of a prototype; an offset of zero stands for none. -/
def parameters (m : Module) (p : Prototype) : Decode (List Text) :=
  if p.parameters = 0 then .ok []
  else do
    let address := m.addressOf p.parameters
    let count ← m.u32 address "type_list"
    m.typeList count (address + 4)

/-- A signature: the parameters in parentheses, then the result. -/
def signatureText (parameters : List Text) (result : Text) : Text :=
  Text.ofString "(" ++ parameters.flatten ++ Text.ofString ")" ++ result

def methodSignature (m : Module) (index : Int) : Decode Text := do
  let p ← m.prototype (← m.methodId index).prototype
  let parameters ← m.parameters p
  let result ← m.typeDescriptor p.result
  pure (signatureText parameters result)

end Module

end OatImage.Dex
