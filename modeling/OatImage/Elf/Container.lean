import OatImage.InstructionSet
import OatImage.Region

/-!
# ELF containers

An image may be wrapped in an ELF file of either word size and byte order. Reading the file
collects its sections, its segments and the symbols of its symbol tables. Each table is
read up to the first entry that crosses the end of the file. Reading a file again adds its
sections and segments once more.
-/
namespace OatImage.Elf

structure Section where
  kind : Nat
  offset : Nat
  size : Nat
  link : Nat
  entrySize : Nat
deriving DecidableEq, Repr

structure Segment where
  kind : Nat
  offset : Nat
  address : Nat
  fileSize : Nat
  memorySize : Nat
deriving DecidableEq, Repr

structure Symbol where
  name : String
  value : Nat
  size : Nat
deriving DecidableEq, Repr

def Symbol.describe (s : Symbol) : String :=
  "ElfSymbol(" ++ Quoted.text s.name ++ ", value=" ++ Numeral.hex s.value ++ ", size=" ++
    Numeral.decimal s.size ++ ")"

structure Container where
  data : ByteArray
  /-- Addresses take eight bytes. -/
  wide : Bool := false
  bigEndian : Bool := false
  machine : Nat := 0
  sections : List Section := []
  segments : List Segment := []
  /-- The entries of the symbol tables in the order in which they were read. -/
  symbols : List Symbol := []
  isRead : Bool := false

/-- The byte 0x7F and the letters `ELF`. -/
def magicBytes : List UInt8 := [0x7F, 0x45, 0x4C, 0x46]

def symbolTable : Nat := 2

def dynamicSymbolTable : Nat := 11

def loadable : Nat := 1

/-- The longest part of a symbol's name that is read. -/
def nameLimit : Nat := 256

namespace Container

/-- The bytes of the file in `[start, stop)`, as many as there are. -/
def bytes (c : Container) (start stop : Nat) : List UInt8 := (cut c.data start stop).toList

/-- The word of `width` bytes at an offset, in the byte order of the file. -/
def word (c : Container) (offset width : Nat) : Nat :=
  let stored := c.bytes offset (offset + width)
  ofBytesLE (if c.bigEndian then stored.reverse else stored)

/-- `[offset, offset + size)` lies in the file. -/
def holds (c : Container) (offset size : Nat) : Bool := offset + size ≤ c.data.size

def address (c : Container) (offset : Nat) : Nat := c.word offset (if c.wide then 8 else 4)

def place (c : Container) (narrow wide : Nat) : Nat := if c.wide then wide else narrow

def headerSize (c : Container) : Nat := c.place 52 64

def sectionSize (c : Container) : Nat := c.place 40 64

def segmentSize (c : Container) : Nat := c.place 32 56

def symbolSize (c : Container) : Nat := c.place 16 24

/-- The entries of a table, one every `stride` bytes, up to the first that crosses the end
of the file. -/
def entries {α : Type} (c : Container) (size stride : Nat) (decode : Nat → α) :
    (count offset : Nat) → List α
  | 0, _ => []
  | count + 1, offset =>
    if c.holds offset size then
      decode offset :: c.entries size stride decode count (offset + stride)
    else []

def sectionAt (c : Container) (at_ : Nat) : Section :=
  { kind := c.word (at_ + 4) 4
    offset := c.address (at_ + c.place 16 24)
    size := c.address (at_ + c.place 20 32)
    link := c.word (at_ + c.place 24 40) 4
    entrySize := c.address (at_ + c.place 36 56) }

def segmentAt (c : Container) (at_ : Nat) : Segment :=
  { kind := c.word at_ 4
    offset := c.address (at_ + c.place 4 8)
    address := c.address (at_ + c.place 8 16)
    fileSize := c.address (at_ + c.place 16 32)
    memorySize := c.address (at_ + c.place 20 40) }

/-- The section headers of the file; a table at offset zero is no table. -/
def sectionTable (c : Container) : List Section :=
  let offset := c.address (c.place 32 40)
  if offset = 0 then []
  else
    c.entries c.sectionSize (c.word (c.place 46 58) 2) c.sectionAt (c.word (c.place 48 60) 2)
      offset

/-- The program headers of the file; a table at offset zero is no table. -/
def segmentTable (c : Container) : List Segment :=
  let offset := c.address (c.place 28 32)
  if offset = 0 then []
  else
    c.entries c.segmentSize (c.word (c.place 42 54) 2) c.segmentAt (c.word (c.place 44 56) 2)
      offset

/-- The string table a symbol table is linked to; empty unless all of it is in the file. -/
def linkedNames (c : Container) (table : Section) : List UInt8 :=
  match c.sections[table.link]? with
  | none => []
  | some names =>
    if c.holds names.offset names.size then c.bytes names.offset (names.offset + names.size)
    else []

/-- The name at an offset of a string table: the bytes before the next zero byte. -/
def nameAt (names : List UInt8) (offset : Nat) : String :=
  Ascii.decodeReplacing (((names.drop offset).take nameLimit).takeWhile (· ≠ 0))

def symbolAt (c : Container) (names : List UInt8) (at_ : Nat) : Symbol :=
  { name := nameAt names (c.word at_ 4)
    value := c.address (at_ + c.place 4 8)
    size := c.address (at_ + c.place 8 16) }

def tableSymbols (c : Container) (table : Section) : List Symbol :=
  let names := c.linkedNames table
  if table.entrySize = 0 || names.isEmpty then []
  else
    (c.entries c.symbolSize table.entrySize (c.symbolAt names) (table.size / table.entrySize)
      table.offset).filter fun s => s.name ≠ ""

/-- The symbols of all tables, those of shared objects first. -/
def allSymbols (c : Container) : List Symbol :=
  [dynamicSymbolTable, symbolTable].flatMap fun kind =>
    (c.sections.filter fun s => s.kind = kind).flatMap c.tableSymbols

/-- Reads the file. False means that it is no ELF file or ends before its header does. -/
def read (c : Container) : Bool × Container :=
  if c.data.size < 16 || c.bytes 0 4 ≠ magicBytes then (false, c)
  else
    let c := { c with wide := c.word 4 1 = 2, bigEndian := c.word 5 1 ≠ 1 }
    if !c.holds 0 c.headerSize then (false, c)
    else
      let c := { c with
        machine := c.word 18 2
        sections := c.sections ++ c.sectionTable
        segments := c.segments ++ c.segmentTable }
      (true, { c with symbols := c.symbols ++ c.allSymbols, isRead := true })

def instructionSet (c : Container) : InstructionSet :=
  match c.machine with
  | 3 => .x86
  | 8 => if c.wide then .mips64 else .mips
  | 40 => .thumb2
  | 62 => .x86_64
  | 183 => .arm64
  | _ => .none

/-- The symbol with a name; the first one read if several have it. -/
def symbol (c : Container) (name : String) : Option Symbol :=
  c.symbols.find? fun s => s.name = name

end Container

end OatImage.Elf
