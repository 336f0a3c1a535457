import OatImage.Elf.Span
import OatImage.Proofs.Placed

/-!
# The layout of an ELF file

An ELF file writes its numbers in one of four encodings: addresses take four or eight bytes,
and the bytes of a number stand in either order. The header, the section headers, the program
headers and the symbols have their fields in an order of their own for each address width.
`IsFile` says of a list of bytes that it is such a file with given headers, `Exports` that a
symbol table of it has symbols with given names, and `Wraps` that the file puts an image
between two of its symbols. What else the file holds, and where its parts lie, is left open.
-/
namespace OatImage.Elf

/-- How a file writes numbers. -/
structure Encoding where
  /-- Addresses take eight bytes. -/
  wide : Bool
  bigEndian : Bool
deriving DecidableEq, Repr

namespace Encoding

def place (e : Encoding) (narrow wide : Nat) : Nat := if e.wide then wide else narrow

def addressWidth (e : Encoding) : Nat := e.place 4 8

def number (e : Encoding) (width n : Nat) : List UInt8 :=
  if e.bigEndian then (toBytesLE width n).reverse else toBytesLE width n

def address (e : Encoding) (n : Nat) : List UInt8 := e.number e.addressWidth n

/-- A number fits into an address. -/
def IsAddress (e : Encoding) (n : Nat) : Prop := n < Nat.pow 256 e.addressWidth

instance (e : Encoding) (n : Nat) : Decidable (e.IsAddress n) :=
  inferInstanceAs (Decidable (_ < _))

@[simp] theorem length_number (e : Encoding) (width n : Nat) :
    (e.number width n).length = width := by
  unfold number
  by_cases h : e.bigEndian = true
  · rw [if_pos h, List.length_reverse, length_toBytesLE]
  · rw [if_neg h, length_toBytesLE]

@[simp] theorem length_address (e : Encoding) (n : Nat) : (e.address n).length = e.addressWidth :=
  e.length_number _ n

/-! Sizes and offsets, for both widths at once. -/

theorem place_lt {e : Encoding} {narrow wide bound : Nat} (hn : narrow < bound)
    (hw : wide < bound) : e.place narrow wide < bound := by
  unfold place
  cases e.wide
  · exact hn
  · exact hw

theorem le_place {e : Encoding} {narrow wide bound : Nat} (hn : bound ≤ narrow)
    (hw : bound ≤ wide) : bound ≤ e.place narrow wide := by
  unfold place
  cases e.wide
  · exact hn
  · exact hw

@[simp] theorem add_addressWidth (e : Encoding) (n : Nat) :
    n + e.addressWidth = e.place (n + 4) (n + 8) := by
  unfold addressWidth place
  cases e.wide <;> rfl

@[simp] theorem place_add (e : Encoding) (narrow wide n : Nat) :
    e.place narrow wide + n = e.place (narrow + n) (wide + n) := by
  unfold place
  cases e.wide <;> rfl

@[simp] theorem place_place (e : Encoding) (narrow wide narrow' wide' : Nat) :
    e.place (e.place narrow wide') (e.place narrow' wide) = e.place narrow wide := by
  unfold place
  cases e.wide <;> rfl

def sectionSize (e : Encoding) : Nat := e.place 40 64

def segmentSize (e : Encoding) : Nat := e.place 32 56

def symbolSize (e : Encoding) : Nat := e.place 16 24

end Encoding

/-- The header of a file. A table is given by its offset, the size of an entry and the number
of entries. -/
structure FileHeader where
  /-- The bytes of the identification behind the class and the byte order. -/
  identification : List UInt8
  kind : Nat
  machine : Nat
  version : Nat
  entry : Nat
  segmentTable : Nat
  sectionTable : Nat
  flags : Nat
  headerSize : Nat
  segmentSize : Nat
  segmentCount : Nat
  sectionSize : Nat
  sectionCount : Nat
  sectionNames : Nat

def FileHeader.encode (e : Encoding) (h : FileHeader) : List UInt8 :=
  magicBytes ++ [if e.wide then 2 else 1] ++ [if e.bigEndian then 2 else 1] ++
    h.identification ++ e.number 2 h.kind ++ e.number 2 h.machine ++ e.number 4 h.version ++
    e.address h.entry ++ e.address h.segmentTable ++ e.address h.sectionTable ++
    e.number 4 h.flags ++ e.number 2 h.headerSize ++ e.number 2 h.segmentSize ++
    e.number 2 h.segmentCount ++ e.number 2 h.sectionSize ++ e.number 2 h.sectionCount ++
    e.number 2 h.sectionNames

@[simp] theorem length_magicBytes : magicBytes.length = 4 := rfl

/-- The header begins with its magic, the class and the byte order. -/
theorem FileHeader.start_of_at {e : Encoding} {file : List UInt8} {p : FileHeader}
    (h : At file 0 (p.encode e)) :
    At file 0 magicBytes ∧ At file 4 [if e.wide then 2 else 1] ∧
      At file 5 [if e.bigEndian then 2 else 1] := by
  delta encode at h
  simp only [At.append, List.length_append] at h
  obtain ⟨⟨⟨⟨⟨⟨⟨⟨⟨⟨⟨⟨⟨⟨⟨⟨magic, width⟩, order⟩, _⟩, _⟩, _⟩, _⟩, _⟩, _⟩, _⟩, _⟩, _⟩, _⟩, _⟩, _⟩,
    _⟩, _⟩ := h
  exact ⟨magic, width, order⟩

theorem FileHeader.length_encode {e : Encoding} {p : FileHeader}
    (hlen : p.identification.length = 10) : (p.encode e).length = e.place 52 64 := by
  delta encode
  simp only [List.length_append, List.length_singleton, length_magicBytes, hlen,
    Encoding.length_number, Encoding.length_address, Encoding.add_addressWidth,
    Encoding.place_add, Encoding.place_place, Nat.reduceAdd]

/-- The offsets of what the header says about the tables. -/
theorem FileHeader.fields_of_at {e : Encoding} {file : List UInt8} {p : FileHeader}
    (hlen : p.identification.length = 10) (h : At file 0 (p.encode e)) :
    At file 18 (e.number 2 p.machine) ∧
      At file (e.place 28 32) (e.address p.segmentTable) ∧
      At file (e.place 32 40) (e.address p.sectionTable) ∧
      At file (e.place 42 54) (e.number 2 p.segmentSize) ∧
      At file (e.place 44 56) (e.number 2 p.segmentCount) ∧
      At file (e.place 46 58) (e.number 2 p.sectionSize) ∧
      At file (e.place 48 60) (e.number 2 p.sectionCount) := by
  delta encode at h
  simp only [At.append, List.length_append, List.length_singleton, length_magicBytes, hlen,
    Encoding.length_number, Encoding.length_address, Encoding.add_addressWidth,
    Encoding.place_add, Encoding.place_place, Nat.reduceAdd, Nat.zero_add] at h
  obtain ⟨⟨⟨⟨⟨⟨⟨⟨⟨⟨⟨⟨_, machine⟩, _⟩, _⟩, segmentTable⟩, sectionTable⟩, _⟩, _⟩, segmentSize⟩,
    segmentCount⟩, sectionSize⟩, sectionCount⟩, _⟩ := h
  exact ⟨machine, segmentTable, sectionTable, segmentSize, segmentCount, sectionSize,
    sectionCount⟩

/-- A section with the fields of its header that are not looked at. -/
structure SectionHeader extends Section where
  name : Nat
  flags : Nat
  address : Nat
  info : Nat
  alignment : Nat

namespace SectionHeader

def encode (e : Encoding) (s : SectionHeader) : List UInt8 :=
  e.number 4 s.name ++ e.number 4 s.kind ++ e.address s.flags ++ e.address s.address ++
    e.address s.offset ++ e.address s.size ++ e.number 4 s.link ++ e.number 4 s.info ++
    e.address s.alignment ++ e.address s.entrySize

/-- The fields hold their values. -/
def Fits (e : Encoding) (s : SectionHeader) : Prop :=
  IsWord s.kind ∧ e.IsAddress s.offset ∧ e.IsAddress s.size ∧ IsWord s.link ∧
    e.IsAddress s.entrySize

instance (e : Encoding) (s : SectionHeader) : Decidable (s.Fits e) :=
  inferInstanceAs (Decidable (_ ∧ _))

theorem fields_of_at {e : Encoding} {bytes : List UInt8} {o : Nat} {s : SectionHeader}
    (h : At bytes o (s.encode e)) :
    At bytes (o + 4) (e.number 4 s.kind) ∧
      At bytes (o + e.place 16 24) (e.address s.offset) ∧
      At bytes (o + e.place 20 32) (e.address s.size) ∧
      At bytes (o + e.place 24 40) (e.number 4 s.link) ∧
      At bytes (o + e.place 36 56) (e.address s.entrySize) := by
  simp only [encode, At.append, List.length_append, Encoding.length_number,
    Encoding.length_address, Encoding.add_addressWidth, Encoding.place_add,
    Encoding.place_place, Nat.reduceAdd] at h
  obtain ⟨⟨⟨⟨⟨⟨⟨⟨⟨_, kind⟩, _⟩, _⟩, offset⟩, size⟩, link⟩, _⟩, _⟩, entrySize⟩ := h
  exact ⟨kind, offset, size, link, entrySize⟩

theorem length_encode (e : Encoding) (s : SectionHeader) :
    (s.encode e).length = e.sectionSize := by
  simp only [encode, List.length_append, Encoding.length_number, Encoding.length_address,
    Encoding.add_addressWidth, Encoding.place_add, Encoding.place_place, Nat.reduceAdd,
    Encoding.sectionSize]

end SectionHeader

/-- A segment with the fields of its header that are not looked at. -/
structure SegmentHeader extends Segment where
  flags : Nat
  physical : Nat
  alignment : Nat

namespace SegmentHeader

/-- The flags stand second in a wide header and last but one in a narrow one. -/
def encode (e : Encoding) (s : SegmentHeader) : List UInt8 :=
  if e.wide then
    e.number 4 s.kind ++ e.number 4 s.flags ++ e.address s.offset ++ e.address s.address ++
      e.address s.physical ++ e.address s.fileSize ++ e.address s.memorySize ++
      e.address s.alignment
  else
    e.number 4 s.kind ++ e.address s.offset ++ e.address s.address ++ e.address s.physical ++
      e.address s.fileSize ++ e.address s.memorySize ++ e.number 4 s.flags ++
      e.address s.alignment

/-- The fields hold their values. -/
def Fits (e : Encoding) (s : SegmentHeader) : Prop :=
  IsWord s.kind ∧ e.IsAddress s.offset ∧ e.IsAddress s.address ∧ e.IsAddress s.fileSize ∧
    e.IsAddress s.memorySize

instance (e : Encoding) (s : SegmentHeader) : Decidable (s.Fits e) :=
  inferInstanceAs (Decidable (_ ∧ _))

theorem fields_of_at {e : Encoding} {bytes : List UInt8} {o : Nat} {s : SegmentHeader}
    (h : At bytes o (s.encode e)) :
    At bytes o (e.number 4 s.kind) ∧
      At bytes (o + e.place 4 8) (e.address s.offset) ∧
      At bytes (o + e.place 8 16) (e.address s.address) ∧
      At bytes (o + e.place 16 32) (e.address s.fileSize) ∧
      At bytes (o + e.place 20 40) (e.address s.memorySize) := by
  simp only [encode, Encoding.place] at h ⊢
  have hwidth : e.addressWidth = if e.wide then 8 else 4 := rfl
  cases hwide : e.wide with
  | false =>
      simp only [hwide, Bool.false_eq_true, if_false] at h hwidth ⊢
      simp only [At.append, List.length_append, Encoding.length_number, Encoding.length_address,
        hwidth] at h
      obtain ⟨⟨⟨⟨⟨⟨⟨kind, offset⟩, address⟩, _⟩, fileSize⟩, memorySize⟩, _⟩, _⟩ := h
      exact ⟨kind, offset, address, fileSize, memorySize⟩
  | true =>
      simp only [hwide, if_true] at h hwidth ⊢
      simp only [At.append, List.length_append, Encoding.length_number, Encoding.length_address,
        hwidth] at h
      obtain ⟨⟨⟨⟨⟨⟨⟨kind, _⟩, offset⟩, address⟩, _⟩, fileSize⟩, memorySize⟩, _⟩ := h
      exact ⟨kind, offset, address, fileSize, memorySize⟩

theorem length_encode (e : Encoding) (s : SegmentHeader) :
    (s.encode e).length = e.segmentSize := by
  unfold encode Encoding.segmentSize Encoding.place
  have hwidth : e.addressWidth = if e.wide then 8 else 4 := rfl
  by_cases hwide : e.wide = true
  · simp only [if_pos hwide, List.length_append, Encoding.length_number,
      Encoding.length_address, hwidth]
  · simp only [if_neg hwide, List.length_append, Encoding.length_number,
      Encoding.length_address, hwidth]

end SegmentHeader

/-- An entry of a symbol table. Its name is an offset in the string table. -/
structure SymbolEntry where
  name : Nat
  value : Nat
  size : Nat
  info : Nat
  other : Nat
  sectionIndex : Nat

namespace SymbolEntry

/-- The value and the size stand last in a wide entry and behind the name in a narrow one. -/
def encode (e : Encoding) (s : SymbolEntry) : List UInt8 :=
  if e.wide then
    e.number 4 s.name ++ e.number 1 s.info ++ e.number 1 s.other ++ e.number 2 s.sectionIndex ++
      e.address s.value ++ e.address s.size
  else
    e.number 4 s.name ++ e.address s.value ++ e.address s.size ++ e.number 1 s.info ++
      e.number 1 s.other ++ e.number 2 s.sectionIndex

/-- The fields hold their values. -/
def Fits (e : Encoding) (s : SymbolEntry) : Prop :=
  IsWord s.name ∧ e.IsAddress s.value ∧ e.IsAddress s.size

instance (e : Encoding) (s : SymbolEntry) : Decidable (s.Fits e) :=
  inferInstanceAs (Decidable (_ ∧ _))

theorem fields_of_at {e : Encoding} {bytes : List UInt8} {o : Nat} {s : SymbolEntry}
    (h : At bytes o (s.encode e)) :
    At bytes o (e.number 4 s.name) ∧
      At bytes (o + e.place 4 8) (e.address s.value) ∧
      At bytes (o + e.place 8 16) (e.address s.size) := by
  simp only [encode, Encoding.place] at h ⊢
  have hwidth : e.addressWidth = if e.wide then 8 else 4 := rfl
  cases hwide : e.wide with
  | false =>
      simp only [hwide, Bool.false_eq_true, if_false] at h hwidth ⊢
      simp only [At.append, List.length_append, Encoding.length_number, Encoding.length_address,
        hwidth] at h
      obtain ⟨⟨⟨⟨⟨name, value⟩, size⟩, _⟩, _⟩, _⟩ := h
      exact ⟨name, value, size⟩
  | true =>
      simp only [hwide, if_true] at h hwidth ⊢
      simp only [At.append, List.length_append, Encoding.length_number, Encoding.length_address,
        hwidth] at h
      obtain ⟨⟨⟨⟨⟨name, _⟩, _⟩, _⟩, value⟩, size⟩ := h
      exact ⟨name, value, size⟩

theorem length_encode (e : Encoding) (s : SymbolEntry) : (s.encode e).length = e.symbolSize := by
  unfold encode Encoding.symbolSize Encoding.place
  have hwidth : e.addressWidth = if e.wide then 8 else 4 := rfl
  by_cases hwide : e.wide = true
  · simp only [if_pos hwide, List.length_append, Encoding.length_number,
      Encoding.length_address, hwidth]
  · simp only [if_neg hwide, List.length_append, Encoding.length_number,
      Encoding.length_address, hwidth]

end SymbolEntry

/-- The bytes of a string table from an offset up to a zero byte. -/
def nameBytes (names : List UInt8) (offset : Nat) : List UInt8 :=
  (names.drop offset).takeWhile (· ≠ 0)

/-- The parts of a file that an image is read from. -/
structure Parts where
  header : FileHeader
  sections : List SectionHeader
  segments : List SegmentHeader
  symbolTable : SectionHeader
  /-- The string table that the symbol table is linked to, and its bytes. -/
  stringTable : SectionHeader
  names : List UInt8
  symbols : List SymbolEntry

/-- The file has these headers. Each of the two tables lies at the offset that the file header
gives, entry behind entry; an offset of zero would stand for no table. -/
structure IsFile (e : Encoding) (file : List UInt8) (p : Parts) : Prop where
  identification : p.header.identification.length = 10
  header : At file 0 (p.header.encode e)
  machine : p.header.machine < Nat.pow 256 2
  sectionTable : e.IsAddress p.header.sectionTable ∧ p.header.sectionTable ≠ 0
  sectionSize : p.header.sectionSize = e.sectionSize
  sectionCount : p.header.sectionCount = p.sections.length ∧ p.sections.length < Nat.pow 256 2
  sections : At file p.header.sectionTable (p.sections.flatMap (SectionHeader.encode e))
  sectionsFit : ∀ s ∈ p.sections, s.Fits e
  segmentTable : e.IsAddress p.header.segmentTable ∧ p.header.segmentTable ≠ 0
  segmentSize : p.header.segmentSize = e.segmentSize
  segmentCount : p.header.segmentCount = p.segments.length ∧ p.segments.length < Nat.pow 256 2
  segments : At file p.header.segmentTable (p.segments.flatMap (SegmentHeader.encode e))
  segmentsFit : ∀ s ∈ p.segments, s.Fits e

/-- The file has one dynamic symbol table, with the string table that it is linked to. -/
structure HasSymbols (e : Encoding) (file : List UInt8) (p : Parts) : Prop where
  symbolTable : (p.sections.filter fun s => s.kind = dynamicSymbolTable) = [p.symbolTable]
  entrySize : p.symbolTable.entrySize = e.symbolSize
  size : p.symbolTable.size = e.symbolSize * p.symbols.length
  symbols : At file p.symbolTable.offset (p.symbols.flatMap (SymbolEntry.encode e))
  symbolsFit : ∀ s ∈ p.symbols, s.Fits e
  stringTable : p.sections[p.symbolTable.link]? = some p.stringTable
  names : At file p.stringTable.offset p.names
  namesSize : p.stringTable.size = p.names.length

/-- The bytes of a name that is ASCII. -/
def asciiBytes (name : String) : List UInt8 := name.toList.map fun c => UInt8.ofNat c.toNat

/-- A name that a symbol table can hold in full. -/
structure IsName (name : String) : Prop where
  ascii : ∀ c ∈ name.toList, c.toNat < 128
  nonempty : name ≠ ""
  short : name.length < nameLimit

/-- A symbol with the name is there, and each one with the name has the value and the size. -/
structure Exports (p : Parts) (name : String) (value : Nat) (size : Nat → Prop) : Prop where
  isName : IsName name
  present : ∃ s ∈ p.symbols, nameBytes p.names s.name = asciiBytes name
  only : ∀ s ∈ p.symbols, nameBytes p.names s.name = asciiBytes name →
    s.value = value ∧ size s.size

/-- The file puts an image at an address: its one loadable segment holds the image and nothing
else, the start symbol is at the address and the symbol of the last word, which is four bytes
long, at the last word of the image. -/
structure Wraps (e : Encoding) (file : List UInt8) (p : Parts) (image : List UInt8)
    (address : Nat) (start last : String) : Prop where
  isFile : IsFile e file p
  hasSymbols : HasSymbols e file p
  segment : ∃ s : SegmentHeader, (p.segments.filter fun s => s.kind = loadable) = [s] ∧
    s.address = address ∧ s.fileSize = image.length ∧ s.memorySize = image.length ∧
      At file s.offset image
  exportsStart : Exports p start address fun _ => True
  exportsLast : Exports p last (address + image.length - 4) (· = 4)

end OatImage.Elf
