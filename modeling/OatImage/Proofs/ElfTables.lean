import OatImage.Proofs.ElfReading
import OatImage.Proofs.ExactReads

/-!
# The tables of any file

Whatever its bytes are, a file that begins as an ELF file does can be read. A class byte other
than 2 stands for narrow addresses, an order byte other than 1 for the most significant byte
first. A table is read up to the first entry that crosses the end of the file, wherever its
header puts it and however many entries the header declares. `Declares` says which sections and
segments a file has in these terms; a container that reads the file collects just those, behind
what it held before.
-/
namespace OatImage.Elf

/-- The file begins as an ELF file does and holds all of its header. -/
structure IsElf (file : List UInt8) : Prop where
  magic : At file 0 magicBytes
  length_le : (if file[4]? = some 2 then 64 else 52) ≤ file.length

instance (file : List UInt8) : Decidable (IsElf file) :=
  decidable_of_iff (At file 0 magicBytes ∧ (if file[4]? = some 2 then 64 else 52) ≤ file.length)
    ⟨fun h => ⟨h.1, h.2⟩, fun h => ⟨h.1, h.2⟩⟩

/-- The encoding that a file declares. -/
def Encoding.ofFile (file : List UInt8) : Encoding :=
  { wide := file[4]? = some 2, bigEndian := file[5]? ≠ some 1 }

theorem IsElf.headerSize_le {file : List UInt8} (h : IsElf file) :
    (Encoding.ofFile file).place 52 64 ≤ file.length := by
  have hlen := h.length_le
  rw [Encoding.ofFile, Encoding.place]
  simpa only [decide_eq_true_eq] using hlen

/-- The fields of the two tables hold their values. -/
def FileHeader.Fits (e : Encoding) (h : FileHeader) : Prop :=
  e.IsAddress h.sectionTable ∧ h.sectionSize < Nat.pow 256 2 ∧ h.sectionCount < Nat.pow 256 2 ∧
    e.IsAddress h.segmentTable ∧ h.segmentSize < Nat.pow 256 2 ∧ h.segmentCount < Nat.pow 256 2

/-- Behind the sixteen bytes of its identification, which may be any, a file has the fields of a
header. -/
structure HasHeader (e : Encoding) (file : List UInt8) (h : FileHeader) : Prop where
  identification : h.identification.length = 10
  fields : At file 16 ((h.encode e).drop 16)
  fits : h.Fits e

/-- The entries of a table that stand in the file: of a number of entries, one every `stride`
bytes from an offset on, those before the first that crosses the end of the file. -/
inductive TableAt {α : Type} (file : List UInt8) (shows : Nat → α → Prop) (size stride : Nat) :
    (count offset : Nat) → List α → Prop
  | nil (offset : Nat) : TableAt file shows size stride 0 offset []
  | crossed (count offset : Nat) (h : file.length < offset + size) :
      TableAt file shows size stride count offset []
  | entry (count offset : Nat) (x : α) (xs : List α) (h : offset + size ≤ file.length)
      (hx : shows offset x) (hxs : TableAt file shows size stride count (offset + stride) xs) :
      TableAt file shows size stride (count + 1) offset (x :: xs)

/-- A table at offset zero is no table. -/
def HeaderTableAt {α : Type} (file : List UInt8) (shows : Nat → α → Prop) (size stride : Nat)
    (count offset : Nat) (entries : List α) : Prop :=
  if offset = 0 then entries = [] else TableAt file shows size stride count offset entries

def ShowsSection (e : Encoding) (file : List UInt8) (o : Nat) (s : Section) : Prop :=
  ∃ header : SectionHeader, header.toSection = s ∧ header.Fits e ∧ At file o (header.encode e)

def ShowsSegment (e : Encoding) (file : List UInt8) (o : Nat) (s : Segment) : Prop :=
  ∃ header : SegmentHeader, header.toSegment = s ∧ header.Fits e ∧ At file o (header.encode e)

/-- A symbol stands at an offset of a file, its name in a string table. -/
def ShowsSymbol (e : Encoding) (file names : List UInt8) (o : Nat) (s : Symbol) : Prop :=
  ∃ entry : SymbolEntry, s = ⟨Container.nameAt names entry.name, entry.value, entry.size⟩ ∧
    entry.Fits e ∧ At file o (entry.encode e)

/-- The file has these sections and these segments, each in the order of its table. -/
def Declares (file : List UInt8) (sections : List Section) (segments : List Segment) : Prop :=
  let e := Encoding.ofFile file
  ∃ header : FileHeader, HasHeader e file header ∧
    HeaderTableAt file (ShowsSection e file) e.sectionSize header.sectionSize
      header.sectionCount header.sectionTable sections ∧
    HeaderTableAt file (ShowsSegment e file) e.segmentSize header.segmentSize
      header.segmentCount header.segmentTable segments

/-- As entries begin at different offsets there are no more of them than bytes. -/
theorem TableAt.length_le {α : Type} {file : List UInt8} {shows : Nat → α → Prop}
    {size stride count offset : Nat} {entries : List α} (hsize : 0 < size) (hstride : 0 < stride)
    (h : TableAt file shows size stride count offset entries) :
    entries = [] ∨ offset + entries.length ≤ file.length := by
  induction h with
  | nil offset => exact .inl rfl
  | crossed count offset h => exact .inl rfl
  | entry count offset x xs h hx hxs ih =>
      right
      rw [List.length_cons]
      rcases ih with rfl | hrest
      · rw [List.length_nil]
        omega
      · omega

/-! Any bytes are numbers, and headers where there is room for them. -/

theorem Encoding.exists_number_at (e : Encoding) {file : List UInt8} {o width rest : Nat}
    (hin : o + (width + rest) ≤ file.length) :
    ∃ n, At file o (e.number width n) ∧ n < Nat.pow 256 width ∧
      o + width + rest ≤ file.length := by
  have hlen : ((file.drop o).take width).length = width := by
    rw [List.length_take, List.length_drop]
    omega
  have hnumber : ∃ n, n < Nat.pow 256 width ∧ e.number width n = (file.drop o).take width := by
    unfold Encoding.number
    by_cases hb : e.bigEndian = true
    · have hrev : ((file.drop o).take width).reverse.length = width := by
        rw [List.length_reverse, hlen]
      refine ⟨ofBytesLE ((file.drop o).take width).reverse, ?_, ?_⟩
      · have hlt := ofBytesLE_lt ((file.drop o).take width).reverse
        rwa [hrev] at hlt
      · have hword := toBytesLE_ofBytesLE ((file.drop o).take width).reverse
        rw [hrev] at hword
        rw [if_pos hb, hword, List.reverse_reverse]
    · refine ⟨ofBytesLE ((file.drop o).take width), ?_, ?_⟩
      · have hlt := ofBytesLE_lt ((file.drop o).take width)
        rwa [hlen] at hlt
      · have hword := toBytesLE_ofBytesLE ((file.drop o).take width)
        rw [hlen] at hword
        rw [if_neg hb, hword]
  obtain ⟨n, hlt, hn⟩ := hnumber
  refine ⟨n, ⟨?_, ?_⟩, hlt, by omega⟩
  · rw [e.length_number]
    omega
  · rw [e.length_number, hn]

theorem exists_sectionHeader (e : Encoding) {file : List UInt8} {o : Nat}
    (hin : o + e.sectionSize ≤ file.length) :
    ∃ s : SectionHeader, s.Fits e ∧ At file o (s.encode e) := by
  have hsize : e.sectionSize = 4 + (4 + (e.addressWidth + (e.addressWidth + (e.addressWidth +
      (e.addressWidth + (4 + (4 + (e.addressWidth + (e.addressWidth + 0))))))))) := by
    unfold Encoding.sectionSize Encoding.addressWidth Encoding.place
    cases e.wide <;> rfl
  rw [hsize] at hin
  obtain ⟨name, hname, _, hin⟩ := e.exists_number_at hin
  obtain ⟨kind, hkind, kindFits, hin⟩ := e.exists_number_at hin
  obtain ⟨flags, hflags, _, hin⟩ := e.exists_number_at hin
  obtain ⟨address, haddress, _, hin⟩ := e.exists_number_at hin
  obtain ⟨offset, hoffset, offsetFits, hin⟩ := e.exists_number_at hin
  obtain ⟨size, hsize, sizeFits, hin⟩ := e.exists_number_at hin
  obtain ⟨link, hlink, linkFits, hin⟩ := e.exists_number_at hin
  obtain ⟨info, hinfo, _, hin⟩ := e.exists_number_at hin
  obtain ⟨alignment, halignment, _, hin⟩ := e.exists_number_at hin
  obtain ⟨entrySize, hentrySize, entrySizeFits, _⟩ := e.exists_number_at hin
  refine ⟨{ kind, offset, size, link, entrySize, name, flags, address, info, alignment },
    ⟨kindFits, offsetFits, sizeFits, linkFits, entrySizeFits⟩, ?_⟩
  simp only [SectionHeader.encode, At.append, List.length_append, Encoding.length_number,
    Encoding.length_address, ← Nat.add_assoc]
  exact ⟨⟨⟨⟨⟨⟨⟨⟨⟨hname, hkind⟩, hflags⟩, haddress⟩, hoffset⟩, hsize⟩, hlink⟩, hinfo⟩,
    halignment⟩, hentrySize⟩

theorem exists_segmentHeader (e : Encoding) {file : List UInt8} {o : Nat}
    (hin : o + e.segmentSize ≤ file.length) :
    ∃ s : SegmentHeader, s.Fits e ∧ At file o (s.encode e) := by
  cases hwide : e.wide with
  | false =>
      have hsize : e.segmentSize = 4 + (e.addressWidth + (e.addressWidth + (e.addressWidth +
          (e.addressWidth + (e.addressWidth + (4 + (e.addressWidth + 0))))))) := by
        simp only [Encoding.segmentSize, Encoding.addressWidth, Encoding.place, hwide]
        rfl
      rw [hsize] at hin
      obtain ⟨kind, hkind, kindFits, hin⟩ := e.exists_number_at hin
      obtain ⟨offset, hoffset, offsetFits, hin⟩ := e.exists_number_at hin
      obtain ⟨address, haddress, addressFits, hin⟩ := e.exists_number_at hin
      obtain ⟨physical, hphysical, _, hin⟩ := e.exists_number_at hin
      obtain ⟨fileSize, hfileSize, fileSizeFits, hin⟩ := e.exists_number_at hin
      obtain ⟨memorySize, hmemorySize, memorySizeFits, hin⟩ := e.exists_number_at hin
      obtain ⟨flags, hflags, _, hin⟩ := e.exists_number_at hin
      obtain ⟨alignment, halignment, _, _⟩ := e.exists_number_at hin
      refine ⟨{ kind, offset, address, fileSize, memorySize, flags, physical, alignment },
        ⟨kindFits, offsetFits, addressFits, fileSizeFits, memorySizeFits⟩, ?_⟩
      simp only [SegmentHeader.encode, hwide, Bool.false_eq_true, if_false, At.append,
        List.length_append, Encoding.length_number, Encoding.length_address, ← Nat.add_assoc]
      exact ⟨⟨⟨⟨⟨⟨⟨hkind, hoffset⟩, haddress⟩, hphysical⟩, hfileSize⟩, hmemorySize⟩, hflags⟩,
        halignment⟩
  | true =>
      have hsize : e.segmentSize = 4 + (4 + (e.addressWidth + (e.addressWidth +
          (e.addressWidth + (e.addressWidth + (e.addressWidth + (e.addressWidth + 0))))))) := by
        simp only [Encoding.segmentSize, Encoding.addressWidth, Encoding.place, hwide]
        rfl
      rw [hsize] at hin
      obtain ⟨kind, hkind, kindFits, hin⟩ := e.exists_number_at hin
      obtain ⟨flags, hflags, _, hin⟩ := e.exists_number_at hin
      obtain ⟨offset, hoffset, offsetFits, hin⟩ := e.exists_number_at hin
      obtain ⟨address, haddress, addressFits, hin⟩ := e.exists_number_at hin
      obtain ⟨physical, hphysical, _, hin⟩ := e.exists_number_at hin
      obtain ⟨fileSize, hfileSize, fileSizeFits, hin⟩ := e.exists_number_at hin
      obtain ⟨memorySize, hmemorySize, memorySizeFits, hin⟩ := e.exists_number_at hin
      obtain ⟨alignment, halignment, _, _⟩ := e.exists_number_at hin
      refine ⟨{ kind, offset, address, fileSize, memorySize, flags, physical, alignment },
        ⟨kindFits, offsetFits, addressFits, fileSizeFits, memorySizeFits⟩, ?_⟩
      simp only [SegmentHeader.encode, hwide, if_true, At.append, List.length_append,
        Encoding.length_number, Encoding.length_address, ← Nat.add_assoc]
      exact ⟨⟨⟨⟨⟨⟨⟨hkind, hflags⟩, hoffset⟩, haddress⟩, hphysical⟩, hfileSize⟩, hmemorySize⟩,
        halignment⟩

theorem exists_symbolEntry (e : Encoding) {file : List UInt8} {o : Nat}
    (hin : o + e.symbolSize ≤ file.length) :
    ∃ s : SymbolEntry, s.Fits e ∧ At file o (s.encode e) := by
  cases hwide : e.wide with
  | false =>
      have hsize : e.symbolSize =
          4 + (e.addressWidth + (e.addressWidth + (1 + (1 + (2 + 0))))) := by
        simp only [Encoding.symbolSize, Encoding.addressWidth, Encoding.place, hwide]
        rfl
      rw [hsize] at hin
      obtain ⟨name, hname, nameFits, hin⟩ := e.exists_number_at hin
      obtain ⟨value, hvalue, valueFits, hin⟩ := e.exists_number_at hin
      obtain ⟨size, hsize, sizeFits, hin⟩ := e.exists_number_at hin
      obtain ⟨info, hinfo, _, hin⟩ := e.exists_number_at hin
      obtain ⟨other, hother, _, hin⟩ := e.exists_number_at hin
      obtain ⟨sectionIndex, hsectionIndex, _, _⟩ := e.exists_number_at hin
      refine ⟨{ name, value, size, info, other, sectionIndex },
        ⟨nameFits, valueFits, sizeFits⟩, ?_⟩
      simp only [SymbolEntry.encode, hwide, Bool.false_eq_true, if_false, At.append,
        List.length_append, Encoding.length_number, Encoding.length_address, ← Nat.add_assoc]
      exact ⟨⟨⟨⟨⟨hname, hvalue⟩, hsize⟩, hinfo⟩, hother⟩, hsectionIndex⟩
  | true =>
      have hsize : e.symbolSize =
          4 + (1 + (1 + (2 + (e.addressWidth + (e.addressWidth + 0))))) := by
        simp only [Encoding.symbolSize, Encoding.addressWidth, Encoding.place, hwide]
        rfl
      rw [hsize] at hin
      obtain ⟨name, hname, nameFits, hin⟩ := e.exists_number_at hin
      obtain ⟨info, hinfo, _, hin⟩ := e.exists_number_at hin
      obtain ⟨other, hother, _, hin⟩ := e.exists_number_at hin
      obtain ⟨sectionIndex, hsectionIndex, _, hin⟩ := e.exists_number_at hin
      obtain ⟨value, hvalue, valueFits, hin⟩ := e.exists_number_at hin
      obtain ⟨size, hsize, sizeFits, _⟩ := e.exists_number_at hin
      refine ⟨{ name, value, size, info, other, sectionIndex },
        ⟨nameFits, valueFits, sizeFits⟩, ?_⟩
      simp only [SymbolEntry.encode, hwide, if_true, At.append, List.length_append,
        Encoding.length_number, Encoding.length_address, ← Nat.add_assoc]
      exact ⟨⟨⟨⟨⟨hname, hinfo⟩, hother⟩, hsectionIndex⟩, hvalue⟩, hsize⟩

/-- What stands behind the identification of a header. -/
theorem FileHeader.drop_encode {e : Encoding} {p : FileHeader}
    (hlen : p.identification.length = 10) :
    (p.encode e).drop 16 = e.number 2 p.kind ++ e.number 2 p.machine ++ e.number 4 p.version ++
      e.address p.entry ++ e.address p.segmentTable ++ e.address p.sectionTable ++
      e.number 4 p.flags ++ e.number 2 p.headerSize ++ e.number 2 p.segmentSize ++
      e.number 2 p.segmentCount ++ e.number 2 p.sectionSize ++ e.number 2 p.sectionCount ++
      e.number 2 p.sectionNames := by
  have hstart : (magicBytes ++ ([if e.wide then (2 : UInt8) else 1] ++
      ([if e.bigEndian then 2 else 1] ++ p.identification))).length = 16 := by
    simp only [List.length_append, List.length_singleton, length_magicBytes, hlen]
  refine Eq.trans (congrArg (List.drop 16) ?_) (List.drop_left' hstart)
  simp only [encode, List.append_assoc]

theorem exists_hasHeader (e : Encoding) {file : List UInt8} (hin : e.place 52 64 ≤ file.length) :
    ∃ header : FileHeader, HasHeader e file header := by
  have hsize : e.place 52 64 = 16 + (2 + (2 + (4 + (e.addressWidth + (e.addressWidth +
      (e.addressWidth + (4 + (2 + (2 + (2 + (2 + (2 + (2 + 0))))))))))))) := by
    unfold Encoding.addressWidth Encoding.place
    cases e.wide <;> rfl
  rw [hsize] at hin
  obtain ⟨kind, hkind, _, hin⟩ := e.exists_number_at hin
  obtain ⟨machine, hmachine, _, hin⟩ := e.exists_number_at hin
  obtain ⟨version, hversion, _, hin⟩ := e.exists_number_at hin
  obtain ⟨entry, hentry, _, hin⟩ := e.exists_number_at hin
  obtain ⟨segmentTable, hsegmentTable, segmentTableFits, hin⟩ := e.exists_number_at hin
  obtain ⟨sectionTable, hsectionTable, sectionTableFits, hin⟩ := e.exists_number_at hin
  obtain ⟨flags, hflags, _, hin⟩ := e.exists_number_at hin
  obtain ⟨headerSize, hheaderSize, _, hin⟩ := e.exists_number_at hin
  obtain ⟨segmentSize, hsegmentSize, segmentSizeFits, hin⟩ := e.exists_number_at hin
  obtain ⟨segmentCount, hsegmentCount, segmentCountFits, hin⟩ := e.exists_number_at hin
  obtain ⟨sectionSize, hsectionSize, sectionSizeFits, hin⟩ := e.exists_number_at hin
  obtain ⟨sectionCount, hsectionCount, sectionCountFits, hin⟩ := e.exists_number_at hin
  obtain ⟨sectionNames, hsectionNames, _, _⟩ := e.exists_number_at hin
  refine ⟨{ identification := List.replicate 10 0, kind, machine, version, entry, segmentTable,
            sectionTable, flags, headerSize, segmentSize, segmentCount, sectionSize,
            sectionCount, sectionNames }, List.length_replicate, ?_, sectionTableFits,
    sectionSizeFits, sectionCountFits, segmentTableFits, segmentSizeFits, segmentCountFits⟩
  rw [FileHeader.drop_encode List.length_replicate]
  simp only [At.append, List.length_append, Encoding.length_number, Encoding.length_address,
    ← Nat.add_assoc]
  exact ⟨⟨⟨⟨⟨⟨⟨⟨⟨⟨⟨⟨hkind, hmachine⟩, hversion⟩, hentry⟩, hsegmentTable⟩, hsectionTable⟩,
    hflags⟩, hheaderSize⟩, hsegmentSize⟩, hsegmentCount⟩, hsectionSize⟩, hsectionCount⟩,
    hsectionNames⟩

/-- The offsets of what a header says about the tables. -/
theorem HasHeader.fields_at {e : Encoding} {file : List UInt8} {p : FileHeader}
    (h : HasHeader e file p) :
    At file (e.place 28 32) (e.address p.segmentTable) ∧
      At file (e.place 32 40) (e.address p.sectionTable) ∧
      At file (e.place 42 54) (e.number 2 p.segmentSize) ∧
      At file (e.place 44 56) (e.number 2 p.segmentCount) ∧
      At file (e.place 46 58) (e.number 2 p.sectionSize) ∧
      At file (e.place 48 60) (e.number 2 p.sectionCount) := by
  have hfields := h.fields
  rw [FileHeader.drop_encode h.identification] at hfields
  simp only [At.append, List.length_append, Encoding.length_number, Encoding.length_address,
    Encoding.add_addressWidth, Encoding.place_add, Encoding.place_place, Nat.add_comm 16,
    Nat.reduceAdd] at hfields
  obtain ⟨⟨⟨⟨⟨⟨⟨⟨⟨_, segmentTable⟩, sectionTable⟩, _⟩, _⟩, segmentSize⟩, segmentCount⟩,
    sectionSize⟩, sectionCount⟩, _⟩ := hfields
  exact ⟨segmentTable, sectionTable, segmentSize, segmentCount, sectionSize, sectionCount⟩

/-! What a container reads. -/

namespace Container.Shows

variable {c : Container} {e : Encoding} {file : List UInt8} (h : c.Shows e file)
include h

theorem showsSection {o : Nat} (hin : o + e.sectionSize ≤ file.length) :
    ShowsSection e file o (c.sectionAt o) := by
  obtain ⟨s, hfits, hat⟩ := exists_sectionHeader e hin
  exact ⟨s, (h.sectionAt_of_at hfits hat).symm, hfits, hat⟩

theorem showsSegment {o : Nat} (hin : o + e.segmentSize ≤ file.length) :
    ShowsSegment e file o (c.segmentAt o) := by
  obtain ⟨s, hfits, hat⟩ := exists_segmentHeader e hin
  exact ⟨s, (h.segmentAt_of_at hfits hat).symm, hfits, hat⟩

theorem showsSymbol (names : List UInt8) {o : Nat} (hin : o + e.symbolSize ≤ file.length) :
    ShowsSymbol e file names o (c.symbolAt names o) := by
  obtain ⟨s, hfits, hat⟩ := exists_symbolEntry e hin
  exact ⟨s, h.symbolAt_of_at names hfits hat, hfits, hat⟩

theorem holds_iff {o size : Nat} : c.holds o size = true ↔ o + size ≤ file.length := by
  rw [holds, h.size_eq, decide_eq_true_eq]

/-- A table is read up to the first entry that crosses the end of the file. -/
theorem tableAt_entries {α : Type} {shows : Nat → α → Prop} {size : Nat} {decode : Nat → α}
    (hshows : ∀ o, o + size ≤ file.length → shows o (decode o)) (stride count offset : Nat) :
    TableAt file shows size stride count offset
      (c.entries size stride decode count offset) := by
  induction count generalizing offset with
  | zero => exact .nil offset
  | succ count ih =>
      rw [entries]
      by_cases hin : c.holds offset size = true
      · rw [if_pos hin]
        rw [h.holds_iff] at hin
        exact .entry count offset _ _ hin (hshows offset hin) (ih (offset + stride))
      · rw [if_neg hin]
        rw [h.holds_iff] at hin
        exact .crossed (count + 1) offset (Nat.lt_of_not_le hin)

theorem declares (he : e = Encoding.ofFile file) (hin : e.place 52 64 ≤ file.length) :
    Declares file c.sectionTable c.segmentTable := by
  subst he
  obtain ⟨p, hheader⟩ := exists_hasHeader _ hin
  obtain ⟨segmentTable, sectionTable, segmentSize, segmentCount, sectionSize, sectionCount⟩ :=
    hheader.fields_at
  obtain ⟨sectionTableFits, sectionSizeFits, sectionCountFits, segmentTableFits,
    segmentSizeFits, segmentCountFits⟩ := hheader.fits
  refine ⟨p, hheader, ?_, ?_⟩
  · have hentry : c.sectionSize = (Encoding.ofFile file).sectionSize := h.place_eq 40 64
    simp only [HeaderTableAt, Container.sectionTable, hentry, h.place_eq]
    rw [h.address_of_at sectionTable sectionTableFits, h.word_of_at sectionSize sectionSizeFits,
      h.word_of_at sectionCount sectionCountFits]
    by_cases hzero : p.sectionTable = 0
    · rw [if_pos hzero, if_pos hzero]
    · rw [if_neg hzero, if_neg hzero]
      exact h.tableAt_entries (fun o => h.showsSection) _ _ _
  · have hentry : c.segmentSize = (Encoding.ofFile file).segmentSize := h.place_eq 32 56
    simp only [HeaderTableAt, Container.segmentTable, hentry, h.place_eq]
    rw [h.address_of_at segmentTable segmentTableFits, h.word_of_at segmentSize segmentSizeFits,
      h.word_of_at segmentCount segmentCountFits]
    by_cases hzero : p.segmentTable = 0
    · rw [if_pos hzero, if_pos hzero]
    · rw [if_neg hzero, if_neg hzero]
      exact h.tableAt_entries (fun o => h.showsSegment) _ _ _

/-! Containers that show the same file read the same from it. They differ in what they have
collected, and the symbols of a table depend on that through their names only. -/

variable {c' : Container} (h' : c'.Shows e file)
include h'

theorem data_eq : c'.data = c.data :=
  ByteArray.ext (Array.toList_inj.mp (h'.data.trans h.data.symm))

theorem word_congr (o width : Nat) : c'.word o width = c.word o width := by
  rw [word, word, bytes, bytes, h.data_eq h', h.bigEndian, h'.bigEndian]

theorem address_congr (o : Nat) : c'.address o = c.address o := by
  rw [Container.address, Container.address, h.wide, h'.wide, h.word_congr h']

theorem entries_congr {α : Type} {decode decode' : Nat → α} (hdecode : ∀ o, decode' o = decode o)
    (size stride count offset : Nat) :
    c'.entries size stride decode' count offset = c.entries size stride decode count offset := by
  induction count generalizing offset with
  | zero => rfl
  | succ count ih => rw [entries, entries, holds, holds, h.data_eq h', hdecode, ih]

theorem sectionTable_congr : c'.sectionTable = c.sectionTable := by
  have hsection : ∀ o, c'.sectionAt o = c.sectionAt o := by
    intro o
    simp only [sectionAt, h.word_congr h', h.address_congr h', h.place_eq, h'.place_eq]
  simp only [Container.sectionTable, Container.sectionSize, h.word_congr h', h.address_congr h',
    h.place_eq, h'.place_eq, h.entries_congr h' hsection]

theorem segmentTable_congr : c'.segmentTable = c.segmentTable := by
  have hsegment : ∀ o, c'.segmentAt o = c.segmentAt o := by
    intro o
    simp only [segmentAt, h.word_congr h', h.address_congr h', h.place_eq, h'.place_eq]
  simp only [Container.segmentTable, Container.segmentSize, h.word_congr h', h.address_congr h',
    h.place_eq, h'.place_eq, h.entries_congr h' hsegment]

theorem linkedNames_congr {table : Section}
    (hlink : c'.sections[table.link]? = c.sections[table.link]?) :
    c'.linkedNames table = c.linkedNames table := by
  rw [linkedNames, linkedNames, hlink]
  cases c.sections[table.link]? with
  | none => rfl
  | some names =>
      dsimp only
      rw [holds, holds, bytes, bytes, h.data_eq h']

/-- Two containers read the same symbols from a table whose link leads to the same section. -/
theorem tableSymbols_congr {table : Section}
    (hlink : c'.sections[table.link]? = c.sections[table.link]?) :
    c'.tableSymbols table = c.tableSymbols table := by
  have hnames := h.linkedNames_congr h' hlink
  have hsymbol : ∀ o, c'.symbolAt (c.linkedNames table) o = c.symbolAt (c.linkedNames table) o := by
    intro o
    simp only [symbolAt, h.word_congr h', h.address_congr h', h.place_eq, h'.place_eq]
  have hsize : c'.symbolSize = c.symbolSize := by
    rw [Container.symbolSize, Container.symbolSize, h.place_eq, h'.place_eq]
  simp only [tableSymbols, hnames, hsize]
  rw [h.entries_congr h' hsymbol]

theorem allSymbols_congr (hsections : c'.sections = c.sections) :
    c'.allSymbols = c.allSymbols := by
  have htable : c'.tableSymbols = c.tableSymbols := by
    funext table
    exact h.tableSymbols_congr h' (by rw [hsections])
  simp only [allSymbols, hsections, htable]

end Container.Shows

/-! What a read adds. -/

namespace Container

variable {c c' : Container}

/-- A byte that is not there counts as zero. -/
theorem word_one (c : Container) (o : Nat) :
    c.word o 1 = (c.data.data.toList[o]?.map UInt8.toNat).getD 0 := by
  have hbytes : c.bytes o (o + 1) = c.data.data.toList[o]?.toList := by
    rw [bytes, toList_eq, Region.contents_cut, Nat.add_sub_cancel_left, List.take_one,
      List.head?_drop]
  rw [word, hbytes]
  cases c.data.data.toList[o]? with
  | none => cases c.bigEndian <;> rfl
  | some b => cases c.bigEndian <;> rfl

theorem word_one_eq_iff {o n : Nat} (hpos : 0 < n) (hn : n < 256) :
    c.word o 1 = n ↔ c.data.data.toList[o]? = some (UInt8.ofNat n) := by
  rw [word_one]
  cases c.data.data.toList[o]? with
  | none =>
      constructor
      · intro hzero
        exact absurd hzero (Nat.ne_of_lt hpos)
      · intro hnone
        cases hnone
  | some b =>
      have hbyte : (UInt8.ofNat n).toNat = n := by
        rw [UInt8.toNat_ofNat']
        exact Nat.mod_eq_of_lt hn
      simp only [Option.map_some, Option.getD_some, Option.some.injEq]
      rw [← UInt8.toNat_inj, hbyte]

/-- Reading a file, the container adds its sections, its segments and the symbols of the sections
that it has then. -/
structure Gains (c c' : Container) : Prop where
  shows : c'.Shows (Encoding.ofFile c.data.data.toList) c.data.data.toList
  sections : c'.sections = c.sections ++ c'.sectionTable
  segments : c'.segments = c.segments ++ c'.segmentTable
  symbols : c'.symbols = c.symbols ++ c'.allSymbols
  isRead : c'.isRead = true

/-- The container once it knows the encoding of its file. -/
def encoded (c : Container) : Container :=
  { c with wide := c.word 4 1 = 2, bigEndian := c.word 5 1 ≠ 1 }

theorem shows_encoded (c : Container) :
    c.encoded.Shows (Encoding.ofFile c.data.data.toList) c.data.data.toList where
  data := rfl
  wide := decide_eq_decide.mpr (word_one_eq_iff (by decide) (by decide))
  bigEndian := decide_eq_decide.mpr (not_congr (word_one_eq_iff (by decide) (by decide)))

/-- The two tests that a file has to pass, the magic first and then the size of the header. -/
theorem isElf_iff (c : Container) : IsElf c.data.data.toList ↔
    ¬ (c.data.size < 16 || c.bytes 0 4 ≠ magicBytes) = true ∧
      c.encoded.holds 0 c.encoded.headerSize = true := by
  have hlen : c.data.data.toList.length = c.data.size := rfl
  have hbytes : c.bytes 0 4 = c.data.data.toList.take 4 := by
    rw [bytes, toList_eq, Region.contents_cut]
    rfl
  have hheader : c.encoded.holds 0 c.encoded.headerSize = true ↔
      (if c.data.data.toList[4]? = some 2 then 64 else 52) ≤ c.data.size := by
    rw [c.shows_encoded.holds_iff, headerSize, c.shows_encoded.place_eq, Nat.zero_add, hlen,
      Encoding.place, Encoding.ofFile]
    simp only [decide_eq_true_eq]
  rw [hheader]
  simp only [Bool.or_eq_true, decide_eq_true_eq, not_or, Nat.not_lt, Decidable.not_not, hbytes]
  constructor
  · rintro ⟨⟨hshort, hmagic⟩, hsize⟩
    rw [hlen] at hsize
    refine ⟨⟨?_, hmagic⟩, hsize⟩
    split at hsize <;> omega
  · rintro ⟨⟨_, hmagic⟩, hsize⟩
    have hshort : 0 + magicBytes.length ≤ c.data.data.toList.length := by
      rw [length_magicBytes, hlen]
      split at hsize <;> omega
    exact ⟨⟨hshort, hmagic⟩, hsize⟩

/-- A file is read if it is an ELF file, whatever the container holds already. -/
theorem read_cases (c : Container) :
    (IsElf c.data.data.toList ∧ ∃ c', c.read = (true, c') ∧ c.Gains c') ∨
      (¬ IsElf c.data.data.toList ∧ ∃ c', c.read = (false, c')) := by
  by_cases helf : IsElf c.data.data.toList
  · refine .inl ⟨helf, ?_⟩
    obtain ⟨hstart, hheader⟩ := c.isElf_iff.mp helf
    rw [encoded] at hheader
    unfold read
    rw [if_neg hstart]
    simp only [hheader, Bool.not_true, Bool.false_eq_true, if_false]
    have hshows : ∀ machine sections segments symbols isRead,
        ({ c.encoded with machine, sections, segments, symbols, isRead } : Container).Shows
          (Encoding.ofFile c.data.data.toList) c.data.data.toList := fun _ _ _ _ _ =>
      ⟨rfl, c.shows_encoded.wide, c.shows_encoded.bigEndian⟩
    refine ⟨_, rfl, hshows _ _ _ _ _, congrArg (c.sections ++ ·) ?_,
      congrArg (c.segments ++ ·) ?_, congrArg (c.symbols ++ ·) ?_, rfl⟩
    · exact (hshows _ _ _ _ _).sectionTable_congr c.shows_encoded
    · exact (hshows _ _ _ _ _).segmentTable_congr c.shows_encoded
    · exact (hshows _ _ _ _ _).allSymbols_congr (hshows _ _ _ c.symbols c.isRead) rfl
  · refine .inr ⟨helf, ?_⟩
    unfold read
    by_cases hstart : (c.data.size < 16 || c.bytes 0 4 ≠ magicBytes) = true
    · exact ⟨_, if_pos hstart⟩
    · have hheader : ¬ c.encoded.holds 0 c.encoded.headerSize = true :=
        fun h => helf (c.isElf_iff.mpr ⟨hstart, h⟩)
      rw [encoded, Bool.not_eq_true] at hheader
      rw [if_neg hstart]
      simp only [hheader, Bool.not_false, if_true]
      exact ⟨_, rfl⟩

end Container

end OatImage.Elf
