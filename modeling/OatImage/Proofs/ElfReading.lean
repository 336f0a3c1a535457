import OatImage.Proofs.ElfLayout

/-!
# Reading an ELF file

What a container reads from the bytes of a file is what its layout says: a number from the bytes
of the number, a header from the bytes of the header, a table entry by entry. Each lemma is
about one part of the layout; from the last ones follows what a container that has read the
whole file holds, in each of the four encodings.
-/
namespace OatImage.Elf

/-- The container reads the bytes of a file in an encoding. -/
structure Container.Shows (c : Container) (e : Encoding) (file : List UInt8) : Prop where
  data : c.data.data.toList = file
  wide : c.wide = e.wide
  bigEndian : c.bigEndian = e.bigEndian

namespace Container.Shows

variable {c : Container} {e : Encoding} {file : List UInt8} (h : c.Shows e file)
include h

theorem size_eq : c.data.size = file.length := h.data ▸ rfl

theorem place_eq (narrow wide : Nat) : c.place narrow wide = e.place narrow wide := by
  rw [Container.place, Encoding.place, h.wide]

theorem bytes_of_at {o width : Nat} {part : List UInt8} (hp : At file o part)
    (hw : part.length = width) : c.bytes o (o + width) = part := by
  subst hw
  rw [bytes, toList_eq, Region.contents_cut, h.data, Nat.add_sub_cancel_left]
  exact hp.take_drop

theorem holds_of_at {o size : Nat} {part : List UInt8} (hp : At file o part)
    (hs : size ≤ part.length) : c.holds o size = true := by
  have hlen := hp.length_le
  rw [holds, h.size_eq, decide_eq_true_eq]
  omega

theorem word_of_at {o width n : Nat} (hp : At file o (e.number width n))
    (hn : n < Nat.pow 256 width) : c.word o width = n := by
  rw [word, h.bytes_of_at hp (e.length_number width n), h.bigEndian, Encoding.number]
  by_cases hb : e.bigEndian = true
  · rw [if_pos hb, if_pos hb, List.reverse_reverse, ofBytesLE_toBytesLE hn]
  · rw [if_neg hb, if_neg hb, ofBytesLE_toBytesLE hn]

/-- A single byte reads the same in either byte order. -/
theorem byte_of_at {o : Nat} {b : UInt8} (hp : At file o [b]) : c.word o 1 = b.toNat := by
  have hbytes : c.bytes o (o + 1) = [b] := h.bytes_of_at hp rfl
  rw [word, hbytes]
  cases c.bigEndian <;> rfl

theorem address_of_at {o n : Nat} (hp : At file o (e.address n)) (hn : e.IsAddress n) :
    c.address o = n := by
  have hwidth : (if c.wide then 8 else 4) = e.addressWidth := by
    rw [h.wide, Encoding.addressWidth, Encoding.place]
  rw [Container.address, hwidth]
  exact h.word_of_at hp hn

/-- A table is read entry by entry. -/
theorem entries_of_at {α β : Type} {encode : β → List UInt8} {decode : Nat → α} {value : β → α}
    {size o : Nat} {xs : List β} (hlen : ∀ x ∈ xs, (encode x).length = size)
    (hdecode : ∀ x ∈ xs, ∀ o, At file o (encode x) → decode o = value x)
    (hxs : At file o (xs.flatMap encode)) :
    c.entries size size decode xs.length o = xs.map value := by
  induction xs generalizing o with
  | nil => rfl
  | cons x xs ih =>
      rw [List.flatMap_cons, At.append, hlen x List.mem_cons_self] at hxs
      have hholds := h.holds_of_at hxs.1 (Nat.le_of_eq (hlen x List.mem_cons_self).symm)
      rw [List.length_cons, entries, if_pos hholds, hdecode x List.mem_cons_self o hxs.1,
        ih (fun y hy => hlen y (List.mem_cons_of_mem x hy))
          (fun y hy => hdecode y (List.mem_cons_of_mem x hy)) hxs.2, List.map_cons]

/-- The size and the number of the entries are what the header of the file says. -/
theorem headerTable_of_at {α β : Type} {encode : β → List UInt8} {decode : Nat → α}
    {value : β → α} {size sizeAt countAt o : Nat} {xs : List β}
    (hsize : At file sizeAt (e.number 2 size)) (hsmall : size < Nat.pow 256 2)
    (hcount : At file countAt (e.number 2 xs.length)) (hfew : xs.length < Nat.pow 256 2)
    (hlen : ∀ x ∈ xs, (encode x).length = size)
    (hdecode : ∀ x ∈ xs, ∀ o, At file o (encode x) → decode o = value x)
    (hxs : At file o (xs.flatMap encode)) :
    c.entries size (c.word sizeAt 2) decode (c.word countAt 2) o = xs.map value := by
  rw [h.word_of_at hsize hsmall, h.word_of_at hcount hfew]
  exact h.entries_of_at hlen hdecode hxs

theorem sectionAt_of_at {o : Nat} {s : SectionHeader} (hfits : s.Fits e)
    (hs : At file o (s.encode e)) : c.sectionAt o = s.toSection := by
  obtain ⟨hkind, hoffset, hsize, hlink, hentry⟩ := hfits
  obtain ⟨akind, aoffset, asize, alink, aentry⟩ := SectionHeader.fields_of_at hs
  simp only [sectionAt, h.place_eq]
  rw [h.word_of_at akind hkind, h.address_of_at aoffset hoffset, h.address_of_at asize hsize,
    h.word_of_at alink hlink, h.address_of_at aentry hentry]

theorem segmentAt_of_at {o : Nat} {s : SegmentHeader} (hfits : s.Fits e)
    (hs : At file o (s.encode e)) : c.segmentAt o = s.toSegment := by
  obtain ⟨hkind, hoffset, haddress, hfile, hmemory⟩ := hfits
  obtain ⟨akind, aoffset, aaddress, afile, amemory⟩ := SegmentHeader.fields_of_at hs
  simp only [segmentAt, h.place_eq]
  rw [h.word_of_at akind hkind, h.address_of_at aoffset hoffset,
    h.address_of_at aaddress haddress, h.address_of_at afile hfile,
    h.address_of_at amemory hmemory]

theorem symbolAt_of_at (names : List UInt8) {o : Nat} {s : SymbolEntry} (hfits : s.Fits e)
    (hs : At file o (s.encode e)) :
    c.symbolAt names o = ⟨nameAt names s.name, s.value, s.size⟩ := by
  obtain ⟨hname, hvalue, hsize⟩ := hfits
  obtain ⟨aname, avalue, asize⟩ := SymbolEntry.fields_of_at hs
  simp only [symbolAt, h.place_eq]
  rw [h.word_of_at aname hname, h.address_of_at avalue hvalue, h.address_of_at asize hsize]

end Container.Shows

/-! The start of a file. Before the class and the byte order are known only single bytes are
looked at, and those are the same in every encoding. -/

section
variable {e : Encoding} {file : List UInt8} {p : Parts} {data : ByteArray} (h : IsFile e file p)
  (hdata : data.data.toList = file)
include h hdata

theorem IsFile.isElf : ¬ (({ data } : Container).data.size < 16 ||
    ({ data } : Container).bytes 0 4 ≠ magicBytes) = true := by
  have hstart : ({ data } : Container).Shows ⟨false, false⟩ file := ⟨hdata, rfl, rfl⟩
  have hmagic : ({ data } : Container).bytes 0 (0 + 4) = magicBytes :=
    hstart.bytes_of_at (FileHeader.start_of_at h.header).1 rfl
  have hlen := h.header.length_le
  rw [FileHeader.length_encode h.identification] at hlen
  have hplace : 52 ≤ e.place 52 64 := Encoding.le_place (by decide) (by decide)
  have hsize : data.size = file.length := hstart.size_eq
  rw [Nat.zero_add] at hmagic
  simp only [hmagic, ne_eq, not_true_eq_false, decide_false, Bool.or_false, decide_eq_true_eq]
  omega

theorem IsFile.class_eq : decide (({ data } : Container).word 4 1 = 2) = e.wide := by
  have hstart : ({ data } : Container).Shows ⟨false, false⟩ file := ⟨hdata, rfl, rfl⟩
  rw [hstart.byte_of_at (FileHeader.start_of_at h.header).2.1]
  cases e.wide <;> rfl

theorem IsFile.order_eq : decide (({ data } : Container).word 5 1 ≠ 1) = e.bigEndian := by
  have hstart : ({ data } : Container).Shows ⟨false, false⟩ file := ⟨hdata, rfl, rfl⟩
  rw [hstart.byte_of_at (FileHeader.start_of_at h.header).2.2]
  cases e.bigEndian <;> rfl

end

namespace Container.Shows

variable {c : Container} {e : Encoding} {file : List UInt8} {p : Parts} (hc : c.Shows e file)
  (h : IsFile e file p)
include hc h

theorem sectionTable_eq : c.sectionTable = p.sections.map SectionHeader.toSection := by
  obtain ⟨_, _, table, _, _, size, count⟩ := FileHeader.fields_of_at h.identification h.header
  rw [h.sectionSize] at size
  rw [h.sectionCount.1] at count
  have hentry : c.sectionSize = e.sectionSize := hc.place_eq 40 64
  simp only [sectionTable, hentry, hc.place_eq]
  rw [hc.address_of_at table h.sectionTable.1, if_neg h.sectionTable.2]
  exact hc.headerTable_of_at size (Encoding.place_lt (by decide) (by decide)) count
    h.sectionCount.2 (fun s _ => s.length_encode e)
    (fun s hs o hat => hc.sectionAt_of_at (h.sectionsFit s hs) hat) h.sections

theorem segmentTable_eq : c.segmentTable = p.segments.map SegmentHeader.toSegment := by
  obtain ⟨_, table, _, size, count, _, _⟩ := FileHeader.fields_of_at h.identification h.header
  rw [h.segmentSize] at size
  rw [h.segmentCount.1] at count
  have hentry : c.segmentSize = e.segmentSize := hc.place_eq 32 56
  simp only [segmentTable, hentry, hc.place_eq]
  rw [hc.address_of_at table h.segmentTable.1, if_neg h.segmentTable.2]
  exact hc.headerTable_of_at size (Encoding.place_lt (by decide) (by decide)) count
    h.segmentCount.2 (fun s _ => s.length_encode e)
    (fun s hs o hat => hc.segmentAt_of_at (h.segmentsFit s hs) hat) h.segments

end Container.Shows

/-- The container has read the headers of a file, and then the symbols of its symbol tables. -/
structure Container.HasRead (c : Container) (e : Encoding) (file : List UInt8) (p : Parts) :
    Prop where
  shows : c.Shows e file
  machine : c.machine = p.header.machine
  sections : c.sections = p.sections.map SectionHeader.toSection
  segments : c.segments = p.segments.map SegmentHeader.toSegment
  symbols : ∃ before : Container, before.Shows e file ∧
    before.sections = p.sections.map SectionHeader.toSection ∧ c.symbols = before.allSymbols
  isRead : c.isRead = true

/-- A file with the layout is read to its end. -/
theorem IsFile.read {e : Encoding} {file : List UInt8} {p : Parts} (h : IsFile e file p)
    {data : ByteArray} (hdata : data.data.toList = file) :
    ∃ c : Container, Container.read { data } = (true, c) ∧ c.HasRead e file p := by
  have hshows : ({ data, wide := e.wide, bigEndian := e.bigEndian } : Container).Shows e file :=
    ⟨hdata, rfl, rfl⟩
  have hholds : ({ data, wide := e.wide, bigEndian := e.bigEndian } : Container).holds 0
      ({ data, wide := e.wide, bigEndian := e.bigEndian } : Container).headerSize = true := by
    rw [Container.headerSize, hshows.place_eq]
    exact hshows.holds_of_at h.header
      (Nat.le_of_eq (FileHeader.length_encode h.identification).symm)
  have hmachine : ({ data, wide := e.wide, bigEndian := e.bigEndian } : Container).word 18 2 =
      p.header.machine :=
    hshows.word_of_at (FileHeader.fields_of_at h.identification h.header).1 h.machine
  unfold Container.read
  rw [if_neg (h.isElf hdata)]
  simp only [h.class_eq hdata, h.order_eq hdata, hholds, Bool.not_true, Bool.false_eq_true,
    if_false, hmachine, List.nil_append]
  have hsections := hshows.sectionTable_eq h
  exact ⟨_, rfl, ⟨hdata, rfl, rfl⟩, rfl, hsections, hshows.segmentTable_eq h,
    ⟨_, ⟨hdata, rfl, rfl⟩, hsections, rfl⟩, rfl⟩

end OatImage.Elf
