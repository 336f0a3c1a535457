import OatImage.Proofs.ElfReading

/-!
# The image between two symbols

A container that has read a file finds the symbols that the dynamic symbol table of the file
exports, whatever other symbol tables the file has: theirs come later and the first symbol with
a name counts. Between the two symbols of an image lies what the one loadable segment holds.
-/
namespace OatImage.Elf

open Container

/-! Names. -/

/-- A byte reads as an ASCII character only if it is the byte of the character: a byte from 0x80
on reads as U+FFFD. -/
theorem decodeByte_eq_iff {b : UInt8} {c : Char} (hc : c.toNat < 128) :
    (if b < 0x80 then Char.ofNat b.toNat else '\uFFFD') = c ↔ b = UInt8.ofNat c.toNat := by
  have hbyte : (UInt8.ofNat c.toNat).toNat = c.toNat := by
    rw [UInt8.toNat_ofNat']
    exact Nat.mod_eq_of_lt (by omega)
  by_cases hb : b < 0x80
  · have hlt : b.toNat < 128 := hb
    have hchar : (Char.ofNat b.toNat).toNat = b.toNat := by
      have hvalid : b.toNat.isValidChar := .inl (by omega)
      rw [Char.ofNat, dif_pos hvalid]
      rfl
    rw [if_pos hb]
    constructor
    · intro heq
      rw [← heq, hchar, UInt8.ofNat_toNat]
    · intro heq
      rw [heq, hbyte, Char.ofNat_toNat]
  · rw [if_neg hb]
    constructor
    · intro heq
      rw [← heq] at hc
      exact absurd hc (by decide)
    · intro heq
      have hge : ¬ b.toNat < 128 := hb
      rw [heq, hbyte] at hge
      exact absurd hc hge

theorem decodeReplacing_eq_iff {bytes : List UInt8} {name : String}
    (hascii : ∀ c ∈ name.toList, c.toNat < 128) :
    Ascii.decodeReplacing bytes = name ↔ bytes = asciiBytes name := by
  rw [Ascii.decodeReplacing, ← String.toList_inj, String.toList_ofList, asciiBytes]
  revert hascii
  generalize name.toList = chars
  intro hascii
  induction bytes generalizing chars with
  | nil => cases chars <;> simp
  | cons b bytes ih =>
      cases chars with
      | nil => simp
      | cons c chars =>
          rw [List.map_cons, List.map_cons, List.cons.injEq, List.cons.injEq,
            decodeByte_eq_iff (hascii c List.mem_cons_self),
            ih chars fun x hx => hascii x (List.mem_cons_of_mem c hx)]

/-- A name that is short enough to be read in full is read from its bytes and no others. -/
theorem nameAt_eq_iff {names : List UInt8} {offset : Nat} {name : String} (h : IsName name) :
    nameAt names offset = name ↔ nameBytes names offset = asciiBytes name := by
  have htake : ((names.drop offset).take nameLimit).takeWhile (· ≠ 0) =
      (nameBytes names offset).take nameLimit := List.take_takeWhile.symm
  have hlen : (asciiBytes name).length < nameLimit := by
    rw [asciiBytes, List.length_map]
    exact h.short
  rw [nameAt, htake, decodeReplacing_eq_iff h.ascii]
  constructor
  · intro heq
    have hshort := congrArg List.length heq
    rw [List.length_take] at hshort
    rwa [List.take_of_length_le (by omega)] at heq
  · intro heq
    rw [heq, List.take_of_length_le (Nat.le_of_lt hlen)]

/-! Symbols. -/

section
variable {c : Container} {e : Encoding} {file : List UInt8} {p : Parts}

/-- The symbols of the dynamic symbol table, each under its name; one without a name is none. -/
def Parts.exported (p : Parts) : List Symbol :=
  (p.symbols.map fun s => (⟨nameAt p.names s.name, s.value, s.size⟩ : Symbol)).filter
    fun s => s.name ≠ ""

theorem Container.Shows.tableSymbols_eq (hc : c.Shows e file) (h : HasSymbols e file p)
    (hsections : c.sections = p.sections.map SectionHeader.toSection) :
    c.tableSymbols p.symbolTable.toSection = p.exported := by
  have hnames : c.linkedNames p.symbolTable.toSection = p.names := by
    simp only [linkedNames, hsections, List.getElem?_map, h.stringTable, Option.map_some]
    rw [h.namesSize, if_pos (hc.holds_of_at h.names (Nat.le_refl _)), hc.bytes_of_at h.names rfl]
  have hpos : 0 < e.symbolSize := Encoding.le_place (by decide) (by decide)
  have hcount : p.symbolTable.size / p.symbolTable.entrySize = p.symbols.length := by
    rw [h.size, h.entrySize, Nat.mul_div_cancel_left _ hpos]
  have hstride : c.symbolSize = p.symbolTable.entrySize := by
    rw [h.entrySize, Container.symbolSize, hc.place_eq]
    rfl
  have hentries : c.entries c.symbolSize p.symbolTable.entrySize (c.symbolAt p.names)
      p.symbols.length p.symbolTable.offset =
        p.symbols.map fun s => ⟨nameAt p.names s.name, s.value, s.size⟩ := by
    rw [hstride]
    refine hc.entries_of_at (fun s _ => ?_) (fun s hs o hat => ?_) h.symbols
    · rw [s.length_encode, h.entrySize]
    · exact hc.symbolAt_of_at p.names (h.symbolsFit s hs) hat
  have hzero : ¬ p.symbolTable.entrySize = 0 := by
    rw [h.entrySize]
    omega
  simp only [tableSymbols, hnames, hcount, hentries, hzero, decide_false, Bool.false_or]
  cases hempty : p.names with
  | cons b names =>
      rw [Parts.exported, hempty]
      rfl
  | nil =>
      -- an empty string table has no names but empty ones
      have hnone : ∀ offset, nameAt [] offset = "" := by
        intro offset
        rw [nameAt, List.drop_nil]
        rfl
      simp only [Parts.exported, hempty, hnone]
      simp

/-- The symbols of other tables come behind those of the dynamic symbol table. -/
theorem Container.Shows.allSymbols_eq (hc : c.Shows e file) (h : HasSymbols e file p)
    (hsections : c.sections = p.sections.map SectionHeader.toSection) :
    ∃ others, c.allSymbols = p.exported ++ others := by
  have htable : (c.sections.filter fun s => s.kind = dynamicSymbolTable) =
      [p.symbolTable.toSection] := by
    rw [hsections, List.filter_map]
    exact congrArg (List.map SectionHeader.toSection) h.symbolTable
  rw [allSymbols, List.flatMap_cons, htable, List.flatMap_singleton,
    hc.tableSymbols_eq h hsections]
  exact ⟨_, rfl⟩

/-- An exported name is found, with the value and the size that the table gives it. -/
theorem Container.HasRead.symbol_of_exports (hread : c.HasRead e file p)
    (h : HasSymbols e file p) {name : String} {value : Nat} {size : Nat → Prop}
    (hx : Exports p name value size) :
    ∃ s, c.symbol name = some s ∧ s.value = value ∧ size s.size := by
  obtain ⟨before, hshows, hsections, hsymbols⟩ := hread.symbols
  obtain ⟨others, hall⟩ := hshows.allSymbols_eq h hsections
  obtain ⟨entry, hentry, hname⟩ := hx.present
  have hfound : ∃ s, (p.exported.find? fun s => s.name = name) = some s := by
    rw [← Option.isSome_iff_exists, List.find?_isSome]
    refine ⟨⟨nameAt p.names entry.name, entry.value, entry.size⟩, ?_, ?_⟩
    · rw [Parts.exported, List.mem_filter, (nameAt_eq_iff hx.isName).mpr hname]
      refine ⟨?_, decide_eq_true hx.isName.nonempty⟩
      rw [List.mem_map]
      exact ⟨entry, hentry, by rw [(nameAt_eq_iff hx.isName).mpr hname]⟩
    · exact decide_eq_true ((nameAt_eq_iff hx.isName).mpr hname)
  obtain ⟨s, hs⟩ := hfound
  refine ⟨s, ?_, ?_⟩
  · rw [symbol, hsymbols, hall, List.find?_append, hs]
    rfl
  · have hmem := List.mem_of_find?_eq_some hs
    have hits : s.name = name := by simpa using List.find?_some hs
    rw [Parts.exported, List.mem_filter, List.mem_map] at hmem
    obtain ⟨⟨other, hother, rfl⟩, _⟩ := hmem
    exact hx.only other hother ((nameAt_eq_iff hx.isName).mp hits)

end

/-! Segments. -/

section
variable {c : Container} {e : Encoding} {file : List UInt8} {p : Parts}

theorem length_zeros (size : Nat) : (zeros size).size = size := by
  rw [zeros, ByteArray.size, Array.size_replicate]

/-- A chunk as long as the buffer takes its place. -/
theorem overlay_eq_chunk {buffer chunk : ByteArray} (h : chunk.size = buffer.size) :
    overlay buffer 0 chunk = chunk := by
  apply ByteArray.ext
  apply Array.toList_inj.mp
  have hlen : buffer.data.toList.length = buffer.size := rfl
  rw [overlay, ByteArray.toList_data_append, ByteArray.toList_data_append, Region.contents_cut,
    Region.contents_cut, Nat.sub_self, List.take_zero, List.nil_append, Nat.zero_add, h,
    Nat.sub_self, List.take_zero, List.append_nil]

/-- A segment that covers the span of an image puts its bytes there. -/
theorem Container.Shows.placeSegment_eq (hc : c.Shows e file) {s : Segment} {image : ByteArray}
    (hsize : s.fileSize = image.size) (hat : At file s.offset image.data.toList)
    (hpos : 0 < image.size) {buffer : ByteArray} (hbuffer : buffer.size = image.size) :
    c.placeSegment s.address (s.address + image.size) buffer s = image := by
  have hchunk : cut c.data s.offset (s.offset + image.size) = image := by
    apply ByteArray.ext
    apply Array.toList_inj.mp
    rw [Region.contents_cut, hc.data, Nat.add_sub_cancel_left]
    exact hat.take_drop
  have hspan : ¬ s.address + image.size ≤ s.address := by omega
  simp only [placeSegment, hsize, Nat.max_self, Nat.min_self, if_neg hspan, Nat.sub_self,
    Nat.add_zero, Nat.add_sub_cancel_left, hchunk]
  exact overlay_eq_chunk hbuffer.symm

/-- The container puts an image at an address: its one loadable segment holds it. -/
theorem Container.HasRead.spanBytes_eq (hread : c.HasRead e file p) {s : SegmentHeader}
    (hs : (p.segments.filter fun s => s.kind = loadable) = [s]) {image : ByteArray}
    (hfile : s.fileSize = image.size) (hmemory : s.memorySize = image.size)
    (hat : At file s.offset image.data.toList) (hpos : 0 < image.size) :
    c.reserved = image.size ∧ c.spanBytes s.address (s.address + image.size) = image := by
  have hloadable : c.loadableSegments = [s.toSegment] := by
    rw [loadableSegments, hread.segments, List.filter_map]
    exact congrArg (List.map SegmentHeader.toSegment) hs
  constructor
  · rw [reserved, hloadable]
    exact hmemory
  · rw [spanBytes, hloadable]
    exact hread.shows.placeSegment_eq hfile hat hpos
      (by rw [Nat.add_sub_cancel_left, length_zeros])

end

theorem checkLimit_of_quantity {limit : Value} {quantity : Quantity} {span : Nat}
    (hlimit : limit.quantity? = some quantity) (hfits : quantity.isBelow span = false) :
    checkLimit span limit = .ok () := by
  unfold checkLimit
  split
  · rfl
  · rename_i other hother
    rw [hlimit] at hother
    cases hother
    rw [hfits]
    rfl
  · rename_i hnone
    rw [hlimit] at hnone
    cases hnone

/-- A buffer that is no longer than the file can be made. -/
theorem Container.makeRoom_of_le {c : Container} {size : Nat} (h : size ≤ c.data.size) :
    c.makeRoom size = .ok () := by
  have hroom : c.hasRoom size = true := by
    rw [hasRoom, decide_eq_true h, Bool.or_true]
  rw [makeRoom, if_pos hroom]

/-- The image between the two symbols is the one that the file puts there, if a limit allows it. -/
theorem Wraps.load {e : Encoding} {file : List UInt8} {p : Parts} {image : ByteArray}
    {address : Nat} {start last : String}
    (h : Wraps e file p image.data.toList address start last) (hlong : 4 ≤ image.size)
    {c : Container} (hread : c.HasRead e file p) {limit : Value} {quantity : Quantity}
    (hlimit : limit.quantity? = some quantity) (hfits : quantity.isBelow image.size = false) :
    c.load (.text start) (.text last) limit = .ok (image, address) := by
  have hlen : image.data.toList.length = image.size := rfl
  obtain ⟨segment, hsegment, rfl, hfile, hmemory, hat⟩ := h.segment
  obtain ⟨first, hfirst, hbegin, _⟩ := hread.symbol_of_exports h.hasSymbols h.exportsStart
  obtain ⟨final, hfinal, hend, hsize⟩ := hread.symbol_of_exports h.hasSymbols h.exportsLast
  obtain ⟨hreserved, hspan⟩ := hread.spanBytes_eq hsegment hfile hmemory hat (by omega)
  have hstop : final.value + max final.size 4 = segment.address + image.size := by
    rw [hend, hsize, hlen]
    omega
  have hnotEmpty : ¬ segment.address + image.size ≤ segment.address := by omega
  have hinFile : image.size ≤ c.data.size := by
    have hend := hat.length_le
    rw [hread.shows.size_eq]
    omega
  have hnamedFirst : c.named (.text start) = .ok first := by simp only [named, hfirst]
  have hnamedFinal : c.named (.text last) = .ok final := by simp only [named, hfinal]
  unfold Container.load
  rw [hread.isRead, hnamedFirst, hnamedFinal]
  simp only [Decode.ok_bind, Bool.not_true, Bool.false_eq_true, if_false, hstop, hbegin,
    Nat.add_sub_cancel_left, hreserved, Nat.lt_irrefl, if_neg hnotEmpty,
    checkLimit_of_quantity hlimit hfits, makeRoom_of_le hinFile, hspan]
  rfl

end OatImage.Elf
