import OatImage.Lookup
import OatImage.Proofs.ElfSpan
import OatImage.Proofs.Relocation
import OatImage.Report

/-!
# Images in a container

It does not matter whether an image is loaded as it is or out of an ELF file that wraps it.
Loaded with the same settings, the two have the same bytes at the same addresses under the same
header, and where their instruction sets are the same they are the same image. Two things may
tell them apart: without a base address the container's own address counts, and without an
instruction set, asked for or in the header, that of the container's machine.
-/
namespace OatImage

open Decode

namespace Image

/-- Whether a buffer can be set up depends neither on where it is to lie nor on the instruction
set that is asked for, and a header has at least four bytes. -/
theorem exists_header_of_ofBuffer {memory : ByteArray} {base : Int} {asked : Option InstructionSet}
    {image : Image} (h : ofBuffer (some memory) base asked = .ok image) (base' : Int) :
    4 ≤ memory.size ∧ ∃ header, ∀ asked', ofBuffer (some memory) base' asked' =
      .ok (ofHeader (Region.ofBuffer memory base' (base' + memory.size)) header asked') := by
  unfold ofBuffer at h
  obtain ⟨b, stop, buffer, header, hb, hstop, hmemory, hrange, hmem, hheader, _⟩ := setup_eq_ok h
  cases hb
  cases hstop
  cases hmemory
  simp only [Option.map_some, Option.getD_some] at hrange hmem hheader
  have hback := Region.ofBuffer_backed (Int.le_of_lt hrange) hmem
  constructor
  · obtain ⟨magic, hmagic, _⟩ := bind_eq_ok.mp hheader
    obtain ⟨_, hcheck, _⟩ := bind_eq_ok.mp hmagic
    have hin := Region.contains_iff.mp (Region.contains_of_check hcheck)
    simp only [Region.ofBuffer] at hin
    omega
  · have hbegin : base' = base + (base' - base) := by omega
    have hstop : base + memory.size + (base' - base) = base' + memory.size := by omega
    have hregion : Region.ofBuffer memory base' (base' + memory.size) =
        (Region.ofBuffer memory base (base + memory.size)).moveBy (base' - base) := by
      rw [← ofBuffer_region_moveBy, ← hbegin, hstop]
    have hmove := (Header.decode_tracks hback.extends_moveBy hbegin).eq_moveBy
    rw [hheader, ← hregion] at hmove
    exact ⟨_, fun asked' => setup_of_decode (by omega) (by omega) hmove asked'⟩

end Image

theorem Value.isSet_of_integer {v : Value} {n : Int} (h : v.integer? = some n) :
    v.isSet = decide (n ≠ 0) := by
  cases v with
  | flag b => cases b <;> cases h <;> rfl
  | integer m =>
      cases h
      rfl
  | none | real _ | text _ | moment _ | list _ | table _ => cases h

namespace LoadSettings

variable {s : LoadSettings}

/-- The base address of an image in a container, where the base of the settings is a number. -/
theorem integer_baseOver {n : Int} (h : s.base.integer? = some n) (found : Nat) :
    (s.baseOver found).integer? = some (if n = 0 then (found : Int) else n) := by
  unfold baseOver
  rw [Value.isSet_of_integer h]
  by_cases hn : n = 0
  · simp only [hn, ne_eq, not_true_eq_false, decide_false, Bool.false_eq_true, if_false, if_true]
    rfl
  · simp only [hn, ne_eq, not_false_eq_true, decide_true, if_true, if_false]
    exact h

theorem address_of_integer {size : Nat} {base : Value} {n : Int} (h : base.integer? = some n) :
    address size base = .ok n := by
  simp only [address, h]

theorem setUp_eq_ok {found : Unwrapped} {loaded : Loaded} (h : s.setUp found = .ok loaded) :
    ∃ base image, Image.ofBuffer (some found.bytes) base s.asked = .ok image ∧
      loaded = ⟨if s.asked = none ∧ image.instructionSet = .none then
          { image with instructionSet := found.machine } else image,
        found.wrapping, found.base⟩ := by
  obtain ⟨base, _, h⟩ := bind_eq_ok.mp h
  cases himage : Image.ofBuffer (some found.bytes) base s.asked with
  | error e =>
      rw [himage] at h
      cases h
  | ok image =>
      rw [himage] at h
      dsimp only at h
      refine ⟨base, image, himage, ?_⟩
      by_cases hmachine : s.asked = none ∧ image.instructionSet = .none
      · rw [if_pos hmachine] at h ⊢
        exact (Except.ok.inj h).symm
      · rw [if_neg hmachine] at h ⊢
        exact (Except.ok.inj h).symm

/-- A file that was taken as it is does not begin as an ELF file does, and its bytes can be set
up at some address. -/
theorem raw_of_load {data : ByteArray} {loaded : Loaded} (h : (s.load data).outcome = .ok loaded)
    (hraw : loaded.wrapping = .raw) :
    (data.extract 0 4).toList ≠ Elf.magicBytes ∧
      ∃ base image, Image.ofBuffer (some data) base s.asked = .ok image := by
  rw [load, Logged.outcome_bind] at h
  obtain ⟨found, hfound, h⟩ := bind_eq_ok.mp h
  rw [Logged.outcome_liftM] at h
  obtain ⟨base, image, himage, rfl⟩ := setUp_eq_ok h
  have hwrapping : found.wrapping = .raw := hraw
  unfold unwrap at hfound
  by_cases helf : (data.extract 0 4).toList = Elf.magicBytes
  · -- what comes out of an ELF file is marked as such
    rw [if_pos helf] at hfound
    split at hfound
    · cases hfound
    · rw [Logged.outcome_bind] at hfound
      obtain ⟨⟨bytes, start⟩, _, hfound⟩ := bind_eq_ok.mp hfound
      cases hfound
      cases hwrapping
  · rw [if_neg helf] at hfound
    cases hfound
    exact ⟨helf, base, image, himage⟩

/-- Where neither the user nor the header names an instruction set, the machine's is taken. -/
theorem setUp_of_ofBuffer {found : Unwrapped} {n : Int} {image : Image}
    (hbase : found.base.integer? = some n)
    (h : Image.ofBuffer (some found.bytes) n s.asked = .ok image) :
    s.setUp found = .ok
      ⟨if s.asked = none ∧ image.instructionSet = .none then
          { image with instructionSet := found.machine } else image,
        found.wrapping, found.base⟩ := by
  rw [setUp, address_of_integer hbase]
  simp only [ok_bind, h]
  by_cases hmachine : s.asked = none ∧ image.instructionSet = .none
  · rw [if_pos hmachine, if_pos hmachine]
  · rw [if_neg hmachine, if_neg hmachine]

/-- A raw file has no machine, so its image is the one that is set up over its bytes. -/
theorem load_of_raw {data : ByteArray} (hno : (data.extract 0 4).toList ≠ Elf.magicBytes) {n : Int}
    {image : Image} (hbase : s.base.integer? = some n)
    (h : Image.ofBuffer (some data) n s.asked = .ok image) :
    (s.load data).outcome = .ok ⟨image, .raw, s.base⟩ := by
  have hset : s.setUp ⟨.raw, data, s.base, .none⟩ = _ := setUp_of_ofBuffer hbase h
  rw [load, unwrap, if_neg hno, Logged.outcome_bind, Logged.outcome_pure, ok_bind,
    Logged.outcome_liftM, hset]
  by_cases hmachine : s.asked = none ∧ image.instructionSet = .none
  · rw [if_pos hmachine]
    dsimp only
    rw [← hmachine.2]
  · rw [if_neg hmachine]

/-- A file that is not too long is loaded from its bytes. -/
theorem loadFile_of_fits {data : ByteArray} {path : String} {limit : Quantity}
    (hlimit : s.sizeLimit.quantity? = some limit) (hfits : limit.isBelow data.size = false) :
    (s.loadFile path (some data)).outcome = (s.load data).outcome := by
  have hsize : s.checkSize data.size = .ok () := by
    rw [checkSize, hlimit]
    dsimp only
    rw [hfits]
    rfl
  simp only [loadFile, Logged.outcome_bind, Logged.outcome_liftM, Logged.outcome_write, hsize,
    ok_bind]

/-- Out of a file that wraps it an image is set up over its own bytes. -/
theorem load_of_wraps {e : Elf.Encoding} {file image : ByteArray} {p : Elf.Parts} {address : Nat}
    {start last : String} {limit : Quantity}
    (hwraps : Elf.Wraps e file.data.toList p image.data.toList address start last)
    (hlong : 4 ≤ image.size) (hstart : s.startSymbol = .text start)
    (hlast : s.lastSymbol = .text last) (hlimit : s.sizeLimit.quantity? = some limit)
    (hfits : limit.isBelow image.size = false) {n : Int} {found : Image}
    (hbase : (s.baseOver address).integer? = some n)
    (h : Image.ofBuffer (some image) n s.asked = .ok found) :
    ∃ machine, (s.load file).outcome = .ok
      ⟨if s.asked = none ∧ found.instructionSet = .none then
          { found with instructionSet := machine } else found,
        .elf, s.baseOver address⟩ := by
  obtain ⟨c, hread, hhas⟩ := hwraps.isFile.read rfl
  have hmagic : (file.extract 0 4).toList = Elf.magicBytes := by
    rw [toList_eq, ByteArray.data_extract, Array.toList_extract, List.extract_eq_take_drop]
    exact (Elf.FileHeader.start_of_at hwraps.isFile.header).1.take_drop
  have hload := hwraps.load hlong hhas hlimit hfits
  have hset : s.setUp ⟨.elf, image, s.baseOver address, c.instructionSet⟩ = _ :=
    setUp_of_ofBuffer hbase h
  refine ⟨c.instructionSet, ?_⟩
  rw [load, unwrap, if_pos hmagic, hread, hstart, hlast]
  simp only [Logged.outcome_bind, Logged.outcome_liftM, hload, ok_bind, Logged.outcome_pure,
    Logged.debug, Logged.outcome_write]
  exact hset

end LoadSettings

/-- What is made of the answer of two steps is made of the answer of the second one. -/
theorem Logged.map_bind {α β γ : Type} (f : β → γ) (x : Logged α) (g : α → Logged β) :
    f <$> (x >>= g) = x >>= fun a => f <$> g a := by
  show (x.andThen g).andThen (fun b => pure (f b)) =
    x.andThen fun a => (g a).andThen fun b => pure (f b)
  rcases x with ⟨entries, outcome⟩
  cases outcome with
  | error e => rfl
  | ok a =>
      unfold andThen
      dsimp only
      rcases g a with ⟨entries', outcome'⟩
      cases outcome' with
      | error e => rfl
      | ok b => exact congrArg (Logged.mk · _) (List.append_assoc entries entries' [])

/-- The container is noted in a report and has no part in the rest of it. -/
theorem Report.build_wrapping (image : Image) (wrapping wrapping' : Wrapping)
    (base base' : Value) :
    Report.build ⟨image, wrapping', base'⟩ =
      (fun r => { r with wrapping := wrapping' }) <$> Report.build ⟨image, wrapping, base⟩ := by
  unfold Report.build
  dsimp only
  cases image.header.isValid with
  | false =>
      simp only [Bool.not_false, if_true, Logged.map_bind]
      rfl
  | true =>
      simp only [Bool.not_true, Bool.false_eq_true, if_false, Logged.map_bind]
      rfl

/-- The second image was loaded out of a container, the first one as it is: the same bytes at the
same addresses under the same header. Where neither the user nor the header names an instruction
set the container's machine may name one; else the two images are the same one, with the same
report but for the container and the same answer to every lookup. -/
structure Loaded.Matches (asked : Option InstructionSet) (raw elf : Loaded) : Prop where
  region : elf.image.region = raw.image.region
  header : elf.image.header = raw.image.header
  instructionSet :
    asked ≠ none ∨ InstructionSet.ofCode raw.image.header.instructionSetCode ≠ .none →
      elf.image.instructionSet = raw.image.instructionSet
  image : elf.image.instructionSet = raw.image.instructionSet → elf.image = raw.image
  report : elf.image.instructionSet = raw.image.instructionSet →
    Report.build elf = (fun r => { r with wrapping := .elf }) <$> Report.build raw
  lookup : elf.image.instructionSet = raw.image.instructionSet →
    ∀ descriptor name signature location,
      Lookup.runText elf.image descriptor name signature location =
        Lookup.runText raw.image descriptor name signature location

/-- Where the instruction sets are the same, so are the images. -/
theorem Loaded.matches_of_region {asked : Option InstructionSet} {raw elf : Loaded}
    (hregion : elf.image.region = raw.image.region) (hheader : elf.image.header = raw.image.header)
    (hisa : asked ≠ none ∨ InstructionSet.ofCode raw.image.header.instructionSetCode ≠ .none →
      elf.image.instructionSet = raw.image.instructionSet)
    (hwrapping : elf.wrapping = .elf) : raw.Matches asked elf := by
  rcases raw with ⟨⟨region, header, isa⟩, wrapping, base⟩
  rcases elf with ⟨⟨region', header', isa'⟩, wrapping', base'⟩
  cases hregion
  cases hheader
  cases hwrapping
  refine ⟨rfl, rfl, hisa, ?_, ?_, ?_⟩
  · rintro rfl
    rfl
  · rintro rfl
    exact Report.build_wrapping _ wrapping .elf base base'
  · rintro rfl descriptor name signature location
    rfl

namespace LoadSettings

variable {s : LoadSettings}

/-- A raw image that can be loaded with some settings can be loaded, with all settings whose base
address is a number, out of every ELF file that wraps it as well as it is. Where the base address
is not zero both matches; else the one out of the container begins at the container's address. -/
theorem load_wraps {s₀ : LoadSettings} {image file : ByteArray} {loaded : Loaded}
    (haccept : (s₀.load image).outcome = .ok loaded) (hraw : loaded.wrapping = .raw)
    {e : Elf.Encoding} {p : Elf.Parts} {address : Nat} {start last : String}
    (hwraps : Elf.Wraps e file.data.toList p image.data.toList address start last)
    (hstart : s.startSymbol = .text start) (hlast : s.lastSymbol = .text last) {base : Int}
    (hbase : s.base.integer? = some base) {limit : Quantity}
    (hlimit : s.sizeLimit.quantity? = some limit) (hfits : limit.isBelow image.size = false) :
    ∃ raw elf, (s.load image).outcome = .ok raw ∧ (s.load file).outcome = .ok elf ∧
      raw.wrapping = .raw ∧ elf.wrapping = .elf ∧ (base ≠ 0 → raw.Matches s.asked elf) ∧
        (base = 0 → elf.image.begin = address) := by
  obtain ⟨hno, base₀, image₀, himage⟩ := raw_of_load haccept hraw
  obtain ⟨hlong, header, hheader⟩ := Image.exists_header_of_ofBuffer himage base
  obtain ⟨_, header', hheader'⟩ := Image.exists_header_of_ofBuffer himage address
  have hloadRaw := load_of_raw hno hbase (hheader s.asked)
  have hbaseElf := integer_baseOver hbase address
  by_cases hzero : base = 0
  · rw [if_pos hzero] at hbaseElf
    obtain ⟨machine, hloadElf⟩ :=
      load_of_wraps hwraps hlong hstart hlast hlimit hfits hbaseElf (hheader' s.asked)
    refine ⟨_, _, hloadRaw, hloadElf, rfl, rfl, fun hne => absurd hzero hne, fun _ => ?_⟩
    dsimp only
    split <;> rfl
  · rw [if_neg hzero] at hbaseElf
    obtain ⟨machine, hloadElf⟩ :=
      load_of_wraps hwraps hlong hstart hlast hlimit hfits hbaseElf (hheader s.asked)
    refine ⟨_, _, hloadRaw, hloadElf, rfl, rfl, fun _ => ?_, fun h => absurd h hzero⟩
    refine Loaded.matches_of_region ?_ ?_ ?_ rfl
    · dsimp only
      split <;> rfl
    · dsimp only
      split <;> rfl
    · -- the machine counts only where nobody names an instruction set
      dsimp only
      rintro (hasked | hcode)
      · rw [if_neg fun hboth => hasked hboth.1]
      · rw [if_neg]
        rintro ⟨hasked, hnone⟩
        simp only [Image.ofHeader, hasked, Option.getD_none] at hnone hcode
        exact hcode hnone

/-- The parts of a small ELF file around an image of 76 bytes at the address 8192: behind the
header the program header, the image, the names, the symbols and the section headers. -/
def smallParts (e : Elf.Encoding) : Elf.Parts :=
  let image := e.place 52 64 + e.segmentSize
  let names := image + 76
  let symbols := names + 21
  let sections := symbols + 3 * e.symbolSize
  let plain : Elf.SectionHeader :=
    { kind := 0, offset := 0, size := 0, link := 0, entrySize := 0, name := 0, flags := 0
      address := 0, info := 0, alignment := 0 }
  let symbolTable : Elf.SectionHeader :=
    { plain with
      kind := Elf.dynamicSymbolTable, offset := symbols, size := 3 * e.symbolSize, link := 2
      entrySize := e.symbolSize }
  let stringTable : Elf.SectionHeader := { plain with kind := 3, offset := names, size := 21 }
  { header :=
      { identification := [1, 0, 0, 0, 0, 0, 0, 0, 0, 0], kind := 3, machine := 183, version := 1
        entry := 0, segmentTable := e.place 52 64, sectionTable := sections, flags := 0
        headerSize := e.place 52 64, segmentSize := e.segmentSize, segmentCount := 1
        sectionSize := e.sectionSize, sectionCount := 3, sectionNames := 0 }
    sections := [plain, symbolTable, stringTable]
    segments :=
      [{ kind := Elf.loadable, offset := image, address := 8192, fileSize := 76, memorySize := 76
         flags := 5, physical := 8192, alignment := 1 }]
    symbolTable
    stringTable
    names := [0] ++ Elf.asciiBytes "oatdata" ++ [0] ++ Elf.asciiBytes "oatlastword" ++ [0]
    symbols :=
      [⟨0, 0, 0, 0, 0, 0⟩, ⟨1, 8192, 76, 17, 0, 1⟩, ⟨9, 8264, 4, 17, 0, 1⟩] }

def smallFile (e : Elf.Encoding) (image : ByteArray) : ByteArray :=
  let p := smallParts e
  ⟨(p.header.encode e ++ p.segments.flatMap (Elf.SegmentHeader.encode e) ++ image.data.toList ++
    p.names ++ p.symbols.flatMap (Elf.SymbolEntry.encode e) ++
    p.sections.flatMap (Elf.SectionHeader.encode e)).toArray⟩

/-- Each of the four encodings has a file that wraps the image. -/
theorem smallFile_wraps (e : Elf.Encoding) :
    Elf.Wraps e (smallFile e Image.cutStream).data.toList (smallParts e)
      Image.cutStream.data.toList 8192 "oatdata" "oatlastword" := by
  have hstart : Elf.IsName "oatdata" := ⟨by simp, by decide, by decide⟩
  have hlast : Elf.IsName "oatlastword" := ⟨by simp, by decide, by decide⟩
  -- what the file holds is computed, in each encoding on its own
  obtain ⟨wide, bigEndian⟩ := e
  cases wide <;> cases bigEndian <;> exact
    { isFile :=
        { identification := rfl
          header := by decide +kernel
          machine := by decide
          sectionTable := by decide +kernel
          sectionSize := rfl
          sectionCount := by decide
          sections := by decide +kernel
          sectionsFit := by decide +kernel
          segmentTable := by decide +kernel
          segmentSize := rfl
          segmentCount := by decide
          segments := by decide +kernel
          segmentsFit := by decide +kernel }
      hasSymbols :=
        { symbolTable := rfl
          entrySize := rfl
          size := rfl
          symbols := by decide +kernel
          symbolsFit := by decide +kernel
          stringTable := rfl
          names := by decide +kernel
          namesSize := by decide +kernel }
      segment := ⟨_, rfl, rfl, rfl, rfl, by decide +kernel⟩
      exportsStart := ⟨hstart, by decide +kernel, by decide +kernel⟩
      exportsLast := ⟨hlast, by decide +kernel, by decide +kernel⟩ }

theorem load_wraps_smallFile :
    ∃ raw elf : Loaded,
      (({ base := .integer 4096 } : LoadSettings).load Image.cutStream).outcome = .ok raw ∧
        (({ base := .integer 4096 } : LoadSettings).load
          (smallFile ⟨true, true⟩ Image.cutStream)).outcome = .ok elf ∧
          raw.Matches none elf := by
  have hno : (Image.cutStream.extract 0 4).toList ≠ Elf.magicBytes := by
    rw [toList_eq]
    decide
  obtain ⟨image, himage, _⟩ := Image.exists_ofBuffer_of_any 0 Image.cutStream none
    (p := fun _ => true) (by decide) (by decide +kernel)
  have haccept : (({} : LoadSettings).load Image.cutStream).outcome =
      .ok ⟨image, .raw, .integer 0⟩ := load_of_raw hno rfl himage
  have hfits : (Quantity.whole 536870912).isBelow Image.cutStream.size = false := by decide
  obtain ⟨raw, elf, hloadRaw, hloadElf, _, _, hmatches, _⟩ :=
    load_wraps (s := { base := .integer 4096 }) haccept rfl (smallFile_wraps ⟨true, true⟩) rfl rfl
      rfl rfl hfits
  exact ⟨raw, elf, hloadRaw, hloadElf, hmatches (by decide)⟩

end LoadSettings

end OatImage
