import OatImage.Proofs.Containers
import OatImage.Proofs.ElfMemory
import OatImage.Proofs.HeaderLayout

/-!
# What settles a loaded image

Loading a file with settings that are of use ends with an image or with a failure to load. There
is one more way to end: the limit is the user's, and where it allows images that are longer than
any buffer, making one breaks the load off. Where there is an image, its instruction set, its base
address and its size are settled in a fixed order: the settings count before the header and the
header before the container's machine, and a base address of zero leaves the place of an image to
its container.
-/
namespace OatImage

open Decode

theorem Decode.error_ne_ok {α : Type} (e : Fault) (a : α) : (.error e : Decode α) ≠ .ok a := by
  intro h
  cases h

/-- A failure to load. -/
def Fault.IsLoad (e : Fault) : Prop := ∃ cause, e = .load cause

/-- The instruction set that counts: the one that is asked for, else that of the header's code if
the code has one, else that of the machine. -/
def InstructionSet.settled (asked : Option InstructionSet) (code : Int)
    (machine : InstructionSet) : InstructionSet :=
  asked.getD (if ofCode code = .none then machine else ofCode code)

/-- An image was made of the bytes that were found, at an address. -/
structure Loaded.IsMadeOf (asked : Option InstructionSet) (found : Unwrapped) (begin : Int)
    (loaded : Loaded) : Prop where
  wrapping : loaded.wrapping = found.wrapping
  base : loaded.base = found.base
  bytes : loaded.image.region.bytes = found.bytes
  place : loaded.image.begin = begin
  size : loaded.image.size = found.bytes.size
  header : Header.decode loaded.image.region begin = .ok loaded.image.header
  instructionSet : loaded.image.instructionSet =
    .settled asked loaded.image.header.instructionSetCode found.machine

/-- The image of a file, with a base address, a limit and the names of two symbols. -/
inductive LoadSettings.Opens (s : LoadSettings) (base limit : Int) (start last : String)
    (data : ByteArray) (loaded : Loaded) : Prop
  /-- A file that does not begin as an ELF file does is all of its image. -/
  | raw (hmagic : (data.extract 0 4).toList ≠ Elf.magicBytes)
      (hmade : loaded.IsMadeOf s.asked ⟨.raw, data, s.base, .none⟩ base) :
      Opens s base limit start last data loaded
  /-- In an ELF file the image is the memory between the two symbols, within the limit and no
  longer than a buffer can be. It lies at the first symbol unless the base address is set. -/
  | elf (c : Elf.Container) (first final : Elf.Symbol) (bytes : ByteArray)
      (hmagic : (data.extract 0 4).toList = Elf.magicBytes)
      (hread : Elf.Container.read { data } = (true, c))
      (hfirst : c.symbol start = some first) (hfinal : c.symbol last = some final)
      (hloadable : ¬ Elf.Unloadable c.segments (some limit) (some first) (some final))
      (hroom : Elf.HasRoom data.data.toList (final.stop - first.value))
      (hbytes : Elf.IsImageOf data.data.toList c.segments first final bytes)
      (hwithin : (bytes.size : Int) ≤ limit)
      (hmade : loaded.IsMadeOf s.asked ⟨.elf, bytes, s.baseOver first.value, c.instructionSet⟩
        (if base = 0 then first.value else base)) :
      Opens s base limit start last data loaded

/-- Nothing speaks against the memory between the two symbols of an ELF file, but no buffer is as
long as that. -/
structure LoadSettings.Overflows (limit : Int) (start last : String) (data : ByteArray)
    (c : Elf.Container) (first final : Elf.Symbol) : Prop where
  isElf : (data.extract 0 4).toList = Elf.magicBytes
  isRead : Elf.Container.read { data } = (true, c)
  hasFirst : c.symbol start = some first
  hasFinal : c.symbol last = some final
  loadable : ¬ Elf.Unloadable c.segments (some limit) (some first) (some final)
  noRoom : ¬ Elf.HasRoom data.data.toList (final.stop - first.value)

/-- How loading a file ends: with the image that the file opens to, with a failure to load, or for
want of a buffer. -/
structure LoadSettings.Settles (s : LoadSettings) (base limit : Int) (start last : String)
    (data : ByteArray) (outcome : Decode Loaded) : Prop where
  failsOnly : FailsOnly (fun e => e.IsLoad ∨ e = .broken .bufferBeyond) outcome
  overflows : outcome = .error (.broken .bufferBeyond) ↔
    ∃ c first final, Overflows limit start last data c first final
  opens : ∀ loaded, outcome = .ok loaded ↔ s.Opens base limit start last data loaded

/-! Setting up the bytes that were found. -/

theorem Header.decode_failsOnly {r : Region} (hr : r.Backed) (address : Int) :
    FailsOnly Fault.IsDecode (decode r address) := by
  by_cases hin : LiesIn r address
  · obtain ⟨header, hheader⟩ := exists_decode hr hin
    rw [hheader]
    exact FailsOnly.ok _
  · obtain ⟨d, hd⟩ := decode_of_not_liesIn hin
    rw [hd]
    exact FailsOnly.error ⟨d, rfl⟩

namespace Image

/-- What cannot be set up has an unusable range or a header that does not decode. -/
theorem setup_failsOnly (begin stop : Option Int) (memory : Option ByteArray)
    (asked : Option InstructionSet) :
    FailsOnly (fun e => (LoadSettings.asLoadFault e).IsLoad) (setup begin stop memory asked) := by
  cases begin with
  | none => exact FailsOnly.error ⟨_, rfl⟩
  | some begin =>
      cases stop with
      | none => exact FailsOnly.error ⟨_, rfl⟩
      | some stop =>
          unfold setup
          refine FailsOnly.ite (fun _ => FailsOnly.error ⟨_, rfl⟩) fun hrange => ?_
          cases memory with
          | none => exact FailsOnly.error ⟨_, rfl⟩
          | some memory =>
              refine FailsOnly.ite (fun _ => FailsOnly.error ⟨_, rfl⟩) fun hmemory => ?_
              have hr : (Region.ofBuffer memory begin stop).Backed :=
                Region.ofBuffer_backed (by omega) (by omega)
              refine FailsOnly.bind ?_ fun _ _ => FailsOnly.pure _
              refine (Header.decode_failsOnly hr begin).mono ?_
              rintro _ ⟨d, rfl⟩
              exact ⟨_, rfl⟩

theorem ofBuffer_whole (buffer : ByteArray) (begin : Int) :
    Region.ofBuffer buffer begin (begin + buffer.size) =
      ⟨buffer, begin, begin + buffer.size⟩ := by
  have hsize : (begin + (buffer.size : Int) - begin).toNat = buffer.size := by omega
  rw [Region.ofBuffer, hsize, Region.cut_whole]

/-- A buffer is set up with the header at its start. -/
theorem ofBuffer_eq_ok_iff {buffer : ByteArray} {begin : Int} {asked : Option InstructionSet}
    {image : Image} : ofBuffer (some buffer) begin asked = .ok image ↔
      ∃ header, Header.decode ⟨buffer, begin, begin + buffer.size⟩ begin = .ok header ∧
        image = ofHeader ⟨buffer, begin, begin + buffer.size⟩ header asked := by
  rw [← ofBuffer_whole]
  constructor
  · intro h
    unfold ofBuffer at h
    obtain ⟨b, stop, memory, header, hb, hstop, hmemory, _, _, hheader, himage⟩ := setup_eq_ok h
    cases hb
    cases hstop
    cases hmemory
    exact ⟨header, hheader, himage⟩
  · rintro ⟨header, hheader, rfl⟩
    have hin := (Header.liesIn_of_decode hheader).1
    have hend : begin + 8 ≤ begin + buffer.size := (Region.contains_iff.mp hin).2.2
    exact setup_of_decode (by omega) (by omega) hheader asked

/-- The image with the instruction set that counts. -/
theorem ofHeader_settled (region : Region) (header : Header) (asked : Option InstructionSet)
    (machine : InstructionSet) :
    (if asked = none ∧ (ofHeader region header asked).instructionSet = .none then
      { ofHeader region header asked with instructionSet := machine }
    else ofHeader region header asked) =
      ⟨region, header, .settled asked header.instructionSetCode machine⟩ := by
  cases asked with
  | some isa => rfl
  | none =>
      by_cases hcode : InstructionSet.ofCode header.instructionSetCode = .none
      · simp only [ofHeader, InstructionSet.settled, hcode, Option.getD_none, and_self, if_true]
      · simp only [ofHeader, InstructionSet.settled, hcode, Option.getD_none, and_false, if_false]

end Image

namespace LoadSettings

variable {s : LoadSettings} {found : Unwrapped} {loaded : Loaded} {n : Int}

/-- What is set up over the bytes that were found is made of them, and everything that is made of
them is set up. -/
theorem setUp_eq_ok_iff (hbase : found.base.integer? = some n) :
    s.setUp found = .ok loaded ↔ loaded.IsMadeOf s.asked found n := by
  constructor
  · intro h
    cases himage : Image.ofBuffer (some found.bytes) n s.asked with
    | error e =>
        rw [setUp, address_of_integer hbase, ok_bind, himage] at h
        cases h
    | ok image =>
        obtain ⟨header, hheader, rfl⟩ := Image.ofBuffer_eq_ok_iff.mp himage
        rw [setUp_of_ofBuffer hbase himage, Image.ofHeader_settled] at h
        cases h
        exact
          { wrapping := rfl
            base := rfl
            bytes := rfl
            place := rfl
            size := by
              show n + (found.bytes.size : Int) - n = _
              omega
            header := hheader
            instructionSet := rfl }
  · intro h
    obtain ⟨⟨⟨bytes, begin, stop⟩, header, isa⟩, wrapping, base⟩ := loaded
    obtain ⟨hwrapping, hgiven, hbytes, hplace, hsize, hheader, hisa⟩ := h
    have hbegin : begin = n := hplace
    have hlength : stop - begin = found.bytes.size := hsize
    obtain rfl : stop = n + found.bytes.size := by omega
    dsimp only at hwrapping hgiven hbytes hisa
    subst hbegin hwrapping hgiven hbytes hisa
    have himage : Image.ofBuffer (some found.bytes) begin s.asked = .ok _ :=
      Image.ofBuffer_eq_ok_iff.mpr ⟨header, hheader, rfl⟩
    rw [setUp_of_ofBuffer hbase himage, Image.ofHeader_settled]

theorem setUp_failsOnly (hbase : found.base.integer? = some n) :
    FailsOnly Fault.IsLoad (s.setUp found) := by
  rw [setUp, address_of_integer hbase, ok_bind]
  have hsetup := Image.setup_failsOnly (some n) (some (n + found.bytes.size)) (some found.bytes)
    s.asked
  cases himage : Image.ofBuffer (some found.bytes) n s.asked with
  | error e => exact FailsOnly.error (hsetup e himage)
  | ok image => exact FailsOnly.ite (fun _ => FailsOnly.ok _) fun _ => FailsOnly.ok _

/-! Finding the bytes. -/

theorem checkLimit_of_integer {limit : Value} {bound : Int} (h : limit.integer? = some bound)
    (span : Nat) :
    Elf.Container.checkLimit span limit = Elf.Container.checkLimit span (.integer bound) := by
  cases limit with
  | flag b =>
      cases h
      rfl
  | integer m =>
      cases h
      rfl
  | none | real _ | text _ | moment _ | list _ | table _ => cases h

theorem load_of_integer {limit : Value} {bound : Int} (h : limit.integer? = some bound)
    (c : Elf.Container) (start last : Value) :
    c.load start last limit = c.load start last (.integer bound) := by
  unfold Elf.Container.load
  simp only [checkLimit_of_integer h]

theorem unwrap_of_raw {data : ByteArray} (h : (data.extract 0 4).toList ≠ Elf.magicBytes) :
    (s.unwrap data).outcome = .ok ⟨.raw, data, s.base, .none⟩ := by
  rw [unwrap, if_neg h]
  rfl

theorem unwrap_of_elf {data : ByteArray} {c : Elf.Container}
    (h : (data.extract 0 4).toList = Elf.magicBytes)
    (hread : Elf.Container.read { data } = (true, c)) :
    (s.unwrap data).outcome = (do
      let (bytes, found) ← c.load s.startSymbol s.lastSymbol s.sizeLimit
      pure ⟨.elf, bytes, s.baseOver found, c.instructionSet⟩) := by
  rw [unwrap, if_pos h, hread]
  dsimp only
  rw [Logged.outcome_bind, Logged.outcome_liftM]
  refine congrArg _ (funext fun _ => ?_)
  rw [Logged.outcome_bind]
  rfl

theorem unwrap_of_malformed {data : ByteArray} {c : Elf.Container}
    (h : (data.extract 0 4).toList = Elf.magicBytes)
    (hread : Elf.Container.read { data } = (false, c)) :
    (s.unwrap data).outcome = .error (.load .malformedContainer) := by
  rw [unwrap, if_pos h, hread]
  rfl

end LoadSettings

namespace Elf

/-- The memory between two symbols is one sequence of bytes. -/
theorem IsImageOf.unique {file : List UInt8} {segments : List Segment} {first final : Symbol}
    {bytes bytes' : ByteArray} (h : IsImageOf file segments first final bytes)
    (h' : IsImageOf file segments first final bytes') : bytes = bytes' := by
  have hsize : bytes.size = bytes'.size := h.size.trans h'.size.symm
  refine ByteArray.ext_getElem hsize fun k hk hk' => ?_
  exact (h.bytes k hk).unique (h'.bytes k hk')

theorem le_limit_of_loadable {segments : List Segment} {limit : Int} {first final : Symbol}
    (h : ¬ Unloadable segments (some limit) (some first) (some final)) :
    ((final.stop - first.value : Nat) : Int) ≤ limit := by
  by_contra hover
  exact h (.overLimit first final limit rfl (by omega))

end Elf

namespace LoadSettings

variable {s : LoadSettings} {base limit : Int} {start last : String}

/-! A file is read as one container, which has one symbol of each name. -/

section
variable {data : ByteArray} {c : Elf.Container} {first final : Elf.Symbol}

theorem Opens.loadable {loaded : Loaded} (h : s.Opens base limit start last data loaded)
    (hmagic : (data.extract 0 4).toList = Elf.magicBytes)
    (hread : Elf.Container.read { data } = (true, c)) :
    ¬ Elf.Unloadable c.segments (some limit) (c.symbol start) (c.symbol last) := by
  cases h with
  | raw hno _ => exact absurd hmagic hno
  | elf c' first final bytes _ hread' hfirst hfinal hloadable =>
      cases hread.symm.trans hread'
      rw [hfirst, hfinal]
      exact hloadable

theorem Opens.exists_bytes {loaded : Loaded} (h : s.Opens base limit start last data loaded)
    (hmagic : (data.extract 0 4).toList = Elf.magicBytes)
    (hread : Elf.Container.read { data } = (true, c)) (hfirst : c.symbol start = some first)
    (hfinal : c.symbol last = some final) :
    ∃ bytes, Elf.HasRoom data.data.toList (final.stop - first.value) ∧
      Elf.IsImageOf data.data.toList c.segments first final bytes ∧
      loaded.IsMadeOf s.asked ⟨.elf, bytes, s.baseOver first.value, c.instructionSet⟩
        (if base = 0 then first.value else base) := by
  cases h with
  | raw hno _ => exact absurd hmagic hno
  | elf c' first' final' bytes _ hread' hfirst' hfinal' _ hroom hbytes _ hmade =>
      cases hread.symm.trans hread'
      cases hfirst.symm.trans hfirst'
      cases hfinal.symm.trans hfinal'
      exact ⟨bytes, hroom, hbytes, hmade⟩

theorem Overflows.not_unloadable {c' : Elf.Container}
    (h : Overflows limit start last data c' first final)
    (hread : Elf.Container.read { data } = (true, c)) :
    ¬ Elf.Unloadable c.segments (some limit) (c.symbol start) (c.symbol last) := by
  cases hread.symm.trans h.isRead
  rw [h.hasFirst, h.hasFinal]
  exact h.loadable

theorem Overflows.not_hasRoom {c' : Elf.Container} {first' final' : Elf.Symbol}
    (h : Overflows limit start last data c' first' final')
    (hread : Elf.Container.read { data } = (true, c)) (hfirst : c.symbol start = some first)
    (hfinal : c.symbol last = some final) :
    ¬ Elf.HasRoom data.data.toList (final.stop - first.value) := by
  cases hread.symm.trans h.isRead
  cases hfirst.symm.trans h.hasFirst
  cases hfinal.symm.trans h.hasFinal
  exact h.noRoom

/-- What has no buffer is within the limit all the same. -/
theorem Overflows.le_limit (h : Overflows limit start last data c first final) :
    positionLimit ≤ limit := by
  have hwithin := Elf.le_limit_of_loadable h.loadable
  have hlong : ¬ final.stop - first.value < positionLimit := fun hshort => h.noRoom (.inl hshort)
  omega

end

/-- An outcome that has a buffer settles by the image that it is. -/
theorem Settles.of_failsOnly {data : ByteArray} {outcome : Decode Loaded}
    (hfails : FailsOnly Fault.IsLoad outcome)
    (hroom : ∀ {c first final}, ¬ Overflows limit start last data c first final)
    (hopens : ∀ loaded, outcome = .ok loaded ↔ s.Opens base limit start last data loaded) :
    s.Settles base limit start last data outcome where
  failsOnly := hfails.mono fun _ => .inl
  overflows := by
    constructor
    · intro hover
      obtain ⟨_, hload⟩ := hfails _ hover
      cases hload
    · rintro ⟨c, first, final, hover⟩
      exact absurd hover hroom
  opens := hopens

section
variable (hbase : s.base.integer? = some base)
include hbase

/-- A file that is no ELF file is set up as it is. -/
theorem load_settles_of_raw {data : ByteArray} (h : (data.extract 0 4).toList ≠ Elf.magicBytes)
    (limit : Int) (start last : String) :
    s.Settles base limit start last data (s.load data).outcome := by
  have hload : (s.load data).outcome = s.setUp ⟨.raw, data, s.base, .none⟩ := by
    rw [load, Logged.outcome_bind, unwrap_of_raw h]
    rfl
  rw [hload]
  refine .of_failsOnly (setUp_failsOnly hbase) (fun ho => h ho.isElf)
    fun loaded => (setUp_eq_ok_iff hbase).trans ?_
  constructor
  · exact .raw h
  · intro hopens
    cases hopens with
    | raw _ hmade => exact hmade
    | elf c first final bytes hmagic => exact absurd hmagic h

/-- The image of an ELF file that is read is the memory between the symbols, if there is any. -/
theorem load_settles_of_elf (hlimit : s.sizeLimit.integer? = some limit)
    (hstart : s.startSymbol = .text start) (hlast : s.lastSymbol = .text last)
    {data : ByteArray} (h : (data.extract 0 4).toList = Elf.magicBytes)
    {c : Elf.Container} (hread : Elf.Container.read { data } = (true, c))
    (hmemory : c.LoadsMemory data.data.toList c.segments start last (some limit)) :
    s.Settles base limit start last data (s.load data).outcome := by
  have hunwrap : (s.unwrap data).outcome = (do
      let (bytes, found) ← c.load (.text start) (.text last) (.orNone .integer (some limit))
      pure ⟨.elf, bytes, s.baseOver found, c.instructionSet⟩) := by
    rw [unwrap_of_elf h hread, load_of_integer hlimit, hstart, hlast]
    rfl
  by_cases hcause : Elf.Unloadable c.segments (some limit) (c.symbol start) (c.symbol last)
  · obtain ⟨e, he⟩ := hmemory.refused.mpr hcause
    rw [load, Logged.outcome_bind, hunwrap, he]
    refine .of_failsOnly (FailsOnly.error ⟨e, rfl⟩) (fun ho => ho.not_unloadable hread hcause)
      fun loaded => iff_of_false (error_ne_ok _ _) ?_
    exact fun hopens => hopens.loadable h hread hcause
  · obtain ⟨first, final, hfirst, hfinal, hload⟩ := hmemory.loaded hcause
    rw [hfirst, hfinal] at hcause
    rw [load, Logged.outcome_bind, hunwrap]
    generalize c.load (.text start) (.text last) (.orNone .integer (some limit)) = found at hload
    cases hload with
    | beyond hroom =>
        refine ⟨FailsOnly.error (.inr rfl), iff_of_true rfl ?_, fun loaded =>
          iff_of_false (error_ne_ok _ _) ?_⟩
        · exact ⟨c, first, final, h, hread, hfirst, hfinal, hcause, hroom⟩
        · intro hopens
          obtain ⟨_, hroom', _⟩ := hopens.exists_bytes h hread hfirst hfinal
          exact hroom hroom'
    | image bytes hroom hbytes =>
        have hover := integer_baseOver hbase first.value
        refine .of_failsOnly (setUp_failsOnly hover)
          (fun ho => ho.not_hasRoom hread hfirst hfinal hroom)
          fun loaded => (setUp_eq_ok_iff hover).trans ?_
        constructor
        · intro hmade
          have hwithin : (bytes.size : Int) ≤ limit := by
            rw [hbytes.size]
            exact Elf.le_limit_of_loadable hcause
          exact .elf c first final bytes h hread hfirst hfinal hcause hroom hbytes hwithin hmade
        · intro hopens
          obtain ⟨bytes', _, hbytes', hmade⟩ := hopens.exists_bytes h hread hfirst hfinal
          cases hbytes.unique hbytes'
          exact hmade

end

/-- With settings that are of use, loading ends with the image that the file opens to, with a
failure to load, or for want of a buffer; the last only where the limit is beyond all buffers. -/
theorem load_opens (hbase : s.base.integer? = some base)
    (hlimit : s.sizeLimit.integer? = some limit) (hstart : s.startSymbol = .text start)
    (hlast : s.lastSymbol = .text last) (data : ByteArray) :
    s.Settles base limit start last data (s.load data).outcome ∧
      (limit < positionLimit → FailsOnly Fault.IsLoad (s.load data).outcome) := by
  have hsettles : s.Settles base limit start last data (s.load data).outcome := by
    by_cases hmagic : (data.extract 0 4).toList = Elf.magicBytes
    · rcases Elf.Container.read_cases { data } with ⟨_, c, hread, hgains⟩ | ⟨_, c, hread⟩
      · exact load_settles_of_elf hbase hlimit hstart hlast hmagic hread
          (hgains.shows.loadsMemory hgains.isRead start last (some limit))
      · rw [load, Logged.outcome_bind, unwrap_of_malformed hmagic hread]
        refine .of_failsOnly (FailsOnly.error ⟨_, rfl⟩) (fun ho => ?_)
          fun loaded => iff_of_false (error_ne_ok _ _) ?_
        · cases hread.symm.trans ho.isRead
        · intro hopens
          cases hopens with
          | raw hno _ => exact hno hmagic
          | elf c' first final bytes _ hread' => cases hread.symm.trans hread'
    · exact load_settles_of_raw hbase hmagic limit start last
  refine ⟨hsettles, fun hlow e he => ?_⟩
  rcases hsettles.failsOnly e he with hload | rfl
  · exact hload
  · obtain ⟨c, first, final, hover⟩ := hsettles.overflows.mp he
    have := hover.le_limit
    omega

/-- Without a base address the image lies where its container puts it, and with a limit beyond all
buffers a load may break off. -/
theorem load_opens_files :
    (∃ loaded : Loaded,
      (({} : LoadSettings).load (smallFile ⟨true, true⟩ Image.cutStream)).outcome = .ok loaded ∧
        ({} : LoadSettings).Opens 0 536870912 "oatdata" "oatlastword"
          (smallFile ⟨true, true⟩ Image.cutStream) loaded ∧
        loaded.image.begin = 8192) ∧
    (({ sizeLimit := .integer 0x10000000000000000, startSymbol := .text "a"
        lastSymbol := .text "b" } : LoadSettings).load Elf.Container.vastSegment).outcome =
          .error (.broken .bufferBeyond) ∧
      ∃ c first final,
        Overflows 0x10000000000000000 "a" "b" Elf.Container.vastSegment c first final := by
  constructor
  · obtain ⟨image, himage, _⟩ := Image.exists_ofBuffer_of_any 8192 Image.cutStream none
      (p := fun _ => true) (by decide) (by decide +kernel)
    have hfits : (Quantity.whole 536870912).isBelow Image.cutStream.size = false := by decide
    obtain ⟨machine, hload⟩ := load_of_wraps (s := {}) (smallFile_wraps ⟨true, true⟩)
      (by decide) rfl rfl rfl hfits rfl himage
    refine ⟨_, hload, ((load_opens rfl rfl rfl rfl _).1.opens _).mp hload, ?_⟩
    obtain ⟨header, _, rfl⟩ := Image.ofBuffer_eq_ok_iff.mp himage
    rw [Image.ofHeader_settled]
    rfl
  · have hover : ∃ c first final,
        Overflows 0x10000000000000000 "a" "b" Elf.Container.vastSegment c first final := by
      obtain ⟨c, hread, _, hstart, hlast, hreserved, _⟩ := Elf.Container.vastSegment_read
      have hmemory : Elf.reservedBy c.segments = 0xFFFFFFFFFFFFFFFF := hreserved
      have hloadable : ¬ Elf.Unloadable c.segments (some 0x10000000000000000)
          (some ⟨"a", 0, 0⟩) (some ⟨"b", positionLimit, 0⟩) := by
        refine Elf.Container.not_unloadable (by decide) (by rw [hmemory]; decide) ?_
        rintro ⟨bound, hbound, hlow⟩
        cases hbound
        exact absurd hlow (by decide)
      refine ⟨c, _, _, ?_, hread, hstart, hlast, hloadable, by decide +kernel⟩
      rw [toList_eq]
      decide +kernel
    exact ⟨((load_opens rfl rfl rfl rfl _).1.overflows).mpr hover, hover⟩

end LoadSettings

end OatImage
