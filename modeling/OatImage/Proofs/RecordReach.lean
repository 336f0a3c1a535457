import OatImage.Proofs.RecordLayout

/-!
# How far a record reaches

A record refers to the header of its module. Of that header only the magic, the version and the
number of class definitions are looked at when the record is decoded, so a record decodes as long
as the image goes on for 100 bytes behind its module's address. A header has 112 bytes. One whose
last twelve are cut off makes no difference to its record, and the module itself does not open.
-/
namespace OatImage

open Decode

namespace Region

variable {buffer : ByteArray} {begin stop stop' address : Int} {part : List UInt8}

/-- What stands at an address of a range over a buffer stands in the buffer. -/
theorem bears_ofBuffer_iff : (ofBuffer buffer begin stop).Bears address part ↔
    begin ≤ address ∧ address + part.length ≤ stop ∧
      (buffer.data.toList.drop (address - begin).toNat).take part.length = part := by
  -- the bytes of the part are not among those the range cuts off
  have hcut (hbegin : begin ≤ address) (hstop : address + part.length ≤ stop) :
      ((buffer.data.toList.take (stop - begin).toNat).drop (address - begin).toNat).take
          part.length =
        (buffer.data.toList.drop (address - begin).toNat).take part.length := by
    rw [List.drop_take, List.take_take, Nat.min_eq_left (by omega)]
  constructor
  · rintro ⟨hbegin, hstop, hbytes⟩
    rw [contents_ofBuffer] at hbytes
    exact ⟨hbegin, hstop, (hcut hbegin hstop).symm.trans hbytes⟩
  · rintro ⟨hbegin, hstop, hbytes⟩
    refine ⟨hbegin, hstop, ?_⟩
    rw [contents_ofBuffer]
    exact (hcut hbegin hstop).trans hbytes

/-- A range that ends earlier shows what lies before its end. -/
theorem bears_ofBuffer_cut (hstop : stop' ≤ stop) :
    (ofBuffer buffer begin stop').Bears address part ↔
      (ofBuffer buffer begin stop).Bears address part ∧ address + part.length ≤ stop' := by
  rw [bears_ofBuffer_iff, bears_ofBuffer_iff]
  constructor
  · rintro ⟨hbegin, hend, hbytes⟩
    exact ⟨⟨hbegin, Int.le_trans hend hstop, hbytes⟩, hend⟩
  · rintro ⟨⟨hbegin, _, hbytes⟩, hend⟩
    exact ⟨hbegin, hend, hbytes⟩

end Region

namespace Dex

/-- How much of a module's header is looked at ahead of the module: as far as the number of
class definitions goes. -/
def countedSize : Nat := 100

/-- A module whose header is not all there does not open, even if it declares a smaller size. -/
theorem Module.load_of_not_contains {r : Region} {address : Int} (hr : r.Backed)
    (hsignature : checkSignature r address = .ok ())
    (hcounted : r.contains address countedSize = true)
    (hheader : ¬ r.contains address headerSize = true) :
    ∃ size : Nat, headerSize ≤ size ∧ load r address =
      .error (.inModule (.outside "DEX module" r.begin r.stop size) address) := by
  rw [Region.contains_iff] at hcounted hheader
  simp only [countedSize, headerSize] at hcounted hheader
  have hdeclared : r.contains (address + 32) (4 : Nat) = true :=
    Region.contains_iff.mpr (by omega)
  refine ⟨max (ofBytesLE (r.slice (r.offset (address + 32)) 4)) headerSize, Nat.le_max_right _ _,
    ?_⟩
  have hwindow : ¬ r.contains address
      (max (ofBytesLE (r.slice (r.offset (address + 32)) 4)) headerSize : Nat) = true := by
    rw [Region.contains_iff, headerSize]
    omega
  rw [load, hsignature, ok_bind, Region.u32, hr.word_of_contains hdeclared, asModule_ok, ok_bind]
  dsimp only
  rw [Region.window_of_not_contains hwindow]
  rfl

end Dex

namespace Image

variable {image : Image} {cursor next : Int} {record : Record}

/-- Of the image, only where it begins counts for a record's fields. -/
theorem recordAt_congr {image image' : Image} (h : image.begin = image'.begin) (cursor : Int)
    (location : List UInt8) (checksum dexOffset : Nat) (classOffsets : List Nat) :
    image.recordAt cursor location checksum dexOffset classOffsets =
      image'.recordAt cursor location checksum dexOffset classOffsets := by
  unfold recordAt
  rw [h]

/-- What a record in an image asks of the image's bytes. -/
theorem hasRecord_ofHeader_iff {r : Region} {header : Header} {asked : Option InstructionSet}
    {location : List UInt8} {checksum dexOffset : Nat} {classOffsets : List Nat} :
    (ofHeader r header asked).HasRecord cursor location checksum dexOffset classOffsets ↔
      ((IsWord location.length ∧ IsWord checksum ∧ IsWord dexOffset ∧
          ∀ o ∈ classOffsets, IsWord o) ∧
        IsWord classOffsets.length ∧ dexOffset ≠ 0) ∧
      r.Bears cursor (Record.encode location checksum dexOffset classOffsets) ∧
      (∃ version ∈ Dex.supportedVersions,
        r.Bears (r.begin + dexOffset) (Dex.magicBytes ++ version)) ∧
      r.Bears (r.begin + dexOffset + 96) (toBytesLE 4 classOffsets.length) :=
  ⟨fun h => ⟨⟨h.words, h.count.1, h.dexOffset_ne_zero⟩, h.bytes, h.signature, h.count.2⟩,
    fun ⟨⟨hwords, hcount, hne⟩, hbytes, hsignature, hcounted⟩ =>
      ⟨hwords, hbytes, hne, hsignature, hcount, hcounted⟩⟩

/-- A record is laid out in an image that ends earlier exactly if it is laid out in the whole one
and the end of the record and of what it looks at in its module's header are still there. -/
theorem hasRecord_cut {buffer : ByteArray} {begin stop stop' : Int} {header header' : Header}
    {asked : Option InstructionSet} (hstop : stop' ≤ stop) {location : List UInt8}
    {checksum dexOffset : Nat} {classOffsets : List Nat} :
    (ofHeader (Region.ofBuffer buffer begin stop') header' asked).HasRecord cursor location
        checksum dexOffset classOffsets ↔
      (ofHeader (Region.ofBuffer buffer begin stop) header asked).HasRecord cursor location
          checksum dexOffset classOffsets ∧
        cursor + (12 + location.length + 4 * classOffsets.length) ≤ stop' ∧
        begin + dexOffset + Dex.countedSize ≤ stop' := by
  have hlength : ((Record.encode location checksum dexOffset classOffsets).length : Int) =
      12 + location.length + 4 * classOffsets.length := by
    rw [Record.length_encode]
    omega
  have hsignature {version : List UInt8} (hversion : version ∈ Dex.supportedVersions) :
      (Dex.magicBytes ++ version).length = 8 := by
    have hfour : version.length = 4 :=
      (by decide : ∀ version ∈ Dex.supportedVersions, version.length = 4) version hversion
    rw [List.length_append, hfour]
    rfl
  have hbegin (stop : Int) : (Region.ofBuffer buffer begin stop).begin = begin := rfl
  rw [hasRecord_ofHeader_iff, hasRecord_ofHeader_iff, hbegin, hbegin]
  constructor
  · rintro ⟨hwords, hbytes, ⟨version, hversion, hmagic⟩, hcount⟩
    obtain ⟨hbytes, hend⟩ := (Region.bears_ofBuffer_cut hstop).mp hbytes
    obtain ⟨hmagic, _⟩ := (Region.bears_ofBuffer_cut hstop).mp hmagic
    obtain ⟨hcount, hcounted⟩ := (Region.bears_ofBuffer_cut hstop).mp hcount
    rw [length_toBytesLE] at hcounted
    rw [hlength] at hend
    refine ⟨⟨hwords, hbytes, ⟨version, hversion, hmagic⟩, hcount⟩, hend, ?_⟩
    rw [Dex.countedSize]
    omega
  · rintro ⟨⟨hwords, hbytes, ⟨version, hversion, hmagic⟩, hcount⟩, hend, hcounted⟩
    rw [Dex.countedSize] at hcounted
    refine ⟨hwords, (Region.bears_ofBuffer_cut hstop).mpr ⟨hbytes, ?_⟩,
      ⟨version, hversion, (Region.bears_ofBuffer_cut hstop).mpr ⟨hmagic, ?_⟩⟩,
      (Region.bears_ofBuffer_cut hstop).mpr ⟨hcount, ?_⟩⟩
    · rw [hlength]
      exact hend
    · rw [hsignature hversion]
      omega
    · rw [length_toBytesLE]
      omega

/-- The part of a module's header that a decoded record has looked at lies in the image, and if
the rest of the header does not, the module does not open. -/
theorem decodeNext_header (hr : image.region.Backed)
    (h : image.decodeNext cursor = .ok (record, next)) :
    image.region.contains record.dexPointer Dex.countedSize = true ∧
      (¬ image.region.contains record.dexPointer Dex.headerSize = true →
        ∃ size : Nat, Dex.headerSize ≤ size ∧ Dex.Module.load image.region record.dexPointer =
          .error (.inModule (.outside "DEX module" image.begin image.stop size)
            record.dexPointer)) := by
  obtain ⟨location, checksum, dexOffset, classOffsets, hrecord, rfl, _⟩ :=
    (decodeNext_eq_ok_iff hr).mp h
  obtain ⟨version, hversion, hmagic⟩ := hrecord.signature
  have hcount := hrecord.count.2.le_stop
  rw [length_toBytesLE] at hcount
  have hcounted : image.region.contains (image.begin + dexOffset) Dex.countedSize = true := by
    rw [Region.contains_iff, Dex.countedSize]
    exact ⟨by omega, hmagic.begin_le, by omega⟩
  have hsignature := (Dex.checkSignature_eq_ok_iff hr).mpr ⟨version, hversion, hmagic⟩
  exact ⟨hcounted, Dex.Module.load_of_not_contains hr hsignature hcounted⟩

/-- A decoded record lies in the image with the first hundred bytes of its module's header, of
which it needs no more: if the image ends earlier, the record is decoded as before exactly if the
record and these hundred bytes still lie in it. A module with less than a whole header does not
open. -/
theorem decodeNext_reaches {begin stop : Int} {memory : Option ByteArray}
    {asked : Option InstructionSet}
    (h : setup (some begin) (some stop) memory asked = .ok image) (cursor : Int) :
    ∀ record next,
      (image.decodeNext cursor = .ok (record, next) →
        image.region.contains cursor record.size = true ∧
        image.region.contains record.dexPointer Dex.countedSize = true ∧
        (¬ image.region.contains record.dexPointer Dex.headerSize = true →
          ∃ size : Nat, Dex.headerSize ≤ size ∧ Dex.Module.load image.region record.dexPointer =
            .error (.inModule (.outside "DEX module" begin stop size) record.dexPointer))) ∧
      ∀ stop' image', stop' ≤ stop →
        setup (some begin) (some stop') memory asked = .ok image' →
          (image'.decodeNext cursor = .ok (record, next) ↔
            image.decodeNext cursor = .ok (record, next) ∧ next ≤ stop' ∧
              record.dexPointer + Dex.countedSize ≤ stop') := by
  have hr := backed_of_setup h
  intro record next
  obtain ⟨_, _, buffer, header, hb, hs, rfl, _, _, _, rfl⟩ := setup_eq_ok h
  cases hb
  cases hs
  refine ⟨fun hnext => ⟨?_, decodeNext_header hr hnext⟩, fun stop' image' hstop h' => ?_⟩
  · obtain ⟨_, _, _, _, hrecord, rfl, _⟩ := (decodeNext_eq_ok_iff hr).mp hnext
    have hcontains := hrecord.bytes.contains
    rw [Record.length_encode] at hcontains
    exact hcontains
  · have hr' := backed_of_setup h'
    obtain ⟨_, _, _, header', hb, hs, hmemory, _, _, _, rfl⟩ := setup_eq_ok h'
    cases hb
    cases hs
    cases hmemory
    have hbegin (stop : Int) (header : Header) :
        (ofHeader (Region.ofBuffer buffer begin stop) header asked).begin = begin := rfl
    have hsame := recordAt_congr ((hbegin stop header).trans (hbegin stop' header').symm) cursor
    rw [decodeNext_eq_ok_iff hr', decodeNext_eq_ok_iff hr]
    constructor
    · rintro ⟨_, _, _, _, hrecord, rfl, rfl⟩
      obtain ⟨hrecord, hend, hcounted⟩ := (hasRecord_cut hstop).mp hrecord
      exact ⟨⟨_, _, _, _, hrecord, (hsame _ _ _ _).symm, rfl⟩, hend, hcounted⟩
    · rintro ⟨⟨_, _, _, _, hrecord, rfl, rfl⟩, hend, hcounted⟩
      exact ⟨_, _, _, _, (hasRecord_cut hstop).mpr ⟨hrecord, hend, hcounted⟩, hsame _ _ _ _, rfl⟩

/-- The image that ends with the number of class definitions holds its record, not all of the
header, and no module that opens. -/
theorem decodeNext_reaches_loneRecord :
    ∃ image record next e, setup (some (-100)) (some 94) (some ⟨loneRecord.toArray⟩) none =
        .ok image ∧
      image.decodeNext (-28) = .ok (record, next) ∧
      image.region.contains record.dexPointer Dex.headerSize = false ∧
      Dex.Module.load image.region record.dexPointer = .error e := by
  obtain ⟨image, h, hread⟩ := exists_setup_of_any (-100) 94 ⟨loneRecord.toArray⟩ none
    (p := fun image => (image.decodeNext (-28)).toOption.any fun reached =>
      !image.region.contains reached.1.dexPointer Dex.headerSize)
    (by decide) (by decide +kernel) (by decide +kernel)
  obtain ⟨⟨record, next⟩, hnext, hheader⟩ := exists_of_any hread
  rw [Bool.not_eq_true'] at hheader
  obtain ⟨_, _, hcut⟩ := (decodeNext_reaches h (-28) record next).1 hnext
  obtain ⟨size, _, hload⟩ := hcut (by rw [hheader]; decide)
  exact ⟨image, record, next, _, h, hnext, hheader, hload⟩

end Image

end OatImage
