import OatImage.Directory
import OatImage.Proofs.ImageFaults
import OatImage.Proofs.ModuleHeads

/-!
# Records and their layout

Decoding a record inverts its layout. A record is decoded at an address exactly if its bytes
stand there and the module it points at begins with a signature and declares as many class
definitions as the record has class offsets. Anywhere else decoding fails, and in no other way
than a record can fail.
-/
namespace OatImage

open Decode

@[simp] theorem Record.length_encode (location : List UInt8) (checksum dexOffset : Nat)
    (classOffsets : List Nat) :
    (Record.encode location checksum dexOffset classOffsets).length =
      12 + location.length + 4 * classOffsets.length := by
  have hwords : (classOffsets.flatMap (toBytesLE 4)).length = 4 * classOffsets.length :=
    length_wordBytes classOffsets
  simp only [Record.encode, List.length_append, length_toBytesLE, hwords]
  omega

namespace Image

/-- The record at an address with these fields. -/
def recordAt (image : Image) (cursor : Int) (location : List UInt8) (checksum dexOffset : Nat)
    (classOffsets : List Nat) : Record :=
  { location, checksum, dexOffset, dexPointer := image.begin + dexOffset, classOffsets
    address := cursor, size := 12 + location.length + 4 * classOffsets.length }

/-- A record with these fields is laid out at an address of the image. -/
structure HasRecord (image : Image) (cursor : Int) (location : List UInt8)
    (checksum dexOffset : Nat) (classOffsets : List Nat) : Prop where
  words : IsWord location.length ∧ IsWord checksum ∧ IsWord dexOffset ∧
    ∀ o ∈ classOffsets, IsWord o
  bytes : image.region.Bears cursor (Record.encode location checksum dexOffset classOffsets)
  dexOffset_ne_zero : dexOffset ≠ 0
  /-- The module begins with the magic and one of the versions 035 to 039. -/
  signature : ∃ version ∈ Dex.supportedVersions,
    image.region.Bears (image.begin + dexOffset) (Dex.magicBytes ++ version)
  /-- The module declares as many class definitions as there are class offsets. -/
  count : IsWord classOffsets.length ∧
    image.region.Bears (image.begin + dexOffset + 96) (toBytesLE 4 classOffsets.length)

theorem pointer_eq_some_iff {image : Image} {offset : Nat} {address : Int} :
    image.pointer offset = some address ↔ offset ≠ 0 ∧ address = image.begin + offset := by
  rw [pointer]
  by_cases h : (offset : Int) = 0
  · rw [if_pos h]
    exact ⟨fun hnone => (nomatch hnone), fun ⟨hne, _⟩ => absurd h (by omega)⟩
  · rw [if_neg h, Option.some.injEq]
    exact ⟨fun heq => ⟨by omega, heq.symm⟩, fun ⟨_, heq⟩ => heq.symm⟩

variable {image : Image}

/-- The fields of a record stand one behind the other. -/
theorem bears_encode_iff {cursor : Int} {location : List UInt8} {checksum dexOffset : Nat}
    {classOffsets : List Nat} :
    image.region.Bears cursor (Record.encode location checksum dexOffset classOffsets) ↔
      image.region.Bears cursor (toBytesLE 4 location.length) ∧
      image.region.Bears (cursor + 4) location ∧
      image.region.Bears (cursor + 4 + location.length) (toBytesLE 4 checksum) ∧
      image.region.Bears (cursor + 4 + location.length + 4) (toBytesLE 4 dexOffset) ∧
      image.region.Bears (cursor + 4 + location.length + 8) (wordBytes classOffsets) := by
  have hsplit : Record.encode location checksum dexOffset classOffsets =
      toBytesLE 4 location.length ++ (location ++ (toBytesLE 4 checksum ++
        (toBytesLE 4 dexOffset ++ wordBytes classOffsets))) := by
    simp only [Record.encode, wordBytes, List.append_assoc]
  have hlast : cursor + 4 + location.length + 4 + 4 = cursor + 4 + location.length + 8 := by
    omega
  rw [hsplit]
  simp only [Region.bears_append, length_toBytesLE, Int.cast_ofNat_Int, hlast]

theorem decodeNext_eq_ok_iff (hr : image.region.Backed) {cursor next : Int} {record : Record} :
    image.decodeNext cursor = .ok (record, next) ↔
      ∃ location checksum dexOffset classOffsets,
        image.HasRecord cursor location checksum dexOffset classOffsets ∧
        record = image.recordAt cursor location checksum dexOffset classOffsets ∧
        next = cursor + record.size := by
  constructor
  · intro h
    unfold decodeNext at h
    obtain ⟨length, hlength, h⟩ := bind_eq_ok.mp h
    obtain ⟨location, hlocation, h⟩ := bind_eq_ok.mp h
    obtain ⟨checksum, hchecksum, h⟩ := bind_eq_ok.mp h
    obtain ⟨dexOffset, hdexOffset, h⟩ := bind_eq_ok.mp h
    obtain ⟨hlengthWord, hlengthBytes⟩ := hr.word_eq_ok_iff.mp hlength
    obtain ⟨hsize, hlocationBytes⟩ := hr.readBytes_eq_ok_iff.mp hlocation
    obtain ⟨hchecksumWord, hchecksumBytes⟩ := hr.word_eq_ok_iff.mp hchecksum
    obtain ⟨hdexWord, hdexBytes⟩ := hr.word_eq_ok_iff.mp hdexOffset
    obtain rfl := Int.ofNat.inj hsize
    cases hpointer : image.pointer dexOffset with
    | none =>
        rw [hpointer] at h
        cases h
    | some dexPointer =>
        rw [hpointer] at h
        obtain ⟨count, hcount, h⟩ := bind_eq_ok.mp h
        obtain ⟨classOffsets, hclassOffsets, h⟩ := bind_eq_ok.mp h
        obtain ⟨hne, rfl⟩ := pointer_eq_some_iff.mp hpointer
        obtain ⟨hsignature, hcount⟩ := (Dex.classDefCount_eq_ok_iff hr).mp hcount
        obtain ⟨hentries, hwords, htable⟩ := hr.u32s_eq_ok_iff.mp hclassOffsets
        obtain rfl := Int.ofNat.inj hentries
        cases h
        have hnext : cursor + 4 + location.length + 8 + 4 * (classOffsets.length : Int) - cursor =
            12 + location.length + 4 * classOffsets.length := by omega
        refine ⟨location, checksum, dexOffset, classOffsets,
          ⟨⟨hlengthWord, hchecksumWord, hdexWord, hwords⟩, ?_, hne, hsignature, hcount⟩, ?_, ?_⟩
        · exact bears_encode_iff.mpr
            ⟨hlengthBytes, hlocationBytes, hchecksumBytes, hdexBytes, htable⟩
        · rw [recordAt, hnext]
        · dsimp only
          omega
  · rintro ⟨location, checksum, dexOffset, classOffsets, h, rfl, rfl⟩
    obtain ⟨hlengthWord, hchecksumWord, hdexWord, hwords⟩ := h.words
    obtain ⟨hlengthBytes, hlocationBytes, hchecksumBytes, hdexBytes, htable⟩ :=
      bears_encode_iff.mp h.bytes
    have hpointer : image.pointer dexOffset = some (image.begin + dexOffset) :=
      pointer_eq_some_iff.mpr ⟨h.dexOffset_ne_zero, rfl⟩
    have hcount := (Dex.classDefCount_eq_ok_iff hr).mpr ⟨h.signature, h.count⟩
    have hread₁ : image.region.u32 cursor "dex file location size" = .ok location.length :=
      hr.word_eq_ok_iff.mpr ⟨hlengthWord, hlengthBytes⟩
    have hread₂ : image.region.readBytes (cursor + 4) location.length "dex file location" =
        .ok location := hr.readBytes_eq_ok_iff.mpr ⟨rfl, hlocationBytes⟩
    have hread₃ : image.region.u32 (cursor + 4 + location.length)
        "dex file location checksum" = .ok checksum :=
      hr.word_eq_ok_iff.mpr ⟨hchecksumWord, hchecksumBytes⟩
    have hread₄ : image.region.u32 (cursor + 4 + location.length + 4) "dex file offset" =
        .ok dexOffset := hr.word_eq_ok_iff.mpr ⟨hdexWord, hdexBytes⟩
    have hread₅ : image.region.u32s (cursor + 4 + location.length + 8) classOffsets.length
        "class definition offsets" = .ok classOffsets :=
      hr.u32s_eq_ok_iff.mpr ⟨rfl, hwords, htable⟩
    have hnext : cursor + 4 + location.length + 8 + 4 * (classOffsets.length : Int) =
        cursor + (12 + location.length + 4 * classOffsets.length) := by omega
    have hsize : cursor + (12 + location.length + 4 * classOffsets.length) - cursor =
        (12 + location.length + 4 * classOffsets.length : Int) := by omega
    rw [decodeNext]
    simp only [hread₁, hread₂, hread₃, hread₄, ok_bind, hpointer, hcount, hread₅, hnext, hsize]
    rfl

/-- Decoding a record is the inverse of laying it out: at every address a record with these
fields is decoded, and the address behind it answered, exactly if it is laid out there; where
none is laid out decoding fails. -/
theorem decodeNext_inverts {begin stop : Option Int} {memory : Option ByteArray}
    {asked : Option InstructionSet} (h : setup begin stop memory asked = .ok image)
    (cursor : Int) :
    (∀ location checksum dexOffset classOffsets,
      image.decodeNext cursor =
          .ok (image.recordAt cursor location checksum dexOffset classOffsets,
            cursor + (12 + location.length + 4 * classOffsets.length)) ↔
        image.HasRecord cursor location checksum dexOffset classOffsets) ∧
    ((∃ d, image.decodeNext cursor = .error (.decode d)) ↔
      ¬ ∃ location checksum dexOffset classOffsets,
        image.HasRecord cursor location checksum dexOffset classOffsets) := by
  have hr := backed_of_setup h
  have hread {location checksum dexOffset classOffsets}
      (hrecord : image.HasRecord cursor location checksum dexOffset classOffsets) :
      image.decodeNext cursor =
        .ok (image.recordAt cursor location checksum dexOffset classOffsets,
          cursor + (12 + location.length + 4 * classOffsets.length)) :=
    (decodeNext_eq_ok_iff hr).mpr ⟨_, _, _, _, hrecord, rfl, rfl⟩
  refine ⟨fun location checksum dexOffset classOffsets => ⟨fun hok => ?_, hread⟩,
    fun ⟨d, herror⟩ ⟨_, _, _, _, hrecord⟩ => ?_, fun hnone => ?_⟩
  · -- the fields of the record that is laid out are those of the one that is decoded
    obtain ⟨_, _, _, _, hrecord, heq, _⟩ := (decodeNext_eq_ok_iff hr).mp hok
    cases heq
    exact hrecord
  · rw [hread hrecord] at herror
    cases herror
  · rcases ((decodeNext_failsOnly hr cursor).mono fun _ => Fault.IsLocal.isDecode).cases with
      ⟨⟨record, next⟩, hok⟩ | herror
    · obtain ⟨_, _, _, _, hrecord, _⟩ := (decodeNext_eq_ok_iff hr).mp hok
      exact absurd ⟨_, _, _, _, hrecord⟩ hnone
    · exact herror

/-- A header with an empty store. -/
def plainHeader (dexFileCount : Nat) : Header :=
  { address := 0, magic := Header.magicBytes, version := Header.version064, checksum := 0
    instructionSetCode := 1, features := 0, dexFileCount, executableOffset := 0
    trampolines := List.replicate 7 0, imagePatchDelta := 0, imageChecksum := 0
    imageDataBegin := 0, keyValueStoreSize := 0 }

/-- A header that declares as many dex files as it can, before one record and the head of its
module, which declares two class definitions. -/
def loneRecord : List UInt8 :=
  (plainHeader 4294967295).encode ++ Record.encode [0x61, 0x62] 7 94 [300, 301] ++
    Dex.magicBytes ++ [0x30, 0x33, 0x39, 0] ++ List.replicate 88 0 ++ toBytesLE 4 2

/-- At a base below zero the record is decoded at its address, so it is laid out there. -/
theorem decodeNext_inverts_loneRecord :
    ∃ image, setup (some (-100)) (some 94) (some ⟨loneRecord.toArray⟩) none = .ok image ∧
      image.HasRecord (-28) [0x61, 0x62] 7 94 [300, 301] ∧
      ∃ d, image.decodeNext (-6) = .error (.decode d) := by
  obtain ⟨image, h, hread⟩ := exists_setup_of_any (-100) 94 ⟨loneRecord.toArray⟩ none
    (p := fun image => (image.decodeNext (-28)).toOption.any
        (fun reached => reached = (image.recordAt (-28) [0x61, 0x62] 7 94 [300, 301], -6)) &&
      (image.decodeNext (-6)).toOption.isNone)
    (by decide) (by decide +kernel) (by decide +kernel)
  rw [Bool.and_eq_true] at hread
  obtain ⟨reached, hok, hreached⟩ := exists_of_any hread.1
  obtain rfl := of_decide_eq_true hreached
  refine ⟨image, h, ((decodeNext_inverts h (-28)).1 _ _ _ _).mp hok,
    (decodeNext_inverts h (-6)).2.mpr fun ⟨_, _, _, _, hrecord⟩ => ?_⟩
  -- behind the record no other one is laid out
  have hsecond := ((decodeNext_inverts h (-6)).1 _ _ _ _).mpr hrecord
  rw [hsecond] at hread
  exact nomatch hread.2

end Image

end OatImage
