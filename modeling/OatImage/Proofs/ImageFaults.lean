import OatImage.Proofs.Bitmaps
import OatImage.Proofs.ModuleFaults
import OatImage.Directory

/-!
# Failures of the parts of an image

An image that was set up holds a byte for every address of its range. So its store, its
class records and each single record of its directory are read or fail in decoding, and the
failure of a record of the directory is attributed to an address and to nothing else.
-/
namespace OatImage

open Decode Fault

theorem KeyValueStore.read_failsOnly (r : Region) (start size : Int) :
    FailsOnly IsDecode (KeyValueStore.read r start size) := by
  have hpairs : ∀ (steps : Nat) (limit cursor : Int) (store : KeyValueStore),
      FailsOnly IsLocal (KeyValueStore.readFrom r limit steps cursor store) := by
    intro steps limit
    induction steps with
    | zero => exact fun _ _ => FailsOnly.ok _
    | succ steps ih =>
        intro cursor store
        refine FailsOnly.ite (fun _ => FailsOnly.ok _) fun _ => ?_
        refine FailsOnly.ite (fun _ => FailsOnly.error (inImage_isLocal _ _)) fun _ => ?_
        refine FailsOnly.ite (fun _ => FailsOnly.error (inImage_isLocal _ _)) fun _ => ?_
        exact (r.readBytes_failsOnly _ _ _).bind fun _ _ =>
          (r.readBytes_failsOnly _ _ _).bind fun _ _ => ih _ _
  have hcheck := (r.check_failsOnly start size "key-value store").mono fun _ => IsLocal.isDecode
  exact hcheck.bind fun _ _ => (hpairs _ _ _ _).mono fun _ => IsLocal.isDecode

namespace ClassRecord

variable {r : Region}

theorem decode_failsOnly (hr : r.Backed) (address : Option Int) :
    FailsOnly IsDecode (decode r address) := by
  cases address with
  | none => exact FailsOnly.error ⟨_, rfl⟩
  | some address =>
      have hstatus := (hr.i16_failsOnly address "OatClass status").mono fun _ => IsLocal.isDecode
      have hcode := (hr.word_failsOnly 2 (address + 2) "OatClass type").mono
        fun _ => IsLocal.isDecode
      refine hstatus.bind fun status _ => hcode.bind fun code _ => ?_
      match Coverage.ofCode? code with
      | none => exact FailsOnly.error ⟨_, rfl⟩
      | some .none => exact FailsOnly.pure _
      | some .all => exact FailsOnly.pure _
      | some .some =>
          have hsize := (hr.word_failsOnly 4 (address + 4) "OatClass bitmap size").mono
            fun _ => IsLocal.isDecode
          exact hsize.bind fun size _ =>
            ((r.readBytes_failsOnly _ _ _).mono fun _ => IsLocal.isDecode).bind
              fun _ _ => FailsOnly.pure _

/-- The rank is asked for only where a bit is set, so the bitmap holds the byte and nothing
fails. -/
theorem entryIndex_failsOnly {P : Fault → Prop} (c : ClassRecord) (k : Nat) :
    FailsOnly P (c.entryIndex k) := by
  unfold entryIndex
  cases c.bitmap with
  | none => exact FailsOnly.ok _
  | some bitmap =>
      dsimp only
      rw [Bitmap.isSet_natCast]
      by_cases h : Bitmap.bit bitmap k = true
      · rw [h, Bitmap.rank_of_bit h]
        exact FailsOnly.ok _
      · rw [Bool.not_eq_true] at h
        rw [h]
        exact FailsOnly.ok _

theorem codeSlot_failsOnly (hr : r.Backed) (c : ClassRecord) (k : Nat) :
    FailsOnly IsDecode (c.codeSlot r k) := by
  unfold codeSlot
  cases c.table with
  | none => exact FailsOnly.ok _
  | some table =>
      refine (entryIndex_failsOnly c k).bind fun entry _ => ?_
      cases entry with
      | none => exact FailsOnly.pure _
      | some entry =>
          exact ((hr.word_failsOnly 4 (table + 4 * entry) "OatMethodOffsets").mono
            fun _ => IsLocal.isDecode).bind fun _ _ => FailsOnly.pure _

end ClassRecord

namespace Image

variable {image : Image}

/-- What is known of a range, a memory and an image that was set up over them. -/
theorem setup_eq_ok {begin stop : Option Int} {memory : Option ByteArray}
    {asked : Option InstructionSet} (h : setup begin stop memory asked = .ok image) :
    ∃ b s buffer header, begin = some b ∧ stop = some s ∧ memory = some buffer ∧ b < s ∧
      s - b ≤ buffer.size ∧ Header.decode (Region.ofBuffer buffer b s) b = .ok header ∧
      image = ofHeader (Region.ofBuffer buffer b s) header asked := by
  unfold setup at h
  cases begin with
  | none => cases h
  | some b =>
      cases stop with
      | none => cases h
      | some s =>
          dsimp only at h
          by_cases hs : s ≤ b
          · rw [if_pos hs] at h
            cases h
          · rw [if_neg hs] at h
            cases memory with
            | none => cases h
            | some buffer =>
                dsimp only at h
                by_cases hm : (buffer.size : Int) < s - b
                · rw [if_pos hm] at h
                  cases h
                · rw [if_neg hm] at h
                  obtain ⟨header, hheader, h⟩ := bind_eq_ok.mp h
                  cases h
                  exact ⟨b, s, buffer, header, rfl, rfl, rfl, by omega, by omega, hheader, rfl⟩

/-- A range whose memory is long enough and whose header decodes is set up. -/
theorem setup_of_decode {begin stop : Int} {buffer : ByteArray} {header : Header}
    (hrange : begin < stop) (hmem : stop - begin ≤ buffer.size)
    (h : Header.decode (Region.ofBuffer buffer begin stop) begin = .ok header)
    (asked : Option InstructionSet) :
    setup (some begin) (some stop) (some buffer) asked =
      .ok (ofHeader (Region.ofBuffer buffer begin stop) header asked) := by
  unfold setup
  dsimp only
  rw [if_neg (by omega), if_neg (by omega), h]
  rfl

/-- What holds of the image over a whole memory is found by running its header. -/
theorem exists_setup_of_any (begin stop : Int) (buffer : ByteArray)
    (asked : Option InstructionSet) {p : Image → Bool} (hrange : begin < stop)
    (hsize : (buffer.size : Int) = stop - begin)
    (h : (Header.decode ⟨buffer, begin, stop⟩ begin).toOption.any
      (fun header => p (ofHeader ⟨buffer, begin, stop⟩ header asked)) = true) :
    ∃ image, setup (some begin) (some stop) (some buffer) asked = .ok image ∧ p image = true := by
  have hwhole : Region.ofBuffer buffer begin stop = ⟨buffer, begin, stop⟩ := by
    rw [Region.ofBuffer, ← hsize, Int.toNat_natCast, Region.cut_whole]
  obtain ⟨header, hheader, hp⟩ := exists_of_any h
  rw [← hwhole] at hheader hp
  exact ⟨_, setup_of_decode hrange (by omega) hheader asked, hp⟩

theorem exists_ofBuffer_of_any (begin : Int) (buffer : ByteArray)
    (asked : Option InstructionSet) {p : Image → Bool} (hsize : 0 < buffer.size)
    (h : (Header.decode ⟨buffer, begin, begin + buffer.size⟩ begin).toOption.any
      (fun header => p (ofHeader ⟨buffer, begin, begin + buffer.size⟩ header asked)) = true) :
    ∃ image, ofBuffer (some buffer) begin asked = .ok image ∧ p image = true :=
  exists_setup_of_any begin (begin + buffer.size) buffer asked (by omega) (by omega) h

theorem backed_of_setup {begin stop : Option Int} {memory : Option ByteArray}
    {asked : Option InstructionSet} (h : setup begin stop memory asked = .ok image) :
    image.region.Backed := by
  obtain ⟨b, s, buffer, header, _, _, _, hbs, hm, _, rfl⟩ := setup_eq_ok h
  exact Region.ofBuffer_backed (Int.le_of_lt hbs) hm

section
variable (hr : image.region.Backed)
include hr

/-- A record that does not decode is attributed to an address; its position is not known yet. -/
theorem decodeNext_failsOnly (cursor : Int) : FailsOnly IsLocal (image.decodeNext cursor) := by
  refine (hr.word_failsOnly 4 _ _).bind fun length _ => ?_
  refine (image.region.readBytes_failsOnly _ _ _).bind fun location _ => ?_
  refine (hr.word_failsOnly 4 _ _).bind fun checksum _ => ?_
  refine (hr.word_failsOnly 4 _ _).bind fun dexOffset _ => ?_
  cases image.pointer dexOffset with
  | none => exact FailsOnly.error (inImage_isLocal _ _)
  | some dexPointer =>
      exact ((Dex.classDefCount_failsOnly hr _).mono fun _ h => h.2).bind fun count _ =>
        (hr.u32s_failsOnly _ _ _).bind fun _ _ => FailsOnly.pure _

end

end Image

end OatImage
