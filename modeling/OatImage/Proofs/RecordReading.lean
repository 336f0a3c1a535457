import OatImage.Proofs.HeaderLayout
import OatImage.Proofs.ModuleReading
import OatImage.Proofs.RecordLayout

/-!
# Reading headers and records

The header and the records of an image answer with what was laid out. The entry of a method
in the table of a partly compiled class is found by counting the methods before it that have
code, which is what the rank in the bitmap comes to.
-/
namespace OatImage

open Decode Layout

/-! Class records. -/

/-- The number of methods with code before a position. -/
theorem countP_bit_eq {bitmap : List UInt8} {offsets : List (Option Nat)}
    (hbits : ∀ (k : Nat) (o : Option Nat), offsets[k]? = some o →
      Bitmap.bit bitmap k = o.isSome) {k : Nat} (hk : k ≤ offsets.length) :
    (List.range k).countP (Bitmap.bit bitmap) = ((offsets.take k).filterMap id).length := by
  induction k with
  | zero => rfl
  | succ k ih =>
      have hget : offsets[k]? = some offsets[k] := List.getElem?_eq_getElem (by omega)
      rw [List.range_succ, List.countP_append, ih (by omega), List.take_add_one, hget,
        List.filterMap_append, List.length_append, List.countP_singleton, hbits k _ hget]
      cases offsets[k] <;> rfl

/-- The offset of a method is the entry whose number is that of the methods with code
before it. -/
theorem getElem?_filterMap_take {offsets : List (Option Nat)} {k o : Nat}
    (hk : offsets[k]? = some (some o)) :
    (offsets.filterMap id)[((offsets.take k).filterMap id).length]? = some o := by
  have hlt : k < offsets.length := (List.getElem?_eq_some_iff.mp hk).choose
  have hrest : offsets.drop k = some o :: offsets.drop (k + 1) := by
    rw [List.drop_eq_getElem_cons hlt, (List.getElem?_eq_some_iff.mp hk).choose_spec]
  rw [← List.take_append_drop k offsets, List.filterMap_append, List.take_append_of_le_length,
    List.take_take, Nat.min_self, List.getElem?_append_right (Nat.le_refl _), Nat.sub_self, hrest]
  · rfl
  · rw [List.length_take]
    omega

@[simp] theorem Coverage.ofCode?_code (c : Coverage) : ofCode? c.code = Option.some c := by
  cases c <;> rfl

namespace ClassRecord

variable {r : Region} {address : Int} {o : Nat}

/-- The record that is read where one was written with a bitmap. -/
def written (address status : Int) (coverage : Coverage) (bitmap : List UInt8) : ClassRecord :=
  match coverage with
  | .none => ⟨address, status, .none, none, none⟩
  | .all => ⟨address, status, .all, none, some (address + 4)⟩
  | .some => ⟨address, status, .some, some bitmap, some (address + 8 + bitmap.length)⟩

theorem decode_of_at (hr : r.Backed) {status : Int} {coverage : Coverage} {bitmap : List UInt8}
    (hstatus : -0x8000 ≤ status ∧ status < 0x8000)
    (hbitmap : coverage = .some → IsWord bitmap.length)
    (hat : At r.contents o (encode status coverage bitmap)) (ha : address = r.begin + o) :
    decode r (some address) = .ok (written address status coverage bitmap) := by
  unfold encode at hat
  rw [At.append, At.append, List.length_append, length_toBytesLE, length_toBytesLE] at hat
  obtain ⟨⟨hat₁, hat₂⟩, hat₃⟩ := hat
  have hword : (status % 0x10000).toNat < Nat.pow 256 2 := by
    show (status % 0x10000).toNat < 0x10000
    omega
  have hread₁ : r.i16 address "OatClass status" = .ok status := by
    rw [Region.i16, hr.word_of_at hat₁ hword ha]
    exact congrArg Except.ok (signedWord_emod hstatus.1 hstatus.2)
  have hcode : coverage.code < Nat.pow 256 2 := by cases coverage <;> decide
  have hread₂ : r.u16 (address + 2) "OatClass type" = .ok coverage.code :=
    hr.word_of_at hat₂ hcode (by omega)
  rw [decode, hread₁]
  simp only [ok_bind, hread₂, Coverage.ofCode?_code]
  cases coverage with
  | none => rfl
  | all => rfl
  | some =>
      obtain ⟨hat₃, hat₄⟩ := At.append.mp hat₃
      rw [length_toBytesLE] at hat₄
      have hread₃ : r.u32 (address + 4) "OatClass bitmap size" = .ok bitmap.length :=
        hr.u32_of_at hat₃ (hbitmap rfl) (by omega)
      have hread₄ : r.readBytes (address + 8) bitmap.length "OatClass bitmap" = .ok bitmap :=
        hr.readBytes_of_at hat₄ (by omega) rfl
      simp only [hread₃, ok_bind, hread₄]
      rfl

/-- The slot of a method is the entry of the table that belongs to it. -/
theorem codeSlot_of_entry (hr : r.Backed) {record : ClassRecord} {table : Int} {k entry n : Nat}
    (htable : record.table = some table) (hentry : record.entryIndex k = .ok (some (entry : Int)))
    (hword : WordAt r.contents (o + 4 * entry) n) (ha : table = r.begin + o) :
    ∃ slot, record.codeSlot r k = .ok (some slot) ∧ slot.codeOffset = n := by
  have hread : r.u32 (table + 4 * entry) "OatMethodOffsets" = .ok n :=
    hr.u32_of_at hword.2 hword.1 (by omega)
  refine ⟨⟨table + 4 * entry, n⟩, ?_, rfl⟩
  rw [codeSlot, htable]
  simp only [hentry, ok_bind, hread]
  rfl

/-- What the record says of its class is the content. -/
structure Shows (record : ClassRecord) (r : Region) (c : Content.Class) : Prop where
  status : record.status = c.status
  coverage : record.coverage = c.code.coverage
  slots : ∀ k < c.methods.length, ∃ slot, record.codeSlot r k = .ok slot ∧
    slot.map CodeSlot.codeOffset = c.code.offset? k

/-- In the table of a class that was compiled as a whole, entries have the positions of their
methods. -/
theorem codeSlot_of_words (hr : r.Backed) {status : Int} {offsets : List Nat}
    (htable : WordsAt r.contents (o + 4) offsets) (ha : address = r.begin + o) {k : Nat}
    (hk : k < offsets.length) :
    ∃ slot, (written address status .all []).codeSlot r k = .ok slot ∧
      slot.map CodeSlot.codeOffset = offsets[k]? := by
  have hget : offsets[k]? = some offsets[k] := List.getElem?_eq_getElem hk
  have hentry : (written address status .all []).entryIndex k = .ok (some (k : Int)) := rfl
  obtain ⟨slot, hslot, hoffset⟩ := codeSlot_of_entry hr rfl hentry (htable.word hget)
    (show address + 4 = r.begin + ((o + 4 : Nat) : Int) by omega)
  refine ⟨some slot, hslot, ?_⟩
  rw [Option.map_some, hoffset, hget]

/-- In the table of a class that was compiled in part, the methods without code are left
out. -/
theorem codeSlot_of_bits (hr : r.Backed) {status : Int} {bitmap : List UInt8}
    {offsets : List (Option Nat)} (hbits : ∀ (k : Nat) (o : Option Nat), offsets[k]? = some o →
      Bitmap.bit bitmap k = o.isSome)
    (htable : WordsAt r.contents (o + 8 + bitmap.length) (offsets.filterMap id))
    (ha : address = r.begin + o) {k : Nat} (hk : k < offsets.length) :
    ∃ slot, (written address status .some bitmap).codeSlot r k = .ok slot ∧
      slot.map CodeSlot.codeOffset = offsets[k]?.join := by
  have hget : offsets[k]? = some offsets[k] := List.getElem?_eq_getElem hk
  have hset : Bitmap.isSet bitmap k = .ok offsets[k].isSome := by
    rw [Bitmap.isSet_natCast, hbits k _ hget]
  cases hoffset : offsets[k] with
  | none =>
      rw [hoffset] at hset hget
      refine ⟨none, ?_, by rw [hget]; rfl⟩
      rw [codeSlot, written]
      simp only [entryIndex, hset, ok_bind]
      rfl
  | some n =>
      rw [hoffset] at hset hget
      have hrank : Bitmap.rank bitmap k = .ok ((offsets.take k).filterMap id).length := by
        rw [Bitmap.rank_of_bit (hbits k _ hget), countP_bit_eq hbits (Nat.le_of_lt hk)]
      have hentry : (written address status .some bitmap).entryIndex k =
          .ok (some (((offsets.take k).filterMap id).length : Int)) := by
        rw [entryIndex, written]
        simp only [hset, ok_bind, Option.isSome_some, if_true, hrank]
        rfl
      obtain ⟨slot, hslot, hslotOffset⟩ := codeSlot_of_entry hr rfl hentry
        (htable.word (getElem?_filterMap_take hget))
        (show address + 8 + bitmap.length = r.begin + ((o + 8 + bitmap.length : Nat) : Int) by
          omega)
      refine ⟨some slot, hslot, ?_⟩
      rw [Option.map_some, hslotOffset, hget]
      rfl

theorem shows_of_classRecordAt (hr : r.Backed) {c : Content.Class}
    (hc : ClassRecordAt r.contents o c) (ha : address = r.begin + o) :
    ∃ record, decode r (some address) = .ok record ∧ record.Shows r c := by
  obtain ⟨hstatus, hc⟩ := hc
  cases hcode : c.code with
  | none =>
      rw [hcode] at hc
      refine ⟨_, decode_of_at hr hstatus (by nofun) hc ha, rfl, by rw [hcode]; rfl,
        fun k _ => ⟨none, rfl, by rw [hcode]; rfl⟩⟩
  | all offsets =>
      rw [hcode] at hc
      obtain ⟨hlen, hwords, hat⟩ := hc
      obtain ⟨hrecord, htable⟩ := At.append.mp hat
      refine ⟨_, decode_of_at hr hstatus (by nofun) hrecord ha, rfl, by rw [hcode]; rfl,
        fun k hk => ?_⟩
      rw [hcode]
      exact codeSlot_of_words hr ⟨hwords, htable⟩ ha (hlen ▸ hk)
  | some offsets =>
      rw [hcode] at hc
      obtain ⟨hlen, hwords, bitmap, hbitmap, hbits, hat⟩ := hc
      obtain ⟨hrecord, htable⟩ := At.append.mp hat
      have hbehind : o + (encode c.status .some bitmap).length = o + 8 + bitmap.length := by
        simp only [encode, List.length_append, length_toBytesLE]
        omega
      rw [hbehind] at htable
      refine ⟨_, decode_of_at hr hstatus (fun _ => hbitmap) hrecord ha, rfl, by rw [hcode]; rfl,
        fun k hk => ?_⟩
      rw [hcode]
      exact codeSlot_of_bits hr hbits ⟨hwords, htable⟩ ha (hlen ▸ hk)

end ClassRecord

/-! The header. -/

namespace Header

variable {r : Region} {h : Header}

/-- A header that is valid and fits into its place has a signature of eight bytes. -/
theorem fits_of_fitsHeader (hfits : FitsHeader h) : h.Fits := by
  have hvalid := hfits.valid
  simp only [isValid, isSupported, Bool.and_eq_true, Bool.or_eq_true, beq_iff_eq] at hvalid
  obtain ⟨hmagic, hversion⟩ := hvalid
  have hword : ∀ n ∈ [h.checksum, h.instructionSetCode, h.features, h.dexFileCount,
      h.executableOffset], IsWord n := fun n hn => hfits.words n (List.mem_append_left _ hn)
  have hlast : ∀ n ∈ [h.imageChecksum, h.imageDataBegin, h.keyValueStoreSize], IsWord n :=
    fun n hn => hfits.words n (List.mem_append_right _ (List.mem_append_right _ hn))
  simp only [List.forall_mem_cons, List.not_mem_nil, false_imp_iff, implies_true,
    and_true] at hword hlast
  exact
    { magic := by rw [hmagic]; rfl
      version := by rcases hversion with hversion | hversion <;> rw [hversion] <;> rfl
      trampolines := hfits.trampolines
      leading := hword
      offsets := fun n hn =>
        hfits.words n (List.mem_append_right _ (List.mem_append_left _ hn))
      trailing := hlast
      delta := hfits.delta }

/-- The header is read back from its bytes, at the address where the region begins. -/
theorem decode_of_at (hr : r.Backed) (hfits : FitsHeader h) (hat : At r.contents 0 h.encode) :
    decode r r.begin = .ok { h with address := r.begin } := by
  have hh := fits_of_fitsHeader hfits
  have hbears : r.Bears r.begin h.encode := hr.bears_of_at hat (Int.add_zero _).symm
  exact (decode_eq_ok_iff hr).mpr ⟨rfl, { hh with }, hbears⟩

end Header

/-! Records of dex files. -/

/-- The record is that of a dex file which was laid out. -/
structure Record.Shows (record : Record) (r : Region) (f : Content.File) : Prop where
  location : record.location = f.location
  file : ∃ dexOffset : Nat, record.dexPointer = r.begin + dexOffset ∧
    FileAt r.contents f dexOffset record.classOffsets

theorem Image.decodeNext_of_at {image : Image} (hr : image.region.Backed) {f : Content.File}
    {o checksum dexOffset : Nat} {classOffsets : List Nat} (hlocation : IsWord f.location.length)
    (hchecksum : IsWord checksum) (hfile : FileAt image.region.contents f dexOffset classOffsets)
    (hat : At image.region.contents o
      (Record.encode f.location checksum dexOffset classOffsets)) :
    ∃ record, image.decodeNext (image.begin + o) = .ok (record, image.begin +
        ((o + (Record.encode f.location checksum dexOffset classOffsets).length : Nat) : Int)) ∧
      record.Shows image.region f := by
  obtain ⟨part, t, hpart, hmodule⟩ := hfile.module
  have hcount : Dex.classDefCount image.region (image.begin + dexOffset) =
      .ok classOffsets.length :=
    hfile.count ▸ Dex.classDefCount_of_isModule hr hpart hmodule rfl
  obtain ⟨hsignature, hwords⟩ := (Dex.classDefCount_eq_ok_iff hr).mp hcount
  have hrecord : image.HasRecord (image.begin + o) f.location checksum dexOffset classOffsets :=
    { words := ⟨hlocation, hchecksum, hfile.dexPointer.1, fun n hn => (hfile.classPointers n hn).1⟩
      bytes := hr.bears_of_at hat rfl
      dexOffset_ne_zero := hfile.dexPointer.2
      signature := hsignature
      count := hwords }
  refine ⟨_, (Image.decodeNext_eq_ok_iff hr).mpr ⟨_, _, _, _, hrecord, rfl, ?_⟩, rfl, dexOffset,
    rfl, hfile⟩
  rw [Record.length_encode, Image.recordAt]
  dsimp only
  omega

end OatImage
