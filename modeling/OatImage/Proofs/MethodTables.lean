import OatImage.Proofs.RecordReading

/-!
# Class records and their tables

A class record is read exactly where one was laid out, so what keeps it from being read is that
there is no address, that its kind is unknown, or that a part of it does not fit the image. Of a
record that is read the table has no stored length: where the entry of a method lies follows from
the coverage and the bitmap, and whether it is read follows from the image alone.
-/
namespace OatImage

open Decode

theorem Coverage.ofCode?_eq_some_iff {code : Nat} {coverage : Coverage} :
    ofCode? code = Option.some coverage ↔ code = coverage.code := by
  constructor
  · intro h
    unfold ofCode? at h
    split at h <;> cases h <;> rfl
  · rintro rfl
    exact ofCode?_code coverage

namespace ClassRecord

variable {r : Region} {address status : Int} {coverage : Coverage} {bitmap : List UInt8}

/-! The layout of a record. -/

theorem bears_encode_iff : r.Bears address (encode status coverage bitmap) ↔
    r.Bears address (toBytesLE 2 (status % 0x10000).toNat) ∧
    r.Bears (address + 2) (toBytesLE 2 coverage.code) ∧
    (coverage = .some → r.Bears (address + 4) (toBytesLE 4 bitmap.length) ∧
      r.Bears (address + 8) bitmap) := by
  have hhead : r.Bears address
        (toBytesLE 2 (status % 0x10000).toNat ++ toBytesLE 2 coverage.code) ↔
      r.Bears address (toBytesLE 2 (status % 0x10000).toNat) ∧
        r.Bears (address + 2) (toBytesLE 2 coverage.code) := by
    rw [Region.bears_append, length_toBytesLE]
    rfl
  have hlast : address + 4 + 4 = address + 8 := by omega
  rw [← and_assoc, ← hhead]
  cases coverage with
  | some =>
      simp only [encode, Region.bears_append, List.length_append, length_toBytesLE, true_implies,
        Nat.reduceAdd, Int.cast_ofNat_Int, hlast]
  | _ => simp only [encode, List.append_nil, reduceCtorEq, false_implies, and_true]

theorem decode_eq_ok_iff (hr : r.Backed) {c : ClassRecord} :
    decode r (some address) = .ok c ↔ ∃ status coverage bitmap,
      (-0x8000 ≤ status ∧ status < 0x8000) ∧ (coverage = .some → IsWord bitmap.length) ∧
      r.Bears address (encode status coverage bitmap) ∧
      c = written address status coverage bitmap := by
  constructor
  · intro h
    obtain ⟨status, hstatus, h⟩ := bind_eq_ok.mp h
    obtain ⟨n, hn, hsigned⟩ := bind_eq_ok.mp hstatus
    obtain ⟨hword, hbytes⟩ := hr.word_eq_ok_iff.mp hn
    obtain ⟨hrange, hback⟩ := emod_signedWord (by decide) hword
    obtain rfl := Except.ok.inj hsigned
    obtain ⟨code, hcode, h⟩ := bind_eq_ok.mp h
    obtain ⟨_, hcodeBytes⟩ := hr.word_eq_ok_iff.mp hcode
    rw [← hback] at hbytes
    cases hkind : Coverage.ofCode? code with
    | none =>
        rw [hkind] at h
        cases h
    | some coverage =>
        rw [hkind] at h
        obtain rfl := Coverage.ofCode?_eq_some_iff.mp hkind
        cases coverage with
        | none =>
            cases h
            exact ⟨_, .none, [], hrange, nofun, bears_encode_iff.mpr ⟨hbytes, hcodeBytes, nofun⟩,
              rfl⟩
        | all =>
            cases h
            exact ⟨_, .all, [], hrange, nofun, bears_encode_iff.mpr ⟨hbytes, hcodeBytes, nofun⟩,
              rfl⟩
        | some =>
            obtain ⟨size, hsize, h⟩ := bind_eq_ok.mp h
            obtain ⟨bitmap, hbitmap, h⟩ := bind_eq_ok.mp h
            obtain ⟨hsizeWord, hsizeBytes⟩ := hr.word_eq_ok_iff.mp hsize
            obtain ⟨hlen, hbitmapBytes⟩ := hr.readBytes_eq_ok_iff.mp hbitmap
            obtain rfl := Int.ofNat.inj hlen
            cases h
            exact ⟨_, .some, bitmap, hrange, fun _ => hsizeWord,
              bears_encode_iff.mpr ⟨hbytes, hcodeBytes, fun _ => ⟨hsizeBytes, hbitmapBytes⟩⟩, rfl⟩
  · rintro ⟨status, coverage, bitmap, hrange, hword, h, rfl⟩
    exact decode_of_at hr hrange hword (hr.at_of_bears h) h.address_eq

/-- Why there is no class record to be read. -/
inductive Unreadable (r : Region) : Option Int → Prop
  | absent : Unreadable r none
  /-- The status or the kind does not fit the image. -/
  | fields (a : Int) (h : ¬ r.contains a 4 = true) : Unreadable r (some a)
  | kind (a : Int) (code : Nat) (hword : code < Nat.pow 256 2)
      (hcode : r.Bears (a + 2) (toBytesLE 2 code)) (h : code ≠ 0 ∧ code ≠ 1 ∧ code ≠ 2) :
      Unreadable r (some a)
  | bitmapSize (a : Int) (hcode : r.Bears (a + 2) (toBytesLE 2 1))
      (h : ¬ r.contains (a + 4) 4 = true) : Unreadable r (some a)
  | bitmap (a : Int) (size : Nat) (hcode : r.Bears (a + 2) (toBytesLE 2 1)) (hword : IsWord size)
      (hsize : r.Bears (a + 4) (toBytesLE 4 size)) (h : ¬ r.contains (a + 8) size = true) :
      Unreadable r (some a)

theorem not_unreadable_of_bears (hword : coverage = .some → IsWord bitmap.length)
    (h : r.Bears address (encode status coverage bitmap)) : ¬ Unreadable r (some address) := by
  obtain ⟨hstatus, hcode, hbitmap⟩ := bears_encode_iff.mp h
  have hlt : coverage.code < Nat.pow 256 2 := by cases coverage <;> decide
  have hcodes {code : Nat} (hcodeWord : code < Nat.pow 256 2)
      (hcode' : r.Bears (address + 2) (toBytesLE 2 code)) : code = coverage.code :=
    toBytesLE_inj hcodeWord hlt (hcode'.unique hcode (by simp only [length_toBytesLE]))
  have hsome (hcode' : r.Bears (address + 2) (toBytesLE 2 1)) : coverage = .some := by
    have heq := hcodes (by decide) hcode'
    cases coverage with
    | some => rfl
    | _ => cases heq
  intro hnone
  cases hnone with
  | fields _ hfields =>
      refine hfields (Region.contains_iff.mpr ⟨by decide, hstatus.begin_le, ?_⟩)
      have hstop := hcode.le_stop
      rw [length_toBytesLE] at hstop
      omega
  | kind _ _ hcodeWord hcode' hunknown =>
      rw [hcodes hcodeWord hcode'] at hunknown
      cases coverage with
      | all => exact hunknown.1 rfl
      | some => exact hunknown.2.1 rfl
      | none => exact hunknown.2.2 rfl
  | bitmapSize _ hcode' hsize =>
      have hcontains := (hbitmap (hsome hcode')).1.contains
      rw [length_toBytesLE] at hcontains
      exact hsize hcontains
  | bitmap _ _ hcode' hsizeWord hsize hbytes =>
      obtain ⟨hsize', hbytes'⟩ := hbitmap (hsome hcode')
      obtain rfl := toBytesLE_inj hsizeWord (hword (hsome hcode'))
        (hsize.unique hsize' (by simp only [length_toBytesLE]))
      exact hbytes hbytes'.contains

/-- Where no record is to be read for one of those reasons, one is laid out. -/
theorem exists_bears_of_readable (hr : r.Backed) (h : ¬ Unreadable r (some address)) :
    ∃ status coverage bitmap, (-0x8000 ≤ status ∧ status < 0x8000) ∧
      (coverage = .some → IsWord bitmap.length) ∧
      r.Bears address (encode status coverage bitmap) := by
  have hfields : r.contains address 4 = true := by
    by_contra hfields
    exact h (.fields _ hfields)
  obtain ⟨_, hbegin, hstop⟩ := Region.contains_iff.mp hfields
  have hfirst : r.contains address (2 : Nat) = true :=
    Region.contains_iff.mpr ⟨by decide, by omega, by omega⟩
  have hsecond : r.contains (address + 2) (2 : Nat) = true :=
    Region.contains_iff.mpr ⟨by decide, by omega, by omega⟩
  obtain ⟨hn, hstatus⟩ := hr.bears_word hfirst
  obtain ⟨hcodeWord, hcode⟩ := hr.bears_word hsecond
  generalize ofBytesLE (r.slice (r.offset address) 2) = n at hn hstatus
  generalize ofBytesLE (r.slice (r.offset (address + 2)) 2) = code at hcodeWord hcode
  obtain ⟨hrange, hback⟩ := emod_signedWord (by decide) hn
  rw [← hback] at hstatus
  by_cases hkind : code ≠ 0 ∧ code ≠ 1 ∧ code ≠ 2
  · exact absurd (.kind _ _ hcodeWord hcode hkind) h
  have hplain (coverage : Coverage) (heq : code = coverage.code) (hne : coverage ≠ .some) :
      ∃ status coverage bitmap, (-0x8000 ≤ status ∧ status < 0x8000) ∧
        (coverage = .some → IsWord bitmap.length) ∧
        r.Bears address (encode status coverage bitmap) :=
    ⟨signedWord 2 n, coverage, [], hrange, fun heq => absurd heq hne,
      bears_encode_iff.mpr ⟨hstatus, heq ▸ hcode, fun heq => absurd heq hne⟩⟩
  rcases (by omega : code = 0 ∨ code = 1 ∨ code = 2) with rfl | rfl | rfl
  · exact hplain .all rfl nofun
  · have hfits : r.contains (address + 4) (4 : Nat) = true := by
      by_contra hfits
      exact h (.bitmapSize _ hcode hfits)
    obtain ⟨hsizeWord, hsize⟩ := hr.bears_word hfits
    generalize ofBytesLE (r.slice (r.offset (address + 4)) 4) = size at hsizeWord hsize
    have hbytes : r.contains (address + 8) size = true := by
      by_contra hbytes
      exact h (.bitmap _ _ hcode hsizeWord hsize hbytes)
    obtain ⟨hlen, hbitmap⟩ := hr.bears_slice hbytes
    rw [← hlen] at hsizeWord hsize
    exact ⟨_, .some, _, hrange, fun _ => hsizeWord,
      bears_encode_iff.mpr ⟨hstatus, hcode, fun _ => ⟨hsize, hbitmap⟩⟩⟩
  · exact hplain .none rfl nofun

theorem decode_error_iff (hr : r.Backed) (address : Option Int) :
    (∃ d, decode r address = .error (.decode d)) ↔ Unreadable r address := by
  constructor
  · rintro ⟨d, herror⟩
    by_contra h
    cases address with
    | none => exact h .absent
    | some address =>
        obtain ⟨_, _, _, hrange, hword, hbears⟩ := exists_bears_of_readable hr h
        rw [(decode_eq_ok_iff hr).mpr ⟨_, _, _, hrange, hword, hbears, rfl⟩] at herror
        cases herror
  · intro h
    rcases (decode_failsOnly hr address).cases with ⟨c, hok⟩ | herror
    · cases address with
      | none => cases hok
      | some address =>
          obtain ⟨_, _, _, _, hword, hbears, _⟩ := (decode_eq_ok_iff hr).mp hok
          exact absurd h (not_unreadable_of_bears hword hbears)
    · exact herror

/-! The table. -/

/-- The step reads the code slot at an address: it answers with the word there, and fails exactly
if the word does not lie in the image as a whole. -/
structure ReadsSlot (r : Region) (address : Int) (x : Decode (Option CodeSlot)) : Prop where
  answers : ∀ slot, x = .ok slot ↔
    ∃ n, slot = some ⟨address, n⟩ ∧ IsWord n ∧ r.Bears address (toBytesLE 4 n)
  fails : (∃ d, x = .error (.decode d)) ↔ ¬ r.contains address 4 = true

/-- The table of a record answers for every method, by the coverage of the class. -/
structure Answers (r : Region) (c : ClassRecord) : Prop where
  nothing : c.coverage = .none → ∀ k : Nat, c.codeSlot r k = .ok none
  whole : c.coverage = .all → ∃ table, c.table = some table ∧
    ∀ k : Nat, ReadsSlot r (table + 4 * k) (c.codeSlot r k)
  /-- A method has an entry exactly if its bit is set, which it is not beyond the bitmap. The
  number of the entry is the number of set bits below. -/
  part : c.coverage = .some → ∃ table bitmap, c.table = some table ∧ c.bitmap = some bitmap ∧
    ∀ k : Nat,
      (c.codeSlot r k = .ok none ↔ 8 * bitmap.length ≤ k ∨ Bitmap.bit bitmap k = false) ∧
      (Bitmap.bit bitmap k = true → ReadsSlot r
        (table + 4 * ((List.range k).countP (Bitmap.bit bitmap) : Nat)) (c.codeSlot r k))
  /-- So the methods with an entry have the entries from the first to the last, one to one and in
  their order. -/
  entries : c.coverage = .some → ∃ bitmap, c.bitmap = some bitmap ∧
    (∀ k : Nat, c.entryIndex k = .ok none ∨
      ∃ e < Bitmap.setCount bitmap, c.entryIndex k = .ok (some (e : Int))) ∧
    (∀ (j k : Nat) (d e : Int), c.entryIndex j = .ok (some d) → c.entryIndex k = .ok (some e) →
      (d < e ↔ j < k)) ∧
    ∀ e < Bitmap.setCount bitmap, ∃ k : Nat, c.entryIndex k = .ok (some (e : Int))

variable {c : ClassRecord} {table : Int}

theorem entryIndex_of_bit (h : c.bitmap = some bitmap) {k : Nat}
    (hbit : Bitmap.bit bitmap k = true) :
    c.entryIndex k = .ok (some (((List.range k).countP (Bitmap.bit bitmap) : Nat) : Int)) := by
  simp only [entryIndex, h, Bitmap.isSet_natCast, ok_bind, hbit, if_true, Bitmap.rank_of_bit hbit]
  rfl

theorem entryIndex_of_not_bit (h : c.bitmap = some bitmap) {k : Nat}
    (hbit : Bitmap.bit bitmap k = false) : c.entryIndex k = .ok none := by
  simp only [entryIndex, h, Bitmap.isSet_natCast, ok_bind, hbit, Bool.false_eq_true, if_false]
  rfl

theorem readsSlot_of_entryIndex (hr : r.Backed) {k e : Nat} (htable : c.table = some table)
    (hentry : c.entryIndex k = .ok (some (e : Int))) :
    ReadsSlot r (table + 4 * e) (c.codeSlot r k) := by
  have hslot : c.codeSlot r k = (do
      let n ← r.u32 (table + 4 * e) "OatMethodOffsets"
      pure (some ⟨table + 4 * e, n⟩)) := by
    rw [codeSlot, htable]
    simp only [hentry, ok_bind]
  have herror : (∃ d, r.u32 (table + 4 * e) "OatMethodOffsets" = .error (.decode d)) ↔
      ¬ r.contains (table + 4 * e) 4 = true := hr.word_error_iff
  rw [hslot]
  constructor
  · intro slot
    rw [bind_eq_ok]
    constructor
    · rintro ⟨n, hn, hok⟩
      cases hok
      exact ⟨n, rfl, hr.word_eq_ok_iff.mp hn⟩
    · rintro ⟨n, rfl, hn⟩
      exact ⟨n, hr.word_eq_ok_iff.mpr hn, rfl⟩
  · rw [← herror]
    cases r.u32 (table + 4 * e) "OatMethodOffsets" with
    | ok n =>
        constructor
        · rintro ⟨_, herror⟩
          cases herror
        · rintro ⟨_, herror⟩
          cases herror
    | error e => simp only [error_bind, Except.error.injEq]

/-- In a table with a bitmap only a method whose bit is not set has no slot to be read. -/
theorem codeSlot_eq_none_iff (hr : r.Backed) (htable : c.table = some table)
    (hbitmap : c.bitmap = some bitmap) (k : Nat) :
    c.codeSlot r k = .ok none ↔ 8 * bitmap.length ≤ k ∨ Bitmap.bit bitmap k = false := by
  constructor
  · intro hnone
    by_contra hset
    rw [not_or, Bool.not_eq_false] at hset
    have hreads := readsSlot_of_entryIndex hr htable (entryIndex_of_bit hbitmap hset.2)
    obtain ⟨_, hslot, _⟩ := (hreads.answers none).mp hnone
    cases hslot
  · intro hclear
    have hbit : Bitmap.bit bitmap k = false := hclear.elim Bitmap.bit_of_length_le id
    rw [codeSlot, htable]
    simp only [entryIndex_of_not_bit hbitmap hbit, ok_bind]
    rfl

/-- Every record that is laid out answers, whatever the bytes of its bitmap are. -/
theorem answers_written (hr : r.Backed) (address status : Int) (coverage : Coverage)
    (bitmap : List UInt8) : Answers r (written address status coverage bitmap) where
  nothing h _ := by
    cases coverage with
    | none => rfl
    | _ => cases h
  whole h := by
    cases coverage with
    | all => exact ⟨_, rfl, fun k => readsSlot_of_entryIndex hr rfl rfl⟩
    | _ => cases h
  part h := by
    cases coverage with
    | some =>
        exact ⟨_, bitmap, rfl, rfl, fun k => ⟨codeSlot_eq_none_iff hr rfl rfl k, fun hbit =>
          readsSlot_of_entryIndex hr rfl (entryIndex_of_bit rfl hbit)⟩⟩
    | _ => cases h
  entries h := by
    cases coverage with
    | some =>
        have hclass (k : Nat) : (written address status .some bitmap).entryIndex k = .ok none ∨
            Bitmap.bit bitmap k = true ∧ (written address status .some bitmap).entryIndex k =
              .ok (some (((List.range k).countP (Bitmap.bit bitmap) : Nat) : Int)) := by
          cases hbit : Bitmap.bit bitmap k with
          | false => exact .inl (entryIndex_of_not_bit rfl hbit)
          | true => exact .inr ⟨rfl, entryIndex_of_bit rfl hbit⟩
        refine ⟨bitmap, rfl, fun k => ?_, fun j k d e hj hk => ?_, fun e he => ?_⟩
        · exact (hclass k).imp_right fun ⟨hbit, hentry⟩ => ⟨_, Bitmap.countP_bit_lt hbit, hentry⟩
        · rcases hclass j with hnone | ⟨hbit, hentry⟩
          · rw [hnone] at hj
            cases hj
          rcases hclass k with hnone | ⟨_, hentry'⟩
          · rw [hnone] at hk
            cases hk
          cases hentry.symm.trans hj
          cases hentry'.symm.trans hk
          rw [Int.ofNat_lt]
          exact Bitmap.countP_bit_lt_iff hbit
        · obtain ⟨k, hbit, rfl⟩ := Bitmap.exists_countP_bit_eq he
          exact ⟨k, entryIndex_of_bit rfl hbit⟩
    | _ => cases h

/-- The table lies behind the bytes of the record. -/
theorem written_eq (address status : Int) (coverage : Coverage) (bitmap : List UInt8) :
    written address status coverage bitmap =
      { address, status, coverage
        bitmap := if coverage = .some then some bitmap else none
        table := if coverage = .none then none
          else some (address + (encode status coverage bitmap).length) } := by
  cases coverage with
  | some =>
      have hlen : address + 8 + (bitmap.length : Int) =
          address + ((encode status .some bitmap).length : Int) := by
        simp only [encode, List.length_append, length_toBytesLE]
        omega
      rw [written, hlen]
      rfl
  | _ => rfl

end ClassRecord

namespace Image

variable {image : Image}

/-- In an image that was set up a class record is read where it is laid out, is not read exactly
for the reasons named, and answers for every method by rank in its bitmap. -/
theorem classRecords_answer {begin stop : Option Int} {memory : Option ByteArray}
    {asked : Option InstructionSet} (h : setup begin stop memory asked = .ok image) :
    (∀ (address status : Int) (coverage : Coverage) (bitmap : List UInt8),
      -0x8000 ≤ status → status < 0x8000 → (coverage = .some → IsWord bitmap.length) →
      image.region.Bears address (ClassRecord.encode status coverage bitmap) →
      ClassRecord.decode image.region (some address) = .ok
        { address, status, coverage
          bitmap := if coverage = .some then some bitmap else none
          table := if coverage = .none then none
            else some (address + (ClassRecord.encode status coverage bitmap).length) }) ∧
    (∀ address,
      ((∃ d, ClassRecord.decode image.region address = .error (.decode d)) ↔
        ClassRecord.Unreadable image.region address) ∧
      ((∃ c, ClassRecord.decode image.region address = .ok c) ↔
        ¬ ClassRecord.Unreadable image.region address)) ∧
    ∀ address c, ClassRecord.decode image.region address = .ok c → c.Answers image.region := by
  have hr := backed_of_setup h
  refine ⟨fun address status coverage bitmap hlow hhigh hword hbears => ?_, fun address => ?_,
    fun address c hc => ?_⟩
  · rw [← ClassRecord.written_eq]
    exact (ClassRecord.decode_eq_ok_iff hr).mpr ⟨_, _, _, ⟨hlow, hhigh⟩, hword, hbears, rfl⟩
  · rw [← ClassRecord.decode_error_iff hr]
    refine ⟨Iff.rfl, fun ⟨c, hok⟩ ⟨d, herror⟩ => ?_, fun hnone => ?_⟩
    · rw [hok] at herror
      cases herror
    · exact (ClassRecord.decode_failsOnly hr address).cases.resolve_right hnone
  · cases address with
    | none => cases hc
    | some address =>
        obtain ⟨status, coverage, bitmap, _, _, _, rfl⟩ := (ClassRecord.decode_eq_ok_iff hr).mp hc
        exact ClassRecord.answers_written hr address status coverage bitmap

/-- An image with a class record: of three methods the second one was not compiled. The word of
the last entry is cut off. -/
def cutTable : List UInt8 :=
  (plainHeader 0).encode ++ ClassRecord.encode (-2) .some [5] ++ wordBytes [0x101] ++ [2, 1, 0]

/-- The first method has the first entry, the second one none, and the entry of the third one is
the second, which does not lie in the image. -/
theorem classRecords_answer_cutTable :
    ∃ image c, setup (some 4096) (some 4184) (some ⟨cutTable.toArray⟩) none = .ok image ∧
      ClassRecord.decode image.region (some 4168) = .ok c ∧
      c = ⟨4168, -2, .some, some [5], some 4177⟩ ∧
      c.codeSlot image.region (0 : Nat) = .ok (some ⟨4177, 0x101⟩) ∧
      c.codeSlot image.region (1 : Nat) = .ok none ∧
      (∃ d, c.codeSlot image.region (2 : Nat) = .error (.decode d)) ∧
      ¬ ClassRecord.Unreadable image.region (some 4168) ∧
      ClassRecord.Unreadable image.region (some 4182) := by
  obtain ⟨image, h, hread⟩ := exists_setup_of_any 4096 4184 ⟨cutTable.toArray⟩ none
    (p := fun image => (ClassRecord.decode image.region (some 4168)).toOption.any fun c =>
      c = ⟨4168, -2, .some, some [5], some 4177⟩ &&
      (c.codeSlot image.region (0 : Nat)).toOption.any (· = some ⟨4177, 0x101⟩) &&
      !image.region.contains 4181 4 && !image.region.contains 4182 4)
    (by decide) (by decide +kernel) (by decide +kernel)
  obtain ⟨c, hc, hread⟩ := exists_of_any hread
  simp only [Bool.and_eq_true, decide_eq_true_eq, Bool.not_eq_true'] at hread
  obtain ⟨⟨⟨heq, hfirst⟩, hcut⟩, hbehind⟩ := hread
  obtain ⟨slot, hslot, hvalue⟩ := exists_of_any hfirst
  obtain ⟨-, hreadable, hanswers⟩ := classRecords_answer h
  have hc' := hanswers _ c hc
  subst heq
  obtain ⟨table, bitmap, htable, hbitmap, hmethods⟩ := hc'.part rfl
  cases htable
  cases hbitmap
  refine ⟨image, _, h, hc, rfl, hslot.trans (by rw [of_decide_eq_true hvalue]), ?_, ?_,
    (hreadable _).2.mp ⟨_, hc⟩, .fields _ (by rw [hbehind]; decide)⟩
  · exact (hmethods 1).1.mpr (.inr (by decide))
  · have hlast : (4177 : Int) + 4 * ((List.range 2).countP (Bitmap.bit [5]) : Nat) = 4181 := by
      decide
    refine ((hmethods 2).2 (by decide)).fails.mpr ?_
    rw [hlast, hcut]
    decide

end Image

end OatImage
