import Mathlib.Algebra.BigOperators.Ring.Finset
import Mathlib.Tactic.Ring
import OatImage.Proofs.ExactReads

/-!
# Reads of a window

A window shows a byte at each of its addresses, and a read is a value of these bytes: the bytes
themselves, a word with its least significant byte first, a two's complement number or a list of
words. It answers where the whole range that it takes lies in the window, and it fails with the
address where it does not. An empty range lies in the window at each of its addresses and at its
end. What the buffer holds behind the end of the window is never read.
-/
namespace OatImage

/-- The byte that a buffer holds for an address, if its first byte lies at `begin`. -/
def heldAt (buffer : ByteArray) (begin address : Int) : UInt8 :=
  buffer.data.getD (address - begin).toNat 0

variable {byte : Int → UInt8} {address : Int}

/-- The bytes at `count` addresses in a row. -/
def bytesAt (byte : Int → UInt8) (address : Int) (count : Nat) : List UInt8 :=
  (List.range count).map fun k : Nat => byte (address + k)

/-- The word of `width` bytes at an address: the byte at distance `k` counts `256 ^ k`-fold. -/
def valueAt (byte : Int → UInt8) (address : Int) (width : Nat) : Nat :=
  ∑ k ∈ Finset.range width, (byte (address + k)).toNat * 256 ^ k

/-- The lowest digit of a number in a base, and the others. -/
theorem sum_digits_succ (digit : Nat → Nat) (base count : Nat) :
    ∑ k ∈ Finset.range (count + 1), digit k * base ^ k =
      digit 0 + base * ∑ k ∈ Finset.range count, digit (k + 1) * base ^ k := by
  rw [Finset.sum_range_succ', Finset.mul_sum, Nat.pow_zero, Nat.mul_one, Nat.add_comm]
  refine congrArg (digit 0 + ·) (Finset.sum_congr rfl fun k _ => ?_)
  rw [Nat.pow_succ]
  ring

theorem add_natCast_succ (address : Int) (k : Nat) :
    address + ((k + 1 : Nat) : Int) = address + 1 + k := by omega

theorem bytesAt_succ (byte : Int → UInt8) (address : Int) (count : Nat) :
    bytesAt byte address (count + 1) = byte address :: bytesAt byte (address + 1) count := by
  simp only [bytesAt, List.range_succ_eq_map, List.map_cons, List.map_map, Function.comp_def,
    Nat.succ_eq_add_one, add_natCast_succ, Nat.cast_zero, Int.add_zero]

@[simp] theorem length_bytesAt (byte : Int → UInt8) (address : Int) (count : Nat) :
    (bytesAt byte address count).length = count := by
  rw [bytesAt, List.length_map, List.length_range]

theorem ofBytesLE_bytesAt (byte : Int → UInt8) (address : Int) (width : Nat) :
    ofBytesLE (bytesAt byte address width) = valueAt byte address width := by
  induction width generalizing address with
  | zero => rfl
  | succ width ih =>
      rw [bytesAt_succ, ofBytesLE, ih, valueAt, valueAt, sum_digits_succ]
      simp only [add_natCast_succ, Nat.cast_zero, Int.add_zero]

/-- A word of whole bytes as a two's complement number. -/
theorem signedWord_eq_toInt {width n : Nat} (heven : 2 ^ (8 * width) % 2 = 0)
    (h : n < Nat.pow 256 width) : signedWord width n = (BitVec.ofNat (8 * width) n).toInt := by
  have hpow : Nat.pow 256 width = 2 ^ (8 * width) := by
    rw [Nat.pow_mul]
    rfl
  rw [hpow] at h
  rw [signedWord, hpow, BitVec.toInt_eq_toNat_cond, BitVec.toNat_ofNat, Nat.mod_eq_of_lt h]
  generalize 2 ^ (8 * width) = p at *
  split_ifs <;> omega

namespace Region

variable {r : Region} {what : String} {size : Nat} {α : Type}

/-- The range of `size` bytes at an address lies in the window. -/
def Within (r : Region) (address : Int) (size : Nat) : Prop :=
  r.begin ≤ address ∧ address + size ≤ r.stop

instance (r : Region) (address : Int) (size : Nat) : Decidable (r.Within address size) :=
  inferInstanceAs (Decidable (_ ∧ _))

/-- Each of some bytes has to lie in the window; of an empty range its place has to. -/
theorem within_iff_of_pos (hsize : 0 < size) :
    r.Within address size ↔ ∀ k < size, r.begin ≤ address + k ∧ address + k < r.stop := by
  rw [Within]
  constructor
  · intro h k hk
    omega
  · intro h
    have hfirst := h 0 hsize
    have hlast := h (size - 1) (by omega)
    omega

theorem within_iff_contains : r.Within address size ↔ r.contains address size = true := by
  rw [Within, contains_iff]
  omega

/-- What a read comes to that takes a range of the window: the answer where the window has the
range, and a failure with the address where it has not. -/
structure Takes (r : Region) (address : Int) (size : Nat) (read : Decode α) (answer : α) :
    Prop where
  answers : r.Within address size → read = .ok answer
  fails_iff : (∃ cause, read = .error (.inImage cause address)) ↔ ¬ r.Within address size

theorem takes_of_check {read : Decode α} {answer : α}
    (hanswer : r.contains address size = true → read = .ok answer)
    (hfail : ¬ r.contains address size = true →
      ∃ cause, read = .error (.inImage cause address)) :
    r.Takes address size read answer := by
  rw [← within_iff_contains] at hanswer hfail
  refine ⟨hanswer, ⟨?_, hfail⟩⟩
  rintro ⟨cause, hcause⟩ hin
  rw [hanswer hin] at hcause
  cases hcause

/-- The window shows these bytes at its addresses. -/
def Shows (r : Region) (byte : Int → UInt8) : Prop :=
  ∀ address, r.begin ≤ address → address < r.stop → r.bytes[r.offset address]? = some (byte address)

theorem Shows.slice_eq (h : r.Shows byte) (hin : r.Within address size) :
    r.slice (r.offset address) size = bytesAt byte address size := by
  induction size generalizing address with
  | zero => rfl
  | succ size ih =>
      rw [Within] at hin
      have hnext : r.offset address + 1 = r.offset (address + 1) := by
        simp only [offset]
        omega
      have hrest : r.Within (address + 1) size := by
        rw [Within]
        omega
      rw [slice, h address hin.1 (by omega), bytesAt_succ, hnext, ih hrest]

theorem Shows.words_eq (h : r.Shows byte) {count : Nat} (hin : r.Within address (4 * count)) :
    r.words (r.offset address) count =
      (List.range count).map fun k : Nat => valueAt byte (address + 4 * k) 4 := by
  induction count generalizing address with
  | zero => rfl
  | succ count ih =>
      rw [Within] at hin
      have hnext : r.offset address + 4 = r.offset (address + 4) := by
        simp only [offset]
        omega
      have hrest : r.Within (address + 4) (4 * count) := by
        rw [Within]
        omega
      have hfirst : r.Within address 4 := by
        rw [Within]
        omega
      have hplace (k : Nat) : address + 4 * ((k + 1 : Nat) : Int) = address + 4 + 4 * k := by omega
      rw [words, h.slice_eq hfirst, ofBytesLE_bytesAt, hnext, ih hrest, List.range_succ_eq_map,
        List.map_cons, List.map_map]
      simp only [Function.comp_def, Nat.succ_eq_add_one, hplace, Nat.cast_zero, Int.mul_zero,
        Int.add_zero]

/-- Every read of the region is exact: it is the value of the bytes that the window shows in the
range that the read takes. -/
structure ReadsExactly (r : Region) (byte : Int → UInt8) : Prop where
  u16 : ∀ address what, r.Takes address 2 (r.u16 address what) (valueAt byte address 2)
  i16 : ∀ address what,
    r.Takes address 2 (r.i16 address what) (BitVec.ofNat 16 (valueAt byte address 2)).toInt
  u32 : ∀ address what, r.Takes address 4 (r.u32 address what) (valueAt byte address 4)
  i32 : ∀ address what,
    r.Takes address 4 (r.i32 address what) (BitVec.ofNat 32 (valueAt byte address 4)).toInt
  u32s : ∀ address (count : Nat) what, r.Takes address (4 * count) (r.u32s address count what)
    ((List.range count).map fun k : Nat => valueAt byte (address + 4 * k) 4)
  /-- The words of a list are those that are read one by one. -/
  element : ∀ address (count : Nat) what ns, r.u32s address count what = .ok ns →
    ns.length = count ∧ ∀ (k : Nat) (hk : k < ns.length),
      r.u32 (address + 4 * k) what = .ok ns[k]
  readBytes : ∀ address (size : Nat) what,
    r.Takes address size (r.readBytes address size what) (bytesAt byte address size)

theorem Backed.word_takes (hr : r.Backed) (h : r.Shows byte) (width : Nat) (address : Int)
    (what : String) :
    r.Takes address width (r.word width address what) (valueAt byte address width) := by
  refine takes_of_check (fun hin => ?_) fun hout => ?_
  · rw [hr.word_of_contains hin, h.slice_eq (within_iff_contains.mpr hin), ofBytesLE_bytesAt]
  · exact ⟨_, by rw [word, check_of_not_contains hout]; rfl⟩

/-- A word that is read as a number with a sign takes what the word takes. -/
theorem Takes.map {β : Type} {read : Decode α} {answer : α} (f : α → β)
    (h : r.Takes address size read answer) : r.Takes address size (f <$> read) (f answer) := by
  by_cases hin : r.Within address size
  · have hread := h.answers hin
    refine ⟨fun _ => by rw [hread]; rfl, iff_of_false ?_ (not_not_intro hin)⟩
    rw [hread]
    rintro ⟨_, hcause⟩
    cases hcause
  · obtain ⟨cause, hread⟩ := h.fails_iff.mpr hin
    exact ⟨fun h => absurd h hin, iff_of_true ⟨cause, by rw [hread]; rfl⟩ hin⟩

theorem valueAt_lt (byte : Int → UInt8) (address : Int) (width : Nat) :
    valueAt byte address width < Nat.pow 256 width := by
  rw [← ofBytesLE_bytesAt]
  exact Nat.lt_of_lt_of_eq (ofBytesLE_lt _) (congrArg _ (length_bytesAt byte address width))

theorem Backed.u32s_takes (hr : r.Backed) (h : r.Shows byte) (address : Int) (count : Nat)
    (what : String) : r.Takes address (4 * count) (r.u32s address count what)
      ((List.range count).map fun k : Nat => valueAt byte (address + 4 * k) 4) := by
  have hsize : ((4 * count : Nat) : Int) = (count : Int) * 4 := by omega
  refine takes_of_check (fun hin => ?_) fun hout => ?_
  · have hwords := h.words_eq (within_iff_contains.mpr hin)
    rw [hsize] at hin
    rw [hr.u32s_of_contains hin, Int.toNat_natCast, hwords]
  · rw [hsize] at hout
    exact ⟨_, by rw [u32s, check_of_not_contains hout]; rfl⟩

theorem Backed.readsExactly (hr : r.Backed) (h : r.Shows byte) : r.ReadsExactly byte where
  u16 := hr.word_takes h 2
  i16 address what := by
    have hread := (hr.word_takes h 2 address what).map (signedWord 2)
    rwa [signedWord_eq_toInt (by decide) (valueAt_lt byte address 2)] at hread
  u32 := hr.word_takes h 4
  i32 address what := by
    have hread := (hr.word_takes h 4 address what).map (signedWord 4)
    rwa [signedWord_eq_toInt (by decide) (valueAt_lt byte address 4)] at hread
  u32s := hr.u32s_takes h
  element address count what ns hns := by
    have hin : r.Within address (4 * count) := by
      by_contra hout
      obtain ⟨cause, hread⟩ := (hr.u32s_takes h address count what).fails_iff.mpr hout
      cases hns.symm.trans hread
    obtain rfl := Except.ok.inj (hns.symm.trans ((hr.u32s_takes h address count what).answers hin))
    refine ⟨by rw [List.length_map, List.length_range], fun k hk => ?_⟩
    rw [List.length_map, List.length_range] at hk
    rw [Within] at hin
    have hone : r.Within (address + 4 * k) 4 := by
      rw [Within]
      omega
    rw [List.getElem_map, List.getElem_range]
    exact (hr.word_takes h 4 (address + 4 * k) what).answers hone
  readBytes address size what := by
    refine takes_of_check (fun hin => ?_) fun hout => ?_
    · rw [readBytes_of_contains hin, Int.toNat_natCast,
        h.slice_eq (within_iff_contains.mpr hin)]
    · exact ⟨_, by rw [Region.readBytes, check_of_not_contains hout]; rfl⟩

/-! Windows over buffers. -/

variable {buffer buffer' : ByteArray} {begin stop : Int}

theorem shows_ofBuffer (hm : stop - begin ≤ buffer.size) :
    (ofBuffer buffer begin stop).Shows (heldAt buffer begin) := by
  intro address (hbegin : begin ≤ address) (hstop : address < stop)
  have hlt : (address - begin).toNat < buffer.data.size := by
    rw [← ByteArray.size_data] at hm
    omega
  have hoffset : (ofBuffer buffer begin stop).offset address = (address - begin).toNat := rfl
  rw [← getElem?_contents, contents_ofBuffer, hoffset, List.getElem?_take, if_pos (by omega),
    heldAt, Array.getD_eq_getD_getElem?, Array.getElem?_eq_getElem hlt]
  exact List.getElem?_eq_getElem hlt

/-- A window does not change with what its buffer holds behind the end of the window. -/
theorem ofBuffer_congr (hm : stop - begin ≤ buffer.size) (hm' : stop - begin ≤ buffer'.size)
    (h : ∀ address, begin ≤ address → address < stop →
      heldAt buffer' begin address = heldAt buffer begin address) :
    ofBuffer buffer' begin stop = ofBuffer buffer begin stop := by
  have hcontents : (ofBuffer buffer' begin stop).contents =
      (ofBuffer buffer begin stop).contents := by
    apply List.ext_getElem?
    intro i
    by_cases hi : (i : Int) < stop - begin
    · have hoffset (buffer : ByteArray) : (ofBuffer buffer begin stop).offset (begin + i) = i := by
        simp only [offset, ofBuffer]
        omega
      have hbegin : begin ≤ begin + i := by omega
      have hstop : begin + i < stop := by omega
      have hfirst := shows_ofBuffer hm (begin + i) hbegin hstop
      have hsecond := shows_ofBuffer hm' (begin + i) hbegin hstop
      rw [hoffset] at hfirst hsecond
      rw [getElem?_contents, getElem?_contents, hfirst, hsecond, h (begin + i) hbegin hstop]
    · rw [contents_ofBuffer, contents_ofBuffer, List.getElem?_take, List.getElem?_take,
        if_neg (by omega), if_neg (by omega)]
  have hbytes : (ofBuffer buffer' begin stop).bytes = (ofBuffer buffer begin stop).bytes :=
    ByteArray.ext (Array.toList_inj.mp hcontents)
  exact congrArg (Region.mk · begin stop) hbytes

/-- Every read of a window over a buffer that holds its bytes is exact, and it is the same read
over every other buffer that holds the same bytes for the addresses of the window. A range that
is not empty lies in the window exactly if each of its addresses does. -/
theorem ofBuffer_readsExactly (hle : begin ≤ stop) (hm : stop - begin ≤ buffer.size) :
    (ofBuffer buffer begin stop).ReadsExactly (heldAt buffer begin) ∧
      (∀ address size, 0 < size → ((ofBuffer buffer begin stop).Within address size ↔
        ∀ k < size, begin ≤ address + k ∧ address + k < stop)) ∧
      ∀ buffer' : ByteArray, stop - begin ≤ buffer'.size →
        (∀ address, begin ≤ address → address < stop →
          heldAt buffer' begin address = heldAt buffer begin address) →
        ofBuffer buffer' begin stop = ofBuffer buffer begin stop :=
  ⟨(ofBuffer_backed hle hm).readsExactly (shows_ofBuffer hm),
    fun _ _ hsize => within_iff_of_pos hsize, fun _ hm' h => ofBuffer_congr hm hm' h⟩

/-- Six bytes, of which a window shows the first four. -/
def sixBytes : ByteArray := ⟨#[0xFE, 0xFF, 0xAD, 0xDE, 1, 2]⟩

/-- A number with a sign, a list of one word, an empty list at the end of the window, and a word
that would go on behind it. -/
theorem ofBuffer_readsExactly_sixBytes :
    ((4096 : Int) ≤ 4100 ∧ (4100 : Int) - 4096 ≤ sixBytes.size) ∧
      (ofBuffer sixBytes 4096 4100).i16 4096 "i16" = .ok (-2) ∧
      (ofBuffer sixBytes 4096 4100).u32s 4096 1 "u32 array" = .ok [0xDEADFFFE] ∧
      (ofBuffer sixBytes 4096 4100).u32s 4100 0 "u32 array" = .ok [] ∧
      ∃ cause, (ofBuffer sixBytes 4096 4100).u32 4098 "u32" = .error (.inImage cause 4098) := by
  have hle : (4096 : Int) ≤ 4100 := by decide
  have hm : (4100 : Int) - 4096 ≤ sixBytes.size := by decide
  have hreads := (ofBuffer_readsExactly hle hm).1
  refine ⟨⟨hle, hm⟩, (hreads.i16 4096 "i16").answers ?_, (hreads.u32s 4096 1 _).answers ?_,
    (hreads.u32s 4100 0 _).answers ?_, (hreads.u32 4098 "u32").fails_iff.mpr ?_⟩ <;>
  decide

end Region

end OatImage
