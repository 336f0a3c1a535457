import OatImage.ClassRecord
import OatImage.Proofs.Outcomes
import Mathlib.Data.Nat.Count

/-!
# Bitmaps of methods

For a method position, which is never negative, a bitmap answers always: whether the bit of
the method is set, with no bit set behind the end, and how many bits are set before it. The
second answer is the number of the method's entry in the table of code offsets. So the methods
whose bits are set have the entries from the first on, in their order and without a gap.
-/
namespace OatImage.Bitmap

/-- The bit of a method; beyond the bitmap it is not set. -/
def bit (bitmap : List UInt8) (k : Nat) : Bool :=
  (bitmap[k / 8]?.map fun b => b.toNat.testBit (k % 8)).getD false

theorem bit_of_byte {bitmap : List UInt8} {b : UInt8} {q i : Nat} (hb : bitmap[q]? = some b)
    (hi : i < 8) : bit bitmap (8 * q + i) = b.toNat.testBit i := by
  have hq : (8 * q + i) / 8 = q := by omega
  have hr : (8 * q + i) % 8 = i := by omega
  rw [bit, hq, hr, hb]
  rfl

theorem byte_of_bit {bitmap : List UInt8} {k : Nat} (h : bit bitmap k = true) :
    ∃ b, bitmap[k / 8]? = some b := by
  cases hb : bitmap[k / 8]? with
  | some b => exact ⟨b, rfl⟩
  | none =>
      rw [bit, hb] at h
      cases h

theorem byteAt?_natCast (bitmap : List UInt8) (q : Nat) : byteAt? bitmap q = bitmap[q]? := by
  have hq : ¬ (q : Int) < 0 := by omega
  simp only [byteAt?, if_neg hq, Int.toNat_natCast]

theorem bytesBefore_natCast (bitmap : List UInt8) (q : Nat) :
    bytesBefore bitmap q = bitmap.take q := by
  have hq : ¬ (q : Int) < 0 := by omega
  simp only [bytesBefore, if_neg hq, Int.toNat_natCast]

theorem isSet_natCast (bitmap : List UInt8) (k : Nat) :
    isSet bitmap k = .ok (bit bitmap k) := by
  have hdiv : (k : Int) / 8 = (k / 8 : Nat) := by omega
  have hmod : ((k : Int) % 8).toNat = k % 8 := by omega
  unfold isSet bit
  rw [hdiv, hmod]
  by_cases h : bitmap.length ≤ k / 8
  · rw [if_pos (by omega), List.getElem?_eq_none h]
    rfl
  · rw [if_neg (by omega), byteAt?_natCast, List.getElem?_eq_getElem (Nat.lt_of_not_le h)]
    rfl

/-- The bits of the full bytes before a position are counted byte by byte. -/
theorem countP_bit_bytes {bitmap : List UInt8} {q : Nat} (hq : q ≤ bitmap.length) :
    (List.range (8 * q)).countP (bit bitmap) = Numeral.total ((bitmap.take q).map popCount) := by
  induction q with
  | zero => rfl
  | succ q ih =>
      have hb : bitmap[q]? = some bitmap[q] := List.getElem?_eq_getElem (by omega)
      have hlast : ((List.range 8).map (8 * q + ·)).countP (bit bitmap) = popCount bitmap[q] := by
        rw [List.countP_map, popCount]
        refine List.countP_congr fun i hi => ?_
        rw [Function.comp_apply, bit_of_byte hb (List.mem_range.mp hi)]
      rw [Nat.mul_succ, List.range_add, List.countP_append, ih (by omega), hlast,
        List.take_add_one, hb, List.map_append, Numeral.total_append]
      rfl

/-- The bits of a byte below a position are those of its remainder. -/
theorem popCount_mod (b : UInt8) {i : Nat} (hi : i ≤ 8) :
    popCount (UInt8.ofNat (b.toNat % Nat.pow 2 i)) =
      (List.range i).countP fun j => b.toNat.testBit j := by
  have hlt : b.toNat % Nat.pow 2 i < 256 :=
    Nat.lt_of_le_of_lt (Nat.mod_le _ _) b.toNat_lt
  have hval : (UInt8.ofNat (b.toNat % Nat.pow 2 i)).toNat = b.toNat % Nat.pow 2 i :=
    UInt8.toNat_ofNat_of_lt' hlt
  have hbit : ∀ j, (b.toNat % Nat.pow 2 i).testBit j = (decide (j < i) && b.toNat.testBit j) :=
    Nat.testBit_mod_two_pow b.toNat i
  have hsplit : List.range 8 = List.range i ++ (List.range (8 - i)).map (i + ·) := by
    rw [← List.range_add]
    congr 1
    omega
  rw [popCount, hval, hsplit, List.countP_append, List.countP_map]
  have hlow : (List.range i).countP (fun j => (b.toNat % Nat.pow 2 i).testBit j) =
      (List.range i).countP fun j => b.toNat.testBit j := by
    refine List.countP_congr fun j hj => ?_
    rw [hbit, decide_eq_true (List.mem_range.mp hj), Bool.true_and]
  have hhigh : (List.range (8 - i)).countP
      ((fun j => (b.toNat % Nat.pow 2 i).testBit j) ∘ (i + ·)) = 0 := by
    rw [List.countP_eq_zero]
    intro j _
    rw [Function.comp_apply, hbit, decide_eq_false (by omega),
      Bool.false_and]
    exact Bool.false_ne_true
  rw [hlow, hhigh, Nat.add_zero]

/-- Below a method whose bit is set, the rank counts the set bits one by one. -/
theorem rank_of_bit {bitmap : List UInt8} {k : Nat} (h : bit bitmap k = true) :
    rank bitmap k = .ok ((List.range k).countP (bit bitmap)) := by
  obtain ⟨b, hb⟩ := byte_of_bit h
  have hlt : k / 8 < bitmap.length := (List.getElem?_eq_some_iff.mp hb).choose
  have hdiv : (k : Int) / 8 = (k / 8 : Nat) := by omega
  have hmod : ((k : Int) % 8).toNat = k % 8 := by omega
  have hk : List.range k =
      List.range (8 * (k / 8)) ++ (List.range (k % 8)).map (8 * (k / 8) + ·) := by
    rw [← List.range_add]
    congr 1
    omega
  have hrest : ((List.range (k % 8)).map (8 * (k / 8) + ·)).countP (bit bitmap) =
      popCount (UInt8.ofNat (b.toNat % Nat.pow 2 (k % 8))) := by
    rw [popCount_mod b (by omega), List.countP_map]
    refine List.countP_congr fun i hi => ?_
    have hlow := List.mem_range.mp hi
    rw [Function.comp_apply, bit_of_byte hb (by omega)]
  have hcount : (List.range k).countP (bit bitmap) =
      Numeral.total ((bitmap.take (k / 8)).map popCount) +
        popCount (UInt8.ofNat (b.toNat % Nat.pow 2 (k % 8))) := by
    rw [hk, List.countP_append, countP_bit_bytes (Nat.le_of_lt hlt), hrest]
  unfold rank
  rw [hdiv, hmod]
  dsimp only
  rw [bytesBefore_natCast, byteAt?_natCast, hb, hcount]
  by_cases hz : k % 8 = 0
  · have hnone : popCount (UInt8.ofNat (b.toNat % Nat.pow 2 (k % 8))) = 0 := by
      rw [popCount_mod b (by omega), hz]
      rfl
    rw [if_pos hz, hnone, Nat.add_zero]
  · rw [if_neg hz]

/-! Methods and entries. -/

theorem bit_of_length_le {bitmap : List UInt8} {k : Nat} (h : 8 * bitmap.length ≤ k) :
    bit bitmap k = false := by
  rw [bit, List.getElem?_eq_none (by omega)]
  rfl

/-- The number of set bits in a bitmap. -/
def setCount (bitmap : List UInt8) : Nat := Numeral.total (bitmap.map popCount)

theorem countP_bit_eq_count (bitmap : List UInt8) (k : Nat) :
    (List.range k).countP (bit bitmap) = Nat.count (bit bitmap · = true) k := by
  simp only [Nat.count, Bool.decide_eq_true]

theorem count_bit_bytes (bitmap : List UInt8) :
    Nat.count (bit bitmap · = true) (8 * bitmap.length) = setCount bitmap := by
  rw [← countP_bit_eq_count, countP_bit_bytes (Nat.le_refl _), List.take_length, setCount]

theorem countP_bit_lt {bitmap : List UInt8} {k : Nat} (h : bit bitmap k = true) :
    (List.range k).countP (bit bitmap) < setCount bitmap := by
  have hlt : k < 8 * bitmap.length := by
    by_contra hle
    rw [bit_of_length_le (Nat.not_lt.mp hle)] at h
    cases h
  rw [countP_bit_eq_count, ← count_bit_bytes]
  exact Nat.count_strict_mono h hlt

theorem countP_bit_lt_iff {bitmap : List UInt8} {j k : Nat} (hj : bit bitmap j = true) :
    (List.range j).countP (bit bitmap) < (List.range k).countP (bit bitmap) ↔ j < k := by
  rw [countP_bit_eq_count, countP_bit_eq_count]
  exact ⟨Nat.lt_of_count_lt_count, Nat.count_strict_mono hj⟩

/-- Each number below the number of set bits is that of the bits before one of them. -/
theorem exists_countP_bit_eq {bitmap : List UInt8} {entry : Nat} (h : entry < setCount bitmap) :
    ∃ k, bit bitmap k = true ∧ (List.range k).countP (bit bitmap) = entry := by
  have hfirst : ∀ n, entry < Nat.count (bit bitmap · = true) n →
      ∃ k, bit bitmap k = true ∧ Nat.count (bit bitmap · = true) k = entry := by
    intro n hn
    induction n with
    | zero => cases hn
    | succ n ih =>
        rcases Nat.lt_or_ge entry (Nat.count (bit bitmap · = true) n) with hlt | hge
        · exact ih hlt
        · -- the count grows at the last position only, and by one
          rw [Nat.count_succ] at hn
          by_cases hbit : bit bitmap n = true
          · rw [if_pos hbit] at hn
            exact ⟨n, hbit, by omega⟩
          · rw [if_neg hbit] at hn
            omega
  rw [← count_bit_bytes] at h
  obtain ⟨k, hbit, hk⟩ := hfirst _ h
  exact ⟨k, hbit, by rw [countP_bit_eq_count, hk]⟩

end OatImage.Bitmap
