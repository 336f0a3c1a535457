import OatImage.Proofs.Moves
import OatImage.Proofs.Reads

/-!
# Reads of a moved region

A region extends another one if it shows the same bytes, at addresses moved by one distance,
and goes on behind them only where the first one may be cut off. A read asks for the range it
needs before it takes any byte, and a search is brought down to a limit inside the window, so
no answer depends on where the window ends: each read of the first region is tracked by the
same read of the second. A search answers -1 for nothing found and its callers take every
negative answer for that. Hence searches need more than the other reads: what is found must
not change its sign. It does not where nothing moves, or where no address is negative on either
side.
-/
namespace OatImage

/-- The same bytes at other addresses. -/
def Region.moveBy (d : Int) (r : Region) : Region :=
  { bytes := r.bytes, begin := r.begin + d, stop := r.stop + d }

theorem Region.moveBy_zero (r : Region) : r.moveBy 0 = r := by
  simp only [moveBy, Int.add_zero]

/-- The second region shows the bytes of the first one, moved; where bytes may be cut off from
the first one it may show more behind them. -/
structure Region.Extends (d : Int) (cut : Prop) (r r' : Region) : Prop where
  backed : r.Backed
  backed' : r'.Backed
  begin_eq : r'.begin = r.begin + d
  stop_eq : r'.stop = r.stop + d ∨ cut ∧ r.stop + d ≤ r'.stop
  contents : r.contents <+: r'.contents

/-- Nothing moves, or no address is negative before and after. -/
def Region.Unsigned (d : Int) (r : Region) : Prop := d = 0 ∨ 0 ≤ r.begin ∧ 0 ≤ r.begin + d

namespace Region

open Decode

/-- The address of the first byte of a value in `[address, limit)`, apart from the number that
stands for none. -/
def find? (r : Region) (value : UInt8) (address limit : Int) : Option Int :=
  if r.covers address limit then
    (r.seek value (r.offset address) (min limit r.stop - address).toNat).map
      fun position : Nat => r.begin + position
  else none

/-- What a search finds has the same sign before and after a move. -/
def Alike (d : Int) (r : Region) (value : UInt8) (address limit : Int) : Prop :=
  ∀ a, r.find? value address limit = some a → (a < 0 ↔ a + d < 0)

section
variable {d : Int} {r : Region} {value : UInt8} {address limit : Int}

theorem findByte_eq_getD (r : Region) (value : UInt8) (address limit : Int) :
    r.findByte address value limit = (r.find? value address limit).getD (-1) := by
  unfold findByte find?
  by_cases hc : r.covers address limit = true
  · rw [if_pos hc, if_pos hc]
    cases r.seek value (r.offset address) (min limit r.stop - address).toNat <;> rfl
  · rw [if_neg hc, if_neg hc]
    rfl

theorem covers_iff :
    r.covers address limit = true ↔ r.begin ≤ address ∧ address < min limit r.stop := by
  simp only [covers, Bool.and_eq_true, decide_eq_true_eq]

/-- What is found lies in the range that is searched, and is a byte of the value. -/
theorem of_find?_eq_some {a : Int} (h : r.find? value address limit = some a) :
    r.begin ≤ address ∧ address ≤ a ∧ a < min limit r.stop ∧
      r.bytes[r.offset a]? = some value := by
  unfold find? at h
  by_cases hc : r.covers address limit = true
  · rw [if_pos hc, Option.map_eq_some_iff] at h
    obtain ⟨position, hseek, rfl⟩ := h
    obtain ⟨hle, hlt, hget⟩ := seek_eq_some hseek
    obtain ⟨hbegin, hlimit⟩ := covers_iff.mp hc
    simp only [offset] at hle hlt
    have hposition : r.offset (r.begin + position) = position := by
      simp only [offset]
      omega
    exact ⟨hbegin, by omega, by omega, by rw [hposition, hget]⟩
  · rw [if_neg hc] at h
    cases h

theorem alike_of_nonneg (haddress : 0 ≤ address) (hd : 0 ≤ address + d) :
    r.Alike d value address limit := by
  intro a ha
  obtain ⟨_, hle, _⟩ := of_find?_eq_some ha
  omega

theorem Unsigned.alike (hd : r.Unsigned d) : r.Alike d value address limit := by
  intro a ha
  obtain ⟨hbegin, hle, _⟩ := of_find?_eq_some ha
  rcases hd with hd | hd <;> omega

end

variable {d : Int} {cut : Prop} {r r' : Region}

theorem Backed.extends_moveBy (hr : r.Backed) : r.Extends d cut (r.moveBy d) where
  backed := hr
  backed' := by
    simp only [Backed, moveBy] at hr ⊢
    omega
  begin_eq := rfl
  stop_eq := .inl rfl
  contents := List.prefix_rfl

namespace Extends

variable (h : r.Extends d cut r')
include h

theorem offset_eq (address : Int) : r'.offset (address + d) = r.offset address := by
  simp only [offset, h.begin_eq]
  congr 1
  omega

/-- What lies in the first window lies in the second one. -/
theorem contains_add {address size : Int} (hc : r.contains address size = true) :
    r'.contains (address + d) size = true := by
  rw [contains_iff] at hc ⊢
  have hb := h.begin_eq
  have hs := h.stop_eq
  omega

/-- What does not lie in the first window does not lie in the second one, or bytes are cut off. -/
theorem not_contains_add {address size : Int} (hc : ¬ r.contains address size = true) :
    (¬ r'.contains (address + d) size = true ∧ r'.stop = r.stop + d) ∨ cut := by
  rcases h.stop_eq with hs | ⟨hcut, _⟩
  · refine .inl ⟨?_, hs⟩
    rw [contains_iff] at hc ⊢
    have hb := h.begin_eq
    omega
  · exact .inr hcut

theorem check {address address' : Int} (ha : address' = address + d) (size : Int)
    (what : String) :
    Tracks d cut (fun u => u) (r.check address size what) (r'.check address' size what) := by
  subst ha
  by_cases hc : r.contains address size = true
  · rw [check_of_contains hc, check_of_contains (h.contains_add hc)]
    exact Tracks.ok ()
  · rw [check_of_not_contains hc]
    rcases h.not_contains_add hc with ⟨hc', hs⟩ | hcut
    · rw [check_of_not_contains hc', hs, h.begin_eq]
      exact Tracks.error (.inImage (.outside what r.begin r.stop size) address)
    · exact Tracks.ofCut hcut _ _

/-! Where the first buffer holds the bytes, both buffers give the same. -/

theorem getElem?_eq {i : Nat} (hi : i < r.bytes.size) : r'.bytes[i]? = r.bytes[i]? := by
  have hi' : i < r.contents.length := hi
  rw [← getElem?_contents, ← getElem?_contents, List.getElem?_eq_getElem hi']
  exact List.prefix_iff_getElem?.mp h.contents i hi'

theorem slice_eq {start count : Nat} (hle : start + count ≤ r.bytes.size) :
    r'.slice start count = r.slice start count := by
  obtain ⟨rest, hrest⟩ := h.contents
  have hlen : r.contents.length = r.bytes.size := rfl
  rw [Region.slice_eq, Region.slice_eq, ← hrest, List.drop_append_of_le_length (by omega),
    List.take_append_of_le_length (by rw [List.length_drop]; omega)]

theorem words_eq {start count : Nat} (hle : start + 4 * count ≤ r.bytes.size) :
    r'.words start count = r.words start count := by
  induction count generalizing start with
  | zero => rfl
  | succ count ih =>
      simp only [words]
      rw [h.slice_eq (by omega), ih (by omega)]

theorem seek_eq (value : UInt8) {start count : Nat} (hle : start + count ≤ r.bytes.size) :
    r'.seek value start count = r.seek value start count := by
  induction count generalizing start with
  | zero => rfl
  | succ count ih =>
      simp only [seek]
      rw [h.getElem?_eq (by omega), ih (by omega)]

/-! Reads. Each one is checked first, so what is read lies in the first buffer. -/

theorem readBytes {address address' size size' : Int} (ha : address' = address + d)
    (hs : size' = size) (what : String) :
    Tracks d cut (fun bytes => bytes) (r.readBytes address size what)
      (r'.readBytes address' size' what) := by
  subst ha hs
  refine (h.check rfl size' what).bind fun _ hcheck => ?_
  rw [h.offset_eq, h.slice_eq (h.backed.offset_add_le (contains_of_check hcheck))]
  exact Tracks.pure _

theorem word (width : Nat) {address address' : Int} (ha : address' = address + d)
    (what : String) :
    Tracks d cut (fun n => n) (r.word width address what) (r'.word width address' what) := by
  subst ha
  by_cases hc : r.contains address width = true
  · have hle := h.backed.offset_add_le hc
    rw [h.backed.word_of_contains hc, h.backed'.word_of_contains (h.contains_add hc),
      h.offset_eq, h.slice_eq (by omega)]
    exact Tracks.ok _
  · refine (h.check rfl width what).bind fun _ hcheck => ?_
    exact absurd (contains_of_check hcheck) hc

theorem i16 {address address' : Int} (ha : address' = address + d) (what : String) :
    Tracks d cut (fun n => n) (r.i16 address what) (r'.i16 address' what) :=
  (h.word 2 ha what).bind fun _ _ => Tracks.pure _

theorem i32 {address address' : Int} (ha : address' = address + d) (what : String) :
    Tracks d cut (fun n => n) (r.i32 address what) (r'.i32 address' what) :=
  (h.word 4 ha what).bind fun _ _ => Tracks.pure _

theorem u32s {address address' : Int} (ha : address' = address + d) (count : Int)
    (what : String) :
    Tracks d cut (fun ns => ns) (r.u32s address count what) (r'.u32s address' count what) := by
  subst ha
  by_cases hc : r.contains address (count * 4) = true
  · have hle := h.backed.offset_add_le hc
    rw [h.backed.u32s_of_contains hc, h.backed'.u32s_of_contains (h.contains_add hc),
      h.offset_eq, h.words_eq (by omega)]
    exact Tracks.ok _
  · refine (h.check rfl (count * 4) what).bind fun _ hcheck => ?_
    exact absurd (contains_of_check hcheck) hc

theorem byteAt {address : Int} (hc : r.contains address 1 = true) :
    r'.byteAt (address + d) = r.byteAt address := by
  have hle := h.backed.offset_add_le hc
  simp only [Region.byteAt]
  rw [h.offset_eq, h.getElem?_eq (by omega)]

/-- The address behind a number moves with the number. -/
theorem ulebFrom (what : String) {start start' cursor cursor' : Int} (left : Nat)
    (hs : start' = start + d) (hc : cursor' = cursor + d) :
    Tracks d cut (Prod.map id (· + d)) (r.ulebFrom what start left cursor)
      (r'.ulebFrom what start' left cursor') := by
  subst hs hc
  induction left generalizing cursor with
  | zero => exact Tracks.error (.inImage (.longNumber what) start)
  | succ left ih =>
      refine (h.check rfl 1 what).bind fun _ hcheck => ?_
      have hin := contains_of_check hcheck
      obtain ⟨b, _, hb⟩ := h.backed.byteAt_of_contains hin
      rw [h.byteAt hin, hb]
      refine Tracks.ite Iff.rfl (fun _ => ?_) fun _ => ?_
      · rw [Int.add_right_comm cursor d 1]
        exact Tracks.pure (b.toNat, cursor + 1)
      · rw [Int.add_right_comm cursor d 1]
        exact ih.bind fun (high, next) _ => Tracks.pure (b.toNat % 128 + 128 * high, next)

theorem uleb128 {address address' : Int} (ha : address' = address + d) (what : String) :
    Tracks d cut (Prod.map id (· + d)) (r.uleb128 address what) (r'.uleb128 address' what) :=
  h.ulebFrom what 5 ha ha

/-- A search up to a limit inside the window finds the same byte on both sides. -/
theorem find?_eq (value : UInt8) {address limit : Int} (hin : limit ≤ r.stop) :
    r'.find? value (address + d) (limit + d) = (r.find? value address limit).map (· + d) := by
  have hb := h.begin_eq
  have hs : r.stop + d ≤ r'.stop := by
    rcases h.stop_eq with hs | hs <;> omega
  have hcovers : r'.covers (address + d) (limit + d) = r.covers address limit := by
    simp only [covers]
    congr 1 <;> exact decide_eq_decide.mpr (by omega)
  unfold find?
  rw [hcovers]
  by_cases hc : r.covers address limit = true
  · obtain ⟨hbegin, hlimit⟩ := covers_iff.mp hc
    have hbacked : (r.bytes.size : Int) = r.stop - r.begin := h.backed
    have hcount : (min (limit + d) r'.stop - (address + d)).toNat =
        (min limit r.stop - address).toNat := by omega
    have hfit : r.offset address + (min limit r.stop - address).toNat ≤ r.bytes.size := by
      simp only [offset]
      omega
    rw [if_pos hc, if_pos hc, h.offset_eq, hcount, h.seek_eq value hfit, Option.map_map, hb]
    exact congrArg (Option.map · _) (funext fun position => Int.add_right_comm r.begin d position)
  · rw [if_neg hc, if_neg hc]
    rfl

/-- If the sign is the same, the callers of a search are given the same byte on both sides, or
nothing on both sides. -/
theorem findByte {value : UInt8} {address address' limit limit' : Int}
    (hsign : r.Alike d value address limit) (ha : address' = address + d)
    (hl : limit' = limit + d) (hin : limit ≤ r.stop) :
    (r.findByte address value limit < 0 ∧ r'.findByte address' value limit' < 0) ∨
      (0 ≤ r.findByte address value limit ∧
        r'.findByte address' value limit' = r.findByte address value limit + d ∧
        0 ≤ r'.findByte address' value limit') := by
  subst ha hl
  rw [findByte_eq_getD, findByte_eq_getD, h.find?_eq value hin]
  cases hfind : r.find? value address limit with
  | none =>
      simp only [Option.map_none, Option.getD_none]
      omega
  | some a =>
      have hsame := hsign a hfind
      simp only [Option.map_some, Option.getD_some, true_and]
      omega

theorem window {address address' : Int} (ha : address' = address + d) (size : Int)
    (what : String) :
    Tracks d cut (Region.moveBy d) (r.window address size what)
      (r'.window address' size what) := by
  subst ha
  refine (h.check rfl size what).bind fun _ hcheck => ?_
  have hle := h.backed.offset_add_le (contains_of_check hcheck)
  have hbytes : OatImage.cut r'.bytes (r.offset address) (r.offset address + size.toNat) =
      OatImage.cut r.bytes (r.offset address) (r.offset address + size.toNat) := by
    apply ByteArray.ext
    apply Array.toList_inj.mp
    have hslice := h.slice_eq hle
    rw [Region.slice_eq, Region.slice_eq] at hslice
    simp only [contents_cut, Nat.add_sub_cancel_left]
    exact hslice
  simp only [h.offset_eq, hbytes]
  refine .inl (congrArg Except.ok ?_)
  simp only [moveBy, Region.mk.injEq, true_and]
  omega

end Extends

end Region

end OatImage
