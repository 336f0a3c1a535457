import OatImage.Proofs.Outcomes
import OatImage.Uleb128

/-!
# Reads of a backed region

A region that holds a byte for every address of its window answers every read that its
check lets through. So a read has two outcomes only: the bytes at the address, or the
failure of the check. Both are stated once here for each kind of read, together with what
a search for a byte finds; later modules do not look into the buffer again.
-/
namespace OatImage

/-! The bytes of a buffer as a list. -/

/-- The loop appends the bytes that are left to what it has collected. -/
theorem toList_loop_eq (data : ByteArray) (start : Nat) (collected : List UInt8) :
    ByteArray.toList.loop data start collected =
      collected.reverse ++ data.data.toList.drop start := by
  have hlen : data.data.toList.length = data.size := rfl
  induction start, collected using ByteArray.toList.loop.induct data with
  | case1 start collected h ih =>
      have hget : data.get! start = data.data.toList[start] := by
        show data.data[start]! = _
        rw [getElem!_pos data.data start h]
        rfl
      rw [ByteArray.toList.loop, if_pos h, ih, hget, List.reverse_cons, List.append_assoc,
        List.singleton_append, ← List.drop_eq_getElem_cons]
  | case2 start collected h =>
      rw [ByteArray.toList.loop, if_neg h, List.drop_eq_nil_of_le (by omega), List.append_nil]

theorem toList_eq (data : ByteArray) : data.toList = data.data.toList :=
  toList_loop_eq data 0 []

namespace Region

variable {r : Region} {address size : Int} {what : String}

/-- The bytes of the buffer, in order. -/
def contents (r : Region) : List UInt8 := r.bytes.data.toList

@[simp] theorem length_contents (r : Region) : r.contents.length = r.bytes.size := rfl

theorem getElem?_contents (r : Region) (i : Nat) : r.contents[i]? = r.bytes[i]? := by
  by_cases h : i < r.bytes.size
  · rw [getElem?_pos r.bytes i h]
    exact List.getElem?_eq_getElem h
  · rw [getElem?_neg r.bytes i h]
    exact List.getElem?_eq_none (Nat.le_of_not_lt h)

theorem slice_eq (r : Region) (start count : Nat) :
    r.slice start count = (r.contents.drop start).take count := by
  induction count generalizing start with
  | zero => rfl
  | succ count ih =>
      rw [slice, ← getElem?_contents]
      by_cases h : start < r.contents.length
      · rw [List.getElem?_eq_getElem h, List.drop_eq_getElem_cons h, List.take_succ_cons]
        exact congrArg _ (ih (start + 1))
      · rw [List.getElem?_eq_none (Nat.le_of_not_lt h),
          List.drop_eq_nil_of_le (Nat.le_of_not_lt h), List.take_nil]

theorem length_slice (r : Region) (start count : Nat) :
    (r.slice start count).length = min count (r.bytes.size - start) := by
  rw [slice_eq, List.length_take, List.length_drop, length_contents]

theorem contains_iff {r : Region} {address size : Int} :
    r.contains address size = true ↔
      0 ≤ size ∧ r.begin ≤ address ∧ address + size ≤ r.stop := by
  simp only [contains, Bool.and_eq_true, decide_eq_true_eq, and_assoc]

theorem Backed.offset_add_le (hr : r.Backed) (h : r.contains address size = true) :
    r.offset address + size.toNat ≤ r.bytes.size := by
  have hc := contains_iff.mp h
  have hb : (r.bytes.size : Int) = r.stop - r.begin := hr
  simp only [offset]
  omega

theorem check_of_contains (h : r.contains address size = true) :
    r.check address size what = .ok () := by
  rw [check, if_pos h]

theorem check_of_not_contains (h : ¬ r.contains address size = true) :
    r.check address size what =
      .error (.inImage (.outside what r.begin r.stop size) address) := by
  rw [check, if_neg h]

theorem contains_of_check (h : r.check address size what = .ok ()) :
    r.contains address size = true := by
  by_cases hc : r.contains address size = true
  · exact hc
  · rw [check_of_not_contains hc] at h
    cases h

/-! What is read where the check passes. -/

theorem readBytes_of_contains (h : r.contains address size = true) :
    r.readBytes address size what = .ok (r.slice (r.offset address) size.toNat) := by
  rw [readBytes, check_of_contains h]
  rfl

theorem Backed.word_of_contains (hr : r.Backed) {width : Nat}
    (h : r.contains address width = true) :
    r.word width address what = .ok (ofBytesLE (r.slice (r.offset address) width)) := by
  have hlen : (r.slice (r.offset address) width).length = width := by
    have hle := hr.offset_add_le h
    rw [length_slice]
    omega
  rw [word, check_of_contains h]
  show r.unpack (r.offset address) width = _
  simp only [unpack, hlen, if_true]

theorem Backed.u32s_of_contains (hr : r.Backed) {count : Int}
    (h : r.contains address (count * 4) = true) :
    r.u32s address count what = .ok (r.words (r.offset address) count.toNat) := by
  have hle := hr.offset_add_le h
  have hfit : r.offset address + 4 * count.toNat ≤ r.bytes.size := by omega
  rw [u32s, check_of_contains h]
  show r.unpackAll (r.offset address) count.toNat = _
  rw [unpackAll, if_pos hfit]

/-- The words at an address are all read, or none of them is and the check has failed. -/
theorem Backed.u32s_cases (hr : r.Backed) (address count : Int) (what : String) :
    r.u32s address count what = .ok (r.words (r.offset address) count.toNat) ∨
      r.u32s address count what =
        .error (.inImage (.outside what r.begin r.stop (count * 4)) address) := by
  by_cases h : r.contains address (count * 4) = true
  · exact .inl (hr.u32s_of_contains h)
  · refine .inr ?_
    rw [u32s, check_of_not_contains h]
    rfl

theorem Backed.byteAt_of_contains (hr : r.Backed) (h : r.contains address 1 = true) :
    ∃ b, r.bytes[r.offset address]? = some b ∧ r.byteAt address = .ok b := by
  have hlt : r.offset address < r.bytes.size := by
    have hle := hr.offset_add_le h
    omega
  have hget := getElem?_pos r.bytes (r.offset address) hlt
  exact ⟨_, hget, by rw [byteAt, hget]⟩

/-! Parts of a region. -/

theorem contents_cut (buffer : ByteArray) (start stop : Nat) :
    (cut buffer start stop).data.toList =
      (buffer.data.toList.drop start).take (stop - start) := by
  have hlen : buffer.data.toList.length = buffer.size := rfl
  rw [cut, ByteArray.data_extract, Array.toList_extract, List.extract_eq_take_drop, ← hlen,
    ← List.drop_eq_drop_min, List.take_eq_take_iff, List.length_drop]
  omega

theorem contents_ofBuffer (buffer : ByteArray) (begin stop : Int) :
    (ofBuffer buffer begin stop).contents = buffer.data.toList.take (stop - begin).toNat := by
  rw [contents, ofBuffer, contents_cut, List.drop_zero, Nat.sub_zero]

theorem size_cut (buffer : ByteArray) (start stop : Nat) :
    (cut buffer start stop).size = min stop buffer.size - min start buffer.size := by
  rw [cut, ByteArray.size_extract]
  omega

theorem ofBuffer_backed {buffer : ByteArray} {begin stop : Int}
    (h : begin ≤ stop) (hm : stop - begin ≤ buffer.size) :
    (ofBuffer buffer begin stop).Backed := by
  simp only [Backed, ofBuffer, size_cut]
  omega

/-- A region that contains anything at all has its ends the right way round. -/
theorem ofBuffer_backed_of_contains {buffer : ByteArray} {begin stop : Int}
    (hm : stop - begin ≤ buffer.size)
    (h : (ofBuffer buffer begin stop).contains address size = true) :
    (ofBuffer buffer begin stop).Backed := by
  obtain ⟨hsize, hbegin, hstop⟩ := contains_iff.mp h
  have hfirst : begin ≤ address := hbegin
  have hlast : address + size ≤ stop := hstop
  exact ofBuffer_backed (by omega) hm

theorem cut_whole (buffer : ByteArray) : cut buffer 0 buffer.size = buffer := by
  rw [cut, Nat.zero_min, Nat.min_self, ByteArray.extract_zero_size]

/-- The region at an address whose bytes are listed. -/
def listed (address : Int) (bytes : List UInt8) : Region :=
  ⟨⟨bytes.toArray⟩, address, address + bytes.length⟩

theorem window_eq_listed (what : String) (h : r.contains address size = true) :
    r.window address size what =
      .ok (listed address ((r.contents.drop (r.offset address)).take size.toNat)) := by
  have hbytes : cut r.bytes (r.offset address) (r.offset address + size.toNat) =
      ⟨((r.contents.drop (r.offset address)).take size.toNat).toArray⟩ := by
    apply ByteArray.ext
    rw [← Array.toList_inj, contents_cut, Nat.add_sub_cancel_left]
    rfl
  rw [window, check_of_contains h, Decode.ok_bind]
  show Except.ok (⟨cut r.bytes (r.offset address) (r.offset address + size.toNat), address,
    address + (cut r.bytes (r.offset address) (r.offset address + size.toNat)).size⟩ : Region) = _
  rw [hbytes]
  rfl

/-- A part of a backed region is backed itself, and shows the bytes of the region. -/
theorem Backed.window_of_contains (hr : r.Backed) (what : String)
    (h : r.contains address size = true) :
    ∃ w, r.window address size what = .ok w ∧ w.begin = address ∧ w.stop = address + size ∧
      w.Backed ∧ w.contents = (r.contents.drop (r.offset address)).take size.toNat := by
  have hsize : (cut r.bytes (r.offset address) (r.offset address + size.toNat)).size =
      size.toNat := by
    have hle := hr.offset_add_le h
    rw [size_cut]
    omega
  have hpos := (contains_iff.mp h).1
  refine ⟨_, by rw [window, check_of_contains h]; rfl, rfl, ?_, ?_, ?_⟩
  · simp only [hsize]
    omega
  · simp only [Backed]
    omega
  · simp only [contents, contents_cut, Nat.add_sub_cancel_left]

theorem window_of_not_contains (h : ¬ r.contains address size = true) :
    r.window address size what =
      .error (.inImage (.outside what r.begin r.stop size) address) := by
  rw [window, check_of_not_contains h]
  rfl

/-! What a read fails with. -/

open Decode

theorem check_failsOnly (r : Region) (address size : Int) (what : String) :
    FailsOnly Fault.IsLocal (r.check address size what) := by
  unfold check
  exact FailsOnly.ite (fun _ => FailsOnly.ok _)
    (fun _ => FailsOnly.error (Fault.inImage_isLocal _ _))

theorem readBytes_failsOnly (r : Region) (address size : Int) (what : String) :
    FailsOnly Fault.IsLocal (r.readBytes address size what) :=
  (check_failsOnly r address size what).bind fun _ _ => FailsOnly.pure _

theorem Backed.word_failsOnly (hr : r.Backed) (width : Nat) (address : Int) (what : String) :
    FailsOnly Fault.IsLocal (r.word width address what) := by
  by_cases h : r.contains address width = true
  · rw [hr.word_of_contains h]
    exact FailsOnly.ok _
  · rw [word, check_of_not_contains h]
    exact FailsOnly.error (Fault.inImage_isLocal _ _)

theorem Backed.u32s_failsOnly (hr : r.Backed) (address count : Int) (what : String) :
    FailsOnly Fault.IsLocal (r.u32s address count what) := by
  rcases hr.u32s_cases address count what with h | h
  · rw [h]
    exact FailsOnly.ok _
  · rw [h]
    exact FailsOnly.error (Fault.inImage_isLocal _ _)

theorem Backed.i16_failsOnly (hr : r.Backed) (address : Int) (what : String) :
    FailsOnly Fault.IsLocal (r.i16 address what) :=
  (hr.word_failsOnly 2 address what).bind fun _ _ => FailsOnly.pure _

theorem Backed.ulebFrom_failsOnly (hr : r.Backed) (what : String) (start : Int) (left : Nat)
    (cursor : Int) : FailsOnly Fault.IsLocal (r.ulebFrom what start left cursor) := by
  induction left generalizing cursor with
  | zero => exact FailsOnly.error (Fault.inImage_isLocal _ _)
  | succ left ih =>
      refine (check_failsOnly r cursor 1 what).bind fun _ _ => ?_
      -- the check has passed, so the buffer holds the byte
      by_cases h : r.contains cursor 1 = true
      · obtain ⟨b, _, hb⟩ := hr.byteAt_of_contains h
        rw [hb]
        exact FailsOnly.ite (fun _ => FailsOnly.pure _)
          fun _ => (ih (cursor + 1)).bind fun _ _ => FailsOnly.pure _
      · rename_i hc
        rw [check_of_not_contains h] at hc
        cases hc

theorem Backed.uleb128_failsOnly (hr : r.Backed) (address : Int) (what : String) :
    FailsOnly Fault.IsLocal (r.uleb128 address what) :=
  hr.ulebFrom_failsOnly what address 5 address

/-! What a search for a byte finds. -/

theorem seek_eq_some {value : UInt8} {start count position : Nat}
    (h : r.seek value start count = some position) :
    start ≤ position ∧ position < start + count ∧ r.bytes[position]? = some value := by
  induction count generalizing start with
  | zero => cases h
  | succ count ih =>
      unfold seek at h
      cases hb : r.bytes[start]? with
      | none =>
          rw [hb] at h
          cases h
      | some b =>
          rw [hb] at h
          by_cases hv : b = value
          · simp only [hv, if_true, Option.some.injEq] at h
            subst h
            exact ⟨Nat.le_refl _, by omega, by rw [hb, hv]⟩
          · simp only [hv, if_false] at h
            obtain ⟨hle, hlt, hget⟩ := ih h
            exact ⟨by omega, by omega, hget⟩

/-- A byte that is found lies at or behind the start of the search and before its limit. The
guard of the callers, an answer that is not negative, is what tells a find from none. -/
theorem findByte_range {value : UInt8} {limit : Int}
    (h : 0 ≤ r.findByte address value limit) :
    r.begin ≤ address ∧ address ≤ r.findByte address value limit ∧
      r.findByte address value limit < min limit r.stop := by
  unfold findByte at h ⊢
  by_cases hc : r.covers address limit = true
  · rw [if_pos hc] at h ⊢
    cases hs : r.seek value (r.offset address) (min limit r.stop - address).toNat with
    | none =>
        simp only [hs] at h
        omega
    | some position =>
        have hp := seek_eq_some hs
        simp only [covers, Bool.and_eq_true, decide_eq_true_eq] at hc
        simp only [offset] at hp
        dsimp only
        omega
  · rw [if_neg hc] at h
    exact absurd h (by decide)

end Region

end OatImage
