import OatImage.Proofs.Placed

/-!
# Reads and the bytes they stand for

A format lays values out as bytes, and a read of a backed region is the inverse of that: it
answers with a value exactly if the bytes of the value stand in its range and the whole range
lies in the window. `Bears` says so of an address, whatever the address is; since bytes of one
length in one place are the same bytes, a range shows one value only.
-/
namespace OatImage

/-! Words and their bytes determine each other. -/

theorem ofBytesLE_lt (bytes : List UInt8) : ofBytesLE bytes < Nat.pow 256 bytes.length := by
  induction bytes with
  | nil => exact Nat.one_pos
  | cons b bytes ih =>
      have hb := b.toNat_lt
      have hpow : Nat.pow 256 (b :: bytes).length = Nat.pow 256 bytes.length * 256 := rfl
      rw [ofBytesLE, hpow]
      omega

theorem toBytesLE_ofBytesLE (bytes : List UInt8) :
    toBytesLE bytes.length (ofBytesLE bytes) = bytes := by
  induction bytes with
  | nil => rfl
  | cons b bytes ih =>
      have hb := b.toNat_lt
      have hlow : (b.toNat + 256 * ofBytesLE bytes) % 256 = b.toNat := by omega
      have hhigh : (b.toNat + 256 * ofBytesLE bytes) / 256 = ofBytesLE bytes := by omega
      rw [List.length_cons, toBytesLE, ofBytesLE, hlow, hhigh, ih, UInt8.ofNat_toNat]

theorem toBytesLE_inj {width n m : Nat} (hn : n < Nat.pow 256 width) (hm : m < Nat.pow 256 width)
    (h : toBytesLE width n = toBytesLE width m) : n = m := by
  rw [← ofBytesLE_toBytesLE hn, h, ofBytesLE_toBytesLE hm]

/-! So do a two's complement number and its word. -/

theorem signedWord_emod {width : Nat} {n : Int}
    (hlow : -((Nat.pow 256 width / 2 : Nat) : Int) ≤ n)
    (hhigh : n < ((Nat.pow 256 width / 2 : Nat) : Int)) :
    signedWord width (n % (Nat.pow 256 width : Nat)).toNat = n := by
  unfold signedWord
  generalize Nat.pow 256 width = p at *
  by_cases hneg : n < 0
  · have hword : n % (p : Int) = n + p := by
      rw [← Int.add_emod_right]
      exact Int.emod_eq_of_lt (by omega) (by omega)
    rw [hword, if_neg (by omega)]
    omega
  · have hword : n % (p : Int) = n := Int.emod_eq_of_lt (by omega) (by omega)
    rw [hword, if_pos (by omega)]
    omega

theorem emod_signedWord {width n : Nat} (heven : Nat.pow 256 width % 2 = 0)
    (h : n < Nat.pow 256 width) :
    (-((Nat.pow 256 width / 2 : Nat) : Int) ≤ signedWord width n ∧
      signedWord width n < ((Nat.pow 256 width / 2 : Nat) : Int)) ∧
    (signedWord width n % (Nat.pow 256 width : Nat)).toNat = n := by
  unfold signedWord
  generalize Nat.pow 256 width = p at *
  by_cases hneg : n < p / 2
  · rw [if_pos hneg, Int.emod_eq_of_lt (by omega) (by omega)]
    omega
  · have hword : ((n : Int) - p) % (p : Int) = n := by
      rw [← Int.add_emod_right, Int.sub_add_cancel]
      exact Int.emod_eq_of_lt (by omega) (by omega)
    rw [if_neg hneg, hword]
    omega

namespace Region

variable {r : Region} {address : Int} {part xs ys : List UInt8} {what : String}

/-- The bytes stand at an address, all of them inside the window. -/
structure Bears (r : Region) (address : Int) (part : List UInt8) : Prop where
  begin_le : r.begin ≤ address
  le_stop : address + part.length ≤ r.stop
  bytes : (r.contents.drop (r.offset address)).take part.length = part

theorem Bears.contains (h : r.Bears address part) :
    r.contains address part.length = true :=
  contains_iff.mpr ⟨Int.natCast_nonneg _, h.begin_le, h.le_stop⟩

theorem Bears.unique (hx : r.Bears address xs) (hy : r.Bears address ys)
    (hlen : xs.length = ys.length) : xs = ys := by
  rw [← hx.bytes, hlen, hy.bytes]

theorem bears_append : r.Bears address (xs ++ ys) ↔
    r.Bears address xs ∧ r.Bears (address + xs.length) ys := by
  have hoffset (hle : r.begin ≤ address) :
      r.offset (address + xs.length) = r.offset address + xs.length := by
    simp only [offset]
    omega
  constructor
  · rintro ⟨hbegin, hstop, hbytes⟩
    rw [List.length_append] at hstop
    rw [List.length_append, List.take_add, List.drop_drop] at hbytes
    have hlen : ((r.contents.drop (r.offset address)).take xs.length).length = xs.length := by
      have htotal := congrArg List.length hbytes
      rw [List.length_append, List.length_append, List.length_take, List.length_take] at htotal
      rw [List.length_take]
      omega
    obtain ⟨hxs, hys⟩ := List.append_inj hbytes hlen
    exact ⟨⟨hbegin, by omega, hxs⟩, by omega, by omega, by rw [hoffset hbegin, hys]⟩
  · rintro ⟨⟨hbegin, _, hxs⟩, _, hstop, hys⟩
    rw [hoffset hbegin] at hys
    refine ⟨hbegin, by rw [List.length_append]; omega, ?_⟩
    rw [List.length_append, List.take_add, List.drop_drop, hxs, hys]

/-- What stands in the buffer from the start of the region on is borne at its address. -/
theorem Backed.bears_of_at (hr : r.Backed) {o : Nat} (h : At r.contents o part)
    (ha : address = r.begin + o) : r.Bears address part := by
  obtain ⟨_, hbegin, hstop⟩ := contains_iff.mp (hr.contains_of_at h ha)
  exact ⟨hbegin, hstop, by rw [offset_of_eq ha, h.take_drop]⟩

theorem Backed.at_of_bears (hr : r.Backed) (h : r.Bears address part) :
    At r.contents (r.offset address) part := by
  have hle := hr.offset_add_le h.contains
  exact ⟨by rwa [Int.toNat_natCast, ← Region.length_contents] at hle, h.bytes⟩

theorem Bears.address_eq (h : r.Bears address part) : address = r.begin + r.offset address := by
  have hbegin := h.begin_le
  simp only [offset]
  omega

/-- A range of the window bears the bytes that a read takes from the buffer. -/
theorem Backed.bears_slice (hr : r.Backed) {size : Nat} (h : r.contains address size = true) :
    (r.slice (r.offset address) size).length = size ∧
      r.Bears address (r.slice (r.offset address) size) := by
  have hlen : (r.slice (r.offset address) size).length = size := by
    have hle := hr.offset_add_le h
    rw [length_slice]
    omega
  obtain ⟨_, hbegin, hstop⟩ := contains_iff.mp h
  exact ⟨hlen, hbegin, by rw [hlen]; exact hstop, by rw [hlen, ← slice_eq]⟩

theorem Backed.readBytes_eq_ok_iff (hr : r.Backed) {size : Int} :
    r.readBytes address size what = .ok part ↔ size = part.length ∧ r.Bears address part := by
  constructor
  · intro h
    by_cases hc : r.contains address size = true
    · obtain ⟨n, rfl⟩ := Int.eq_ofNat_of_zero_le (contains_iff.mp hc).1
      rw [readBytes_of_contains hc, Int.toNat_natCast] at h
      obtain ⟨hlen, hbears⟩ := hr.bears_slice hc
      cases h
      exact ⟨by rw [hlen], hbears⟩
    · rw [readBytes, check_of_not_contains hc] at h
      cases h
  · rintro ⟨rfl, h⟩
    exact hr.readBytes_of_at (hr.at_of_bears h) h.address_eq rfl

/-- A range of the window bears the word that is taken from the buffer. -/
theorem Backed.bears_word (hr : r.Backed) {width : Nat} (hc : r.contains address width = true) :
    ofBytesLE (r.slice (r.offset address) width) < Nat.pow 256 width ∧
      r.Bears address (toBytesLE width (ofBytesLE (r.slice (r.offset address) width))) := by
  obtain ⟨hlen, hbears⟩ := hr.bears_slice hc
  have hlt := ofBytesLE_lt (r.slice (r.offset address) width)
  have hbytes := toBytesLE_ofBytesLE (r.slice (r.offset address) width)
  rw [hlen] at hlt hbytes
  exact ⟨hlt, by rwa [hbytes]⟩

theorem Backed.word_eq_ok_iff (hr : r.Backed) {width n : Nat} :
    r.word width address what = .ok n ↔
      n < Nat.pow 256 width ∧ r.Bears address (toBytesLE width n) := by
  constructor
  · intro h
    by_cases hc : r.contains address width = true
    · rw [hr.word_of_contains hc] at h
      cases h
      exact hr.bears_word hc
    · rw [word, check_of_not_contains hc] at h
      cases h
  · rintro ⟨hn, h⟩
    exact hr.word_of_at (hr.at_of_bears h) hn h.address_eq

theorem Backed.word_error_iff (hr : r.Backed) {width : Nat} :
    (∃ d, r.word width address what = .error (.decode d)) ↔
      ¬ r.contains address width = true := by
  constructor
  · rintro ⟨d, h⟩ hc
    rw [hr.word_of_contains hc] at h
    cases h
  · intro hc
    exact ⟨_, by rw [word, check_of_not_contains hc]; rfl⟩

theorem Backed.i32_eq_ok_iff (hr : r.Backed) {n : Int} :
    r.i32 address what = .ok n ↔ (-0x80000000 ≤ n ∧ n < 0x80000000) ∧
      r.Bears address (toBytesLE 4 (n % 0x100000000).toNat) := by
  constructor
  · intro h
    obtain ⟨word, hword, hsigned⟩ := Decode.bind_eq_ok.mp h
    obtain ⟨hlt, hbears⟩ := hr.word_eq_ok_iff.mp hword
    obtain ⟨hrange, hback⟩ := emod_signedWord (by decide) hlt
    obtain rfl := Except.ok.inj hsigned
    exact ⟨hrange, hback.symm ▸ hbears⟩
  · rintro ⟨hrange, hbears⟩
    have hlt : (n % 0x100000000).toNat < Nat.pow 256 4 := by
      show (n % 0x100000000).toNat < 0x100000000
      omega
    rw [i32, hr.word_eq_ok_iff.mpr ⟨hlt, hbears⟩]
    exact congrArg Except.ok (signedWord_emod hrange.1 hrange.2)

/-- The words that are read from the buffer have the bytes that stand there. -/
theorem wordBytes_words {start count : Nat} (h : start + 4 * count ≤ r.bytes.size) :
    wordBytes (r.words start count) = r.slice start (4 * count) ∧
      (r.words start count).length = count ∧ ∀ n ∈ r.words start count, IsWord n := by
  induction count generalizing start with
  | zero => exact ⟨rfl, rfl, fun n hn => nomatch hn⟩
  | succ count ih =>
      obtain ⟨hbytes, hlen, hwords⟩ := ih (by omega : start + 4 + 4 * count ≤ r.bytes.size)
      have hfirst : (r.slice start 4).length = 4 := by
        rw [length_slice]
        omega
      have hword := ofBytesLE_lt (r.slice start 4)
      have hback := toBytesLE_ofBytesLE (r.slice start 4)
      rw [hfirst] at hword hback
      have hsplit : r.slice start (4 * (count + 1)) =
          r.slice start 4 ++ r.slice (start + 4) (4 * count) := by
        rw [slice_eq, slice_eq, slice_eq, show 4 * (count + 1) = 4 + 4 * count by omega,
          List.take_add, List.drop_drop]
      refine ⟨?_, by rw [words, List.length_cons, hlen], fun n hn => ?_⟩
      · rw [words, hsplit, ← hbytes, wordBytes, List.flatMap_cons, hback]
        rfl
      · rw [words] at hn
        rcases List.mem_cons.mp hn with rfl | hn
        · exact hword
        · exact hwords n hn

theorem Backed.u32s_eq_ok_iff (hr : r.Backed) {count : Int} {ns : List Nat} :
    r.u32s address count what = .ok ns ↔
      count = ns.length ∧ (∀ n ∈ ns, IsWord n) ∧ r.Bears address (wordBytes ns) := by
  constructor
  · intro h
    by_cases hc : r.contains address (count * 4) = true
    · obtain ⟨hpos, hbegin, hstop⟩ := contains_iff.mp hc
      have hle := hr.offset_add_le hc
      obtain ⟨k, rfl⟩ := Int.eq_ofNat_of_zero_le (by omega : 0 ≤ count)
      rw [hr.u32s_of_contains hc, Int.toNat_natCast] at h
      obtain ⟨hbytes, hlen, hwords⟩ :=
        wordBytes_words (by omega : r.offset address + 4 * k ≤ r.bytes.size)
      cases h
      refine ⟨by rw [hlen], hwords, hbegin, ?_, ?_⟩
      · rw [length_wordBytes, hlen]
        omega
      · rw [length_wordBytes, hlen, hbytes, slice_eq]
    · rw [u32s, check_of_not_contains hc] at h
      cases h
  · rintro ⟨rfl, hwords, h⟩
    exact hr.u32s_of_at (hr.at_of_bears h) hwords h.address_eq rfl

/-- What stands in a part of a region stands in the region. -/
theorem Backed.bears_of_window (hr : r.Backed) {w : Region} {base size : Int}
    (hw : r.window base size what = .ok w) (h : w.Bears address part) : r.Bears address part := by
  by_cases hc : r.contains base size = true
  · obtain ⟨w', hw', hbegin, hstop, hback, hshow⟩ := hr.window_of_contains what hc
    rw [hw'] at hw
    cases hw
    obtain ⟨hpos, hbase, hend⟩ := contains_iff.mp hc
    have hin := h.begin_le
    have hout := h.le_stop
    have hat := hback.at_of_bears h
    rw [hshow] at hat
    have hplace : At r.contents (r.offset base)
        ((r.contents.drop (r.offset base)).take size.toNat) := by
      have hle := hr.offset_add_le hc
      rw [← Region.length_contents] at hle
      refine ⟨?_, ?_⟩
      · rw [List.length_take, List.length_drop]
        omega
      · rw [List.length_take, List.length_drop, Nat.min_eq_left (by omega)]
    refine hr.bears_of_at (hplace.trans hat) ?_
    simp only [offset]
    omega
  · rw [window_of_not_contains hc] at hw
    cases hw

end Region

end OatImage
