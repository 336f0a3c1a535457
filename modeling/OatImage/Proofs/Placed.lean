import OatImage.Proofs.Reads

/-!
# Bytes in their place

A format says which bytes stand at which offset. `At` states it of a list of bytes, parts of
parts included, and a read of a region at the address of such bytes answers with what they
encode: themselves, a word, a list of words or a number in groups of seven bits.
-/
namespace OatImage

/-- A part stands at an offset of a list of bytes. -/
def At (bytes : List UInt8) (offset : Nat) (part : List UInt8) : Prop :=
  offset + part.length ≤ bytes.length ∧ (bytes.drop offset).take part.length = part

instance (bytes : List UInt8) (offset : Nat) (part : List UInt8) :
    Decidable (At bytes offset part) := inferInstanceAs (Decidable (_ ∧ _))

namespace At

variable {bytes part xs ys : List UInt8} {offset o : Nat}

theorem append : At bytes offset (xs ++ ys) ↔
    At bytes offset xs ∧ At bytes (offset + xs.length) ys := by
  unfold At
  rw [List.length_append, List.take_add, List.drop_drop]
  constructor
  · rintro ⟨hlen, htake⟩
    have hx : ((bytes.drop offset).take xs.length).length = xs.length := by
      rw [List.length_take, List.length_drop]
      omega
    obtain ⟨hxs, hys⟩ := List.append_inj htake hx
    exact ⟨⟨by omega, hxs⟩, by omega, hys⟩
  · rintro ⟨⟨hx, hxs⟩, hy, hys⟩
    exact ⟨by omega, by rw [hxs, hys]⟩

theorem cons {b : UInt8} : At bytes offset (b :: ys) ↔
    bytes[offset]? = some b ∧ At bytes (offset + 1) ys := by
  rw [← List.singleton_append, append]
  refine and_congr_left fun _ => ?_
  unfold At
  rw [List.length_singleton, List.take_one, List.head?_drop]
  constructor
  · rintro ⟨hlen, htake⟩
    cases hb : bytes[offset]? with
    | none =>
        rw [hb] at htake
        cases htake
    | some c =>
        rw [hb] at htake
        cases htake
        rfl
  · intro hb
    exact ⟨(List.getElem?_eq_some_iff.mp hb).choose, by rw [hb]; rfl⟩

/-- What stands in a part stands in the whole. -/
theorem trans (h : At bytes offset part) (hp : At part o xs) : At bytes (offset + o) xs := by
  obtain ⟨hlen, htake⟩ := h
  obtain ⟨holen, hotake⟩ := hp
  refine ⟨by omega, ?_⟩
  have hmin : min xs.length (part.length - o) = xs.length := by omega
  have hinner : ((part.drop o).take xs.length) = (bytes.drop (offset + o)).take xs.length := by
    rw [← htake, List.drop_take, List.take_take, List.drop_drop, hmin]
  exact hinner.symm.trans hotake

/-- What is cut out at the offset of a part is the part. -/
theorem take_drop (h : At bytes offset part) : (bytes.drop offset).take part.length = part := h.2

theorem length_le (h : At bytes offset part) : offset + part.length ≤ bytes.length := h.1

end At

/-! The bytes of words. -/

@[simp] theorem length_toBytesLE (width n : Nat) : (toBytesLE width n).length = width := by
  induction width generalizing n with
  | zero => rfl
  | succ width ih => rw [toBytesLE, List.length_cons, ih]

theorem ofBytesLE_toBytesLE {width n : Nat} (h : n < Nat.pow 256 width) :
    ofBytesLE (toBytesLE width n) = n := by
  induction width generalizing n with
  | zero => exact (Nat.lt_one_iff.mp h).symm
  | succ width ih =>
      have hlow : (UInt8.ofNat (n % 256)).toNat = n % 256 := by
        rw [UInt8.toNat_ofNat']
        exact Nat.mod_eq_of_lt (Nat.mod_lt _ (by decide))
      have hhigh : n / 256 < Nat.pow 256 width := Nat.div_lt_of_lt_mul (by
        have hpow : Nat.pow 256 (width + 1) = Nat.pow 256 width * 256 := rfl
        omega)
      rw [toBytesLE, ofBytesLE, hlow, ih hhigh]
      exact Nat.mod_add_div n 256

/-- The bytes of words of four bytes, one after the other. -/
def wordBytes (ns : List Nat) : List UInt8 := ns.flatMap (toBytesLE 4)

@[simp] theorem length_wordBytes (ns : List Nat) : (wordBytes ns).length = 4 * ns.length := by
  induction ns with
  | nil => rfl
  | cons n ns ih =>
      rw [wordBytes, List.flatMap_cons, List.length_append, length_toBytesLE, List.length_cons]
      have hrest : (ns.flatMap (toBytesLE 4)).length = 4 * ns.length := ih
      omega

/-- A number fits into a word of four bytes. -/
def IsWord (n : Nat) : Prop := n < Nat.pow 256 4

instance (n : Nat) : Decidable (IsWord n) := inferInstanceAs (Decidable (_ < _))

/-! Numbers in groups of seven bits. -/

/-- The bytes are a form of a number: seven bits a byte, the lowest first, and the top bit
set on every byte but the last. A number has forms with zero groups at their end, too. -/
inductive IsForm : Nat → List UInt8 → Prop
  | last {b : UInt8} (h : b < 0x80) : IsForm b.toNat [b]
  | more {b : UInt8} {n : Nat} {rest : List UInt8} (h : ¬ b < 0x80) (hrest : IsForm n rest) :
      IsForm (b.toNat % 128 + 128 * n) (b :: rest)

/-- The bytes are forms of at most five bytes of numbers, one after the other. -/
inductive AreForms : List Nat → List UInt8 → Prop
  | nil : AreForms [] []
  | cons {n : Nat} {ns : List Nat} {form rest : List UInt8} (h : IsForm n form)
      (hshort : form.length ≤ 5) (hrest : AreForms ns rest) : AreForms (n :: ns) (form ++ rest)

/-- Bytes below 128 are forms of themselves. -/
theorem AreForms.of_lt {bytes : List UInt8} (h : ∀ b ∈ bytes, b < 0x80) :
    AreForms (bytes.map UInt8.toNat) bytes := by
  induction bytes with
  | nil => exact .nil
  | cons b bytes ih =>
      have hshort : [b].length ≤ 5 := Nat.le_add_left 1 4
      exact .cons (.last (h b List.mem_cons_self)) hshort
        (ih fun c hc => h c (List.mem_cons_of_mem b hc))

/-- The forms of two runs of numbers stand one behind the other. -/
theorem AreForms.append_iff {ns ms : List Nat} {bytes : List UInt8} :
    AreForms (ns ++ ms) bytes ↔
      ∃ xs ys, AreForms ns xs ∧ AreForms ms ys ∧ bytes = xs ++ ys := by
  induction ns generalizing bytes with
  | nil =>
      constructor
      · exact fun h => ⟨[], bytes, .nil, h, rfl⟩
      · rintro ⟨xs, ys, hx, hy, rfl⟩
        cases hx
        exact hy
  | cons n ns ih =>
      constructor
      · intro h
        cases h with
        | cons h hshort hrest =>
            obtain ⟨xs, ys, hx, hy, rfl⟩ := ih.mp hrest
            exact ⟨_, ys, .cons h hshort hx, hy, (List.append_assoc _ _ _).symm⟩
      · rintro ⟨xs, ys, hx, hy, rfl⟩
        cases hx with
        | cons h hshort hrest =>
            rw [List.append_assoc]
            exact .cons h hshort (ih.mpr ⟨_, ys, hrest, hy, rfl⟩)

namespace Region

variable {r : Region} {address : Int} {o : Nat} {part : List UInt8} {what : String}

theorem Backed.length_contents (hr : r.Backed) : (r.contents.length : Int) = r.stop - r.begin :=
  hr

/-- The region contains what stands in its bytes. -/
theorem Backed.contains_of_at (hr : r.Backed) (h : At r.contents o part)
    (ha : address = r.begin + o) : r.contains address part.length = true := by
  have hlen := h.length_le
  have hb := hr.length_contents
  rw [contains_iff]
  omega

theorem offset_of_eq (ha : address = r.begin + o) : r.offset address = o := by
  rw [offset, ha]
  omega

theorem slice_of_at (h : At r.contents o part) (ha : address = r.begin + o) :
    r.slice (r.offset address) part.length = part := by
  rw [offset_of_eq ha, slice_eq]
  exact h.take_drop

theorem Backed.readBytes_of_at (hr : r.Backed) (h : At r.contents o part)
    (ha : address = r.begin + o) {size : Int} (hs : size = part.length) :
    r.readBytes address size what = .ok part := by
  rw [hs, readBytes_of_contains (hr.contains_of_at h ha), Int.toNat_natCast, slice_of_at h ha]

theorem Backed.word_of_at (hr : r.Backed) {width n : Nat}
    (h : At r.contents o (toBytesLE width n)) (hn : n < Nat.pow 256 width)
    (ha : address = r.begin + o) : r.word width address what = .ok n := by
  have hc := hr.contains_of_at h ha
  have hs := slice_of_at h ha
  rw [length_toBytesLE] at hc hs
  rw [hr.word_of_contains hc, hs, ofBytesLE_toBytesLE hn]

theorem Backed.u32_of_at (hr : r.Backed) {n : Nat} (h : At r.contents o (toBytesLE 4 n))
    (hn : IsWord n) (ha : address = r.begin + o) : r.u32 address what = .ok n :=
  hr.word_of_at h hn ha

theorem words_of_at {ns : List Nat} (h : At r.contents o (wordBytes ns))
    (hn : ∀ n ∈ ns, IsWord n) : r.words o ns.length = ns := by
  induction ns generalizing o with
  | nil => rfl
  | cons n ns ih =>
      have hsplit : wordBytes (n :: ns) = toBytesLE 4 n ++ wordBytes ns := rfl
      rw [hsplit, At.append, length_toBytesLE] at h
      obtain ⟨hfirst, hrest⟩ := h
      have hslice : r.slice o 4 = toBytesLE 4 n := by
        have htake := hfirst.take_drop
        rw [length_toBytesLE] at htake
        rw [slice_eq, htake]
      rw [List.length_cons, words, hslice, ofBytesLE_toBytesLE (hn n List.mem_cons_self),
        ih hrest fun m hm => hn m (List.mem_cons_of_mem n hm)]

theorem Backed.u32s_of_at (hr : r.Backed) {ns : List Nat} (h : At r.contents o (wordBytes ns))
    (hn : ∀ n ∈ ns, IsWord n) (ha : address = r.begin + o) {count : Int}
    (hcount : count = ns.length) : r.u32s address count what = .ok ns := by
  have hc := hr.contains_of_at h ha
  have hsize : ((wordBytes ns).length : Int) = count * 4 := by
    rw [length_wordBytes]
    omega
  rw [hsize] at hc
  rw [hr.u32s_of_contains hc, offset_of_eq ha, hcount, Int.toNat_natCast, words_of_at h hn]

theorem byte_of_at {b : UInt8} {rest : List UInt8} (h : At r.contents o (b :: rest)) :
    r.bytes[o]? = some b := r.getElem?_contents o ▸ (At.cons.mp h).1

theorem Backed.byteAt_of_at (hr : r.Backed) {b : UInt8} {rest : List UInt8}
    (h : At r.contents o (b :: rest)) (ha : address = r.begin + o) :
    r.check address 1 what = .ok () ∧ r.byteAt address = .ok b := by
  have hone : At r.contents o [b] := (At.append.mp (List.singleton_append ▸ h)).1
  refine ⟨check_of_contains (hr.contains_of_at hone ha), ?_⟩
  rw [byteAt, offset_of_eq ha, byte_of_at h]

/-- A number is read from any of its forms that is not too long. -/
theorem Backed.ulebFrom_of_at (hr : r.Backed) {n : Nat} {form : List UInt8}
    (hform : IsForm n form) {start : Int} {left : Nat} (hleft : form.length ≤ left)
    (h : At r.contents o form) (ha : address = r.begin + o) :
    r.ulebFrom what start left address = .ok (n, address + form.length) := by
  induction hform generalizing left o address with
  | last hb =>
      obtain ⟨hcheck, hbyte⟩ := hr.byteAt_of_at h ha
      cases left with
      | zero => exact absurd hleft (by simp)
      | succ left =>
          rw [ulebFrom, hcheck, hbyte]
          show (if _ then _ else _) = _
          rw [if_pos hb]
          rfl
  | more hb hrest ih =>
      obtain ⟨hcheck, hbyte⟩ := hr.byteAt_of_at h ha
      cases left with
      | zero => exact absurd hleft (by simp)
      | succ left =>
          have hnext := ih (by simpa using hleft : _ ≤ left) (At.cons.mp h).2
            (show address + 1 = r.begin + ((o + 1 : Nat) : Int) by omega)
          rw [ulebFrom, hcheck, hbyte]
          show (if _ then _ else _) = _
          rw [if_neg hb, hnext]
          show Except.ok _ = Except.ok _
          rw [List.length_cons]
          congr 2
          omega

theorem Backed.uleb128_of_at (hr : r.Backed) {n : Nat} {form : List UInt8}
    (hform : IsForm n form) (hshort : form.length ≤ 5) (h : At r.contents o form)
    (ha : address = r.begin + o) :
    r.uleb128 address what = .ok (n, address + form.length) :=
  hr.ulebFrom_of_at hform hshort h ha

/-- A search finds a value behind bytes that are other ones. -/
theorem seek_of_at {value : UInt8} {bs : List UInt8} (h : At r.contents o (bs ++ [value]))
    (hmem : value ∉ bs) {count : Nat} (hcount : bs.length < count) :
    r.seek value o count = some (o + bs.length) := by
  induction bs generalizing o count with
  | nil =>
      cases count with
      | zero => exact absurd hcount (Nat.not_lt_zero _)
      | succ count =>
          rw [seek, byte_of_at h]
          exact if_pos rfl
  | cons b bs ih =>
      cases count with
      | zero => exact absurd hcount (Nat.not_lt_zero _)
      | succ count =>
          have hne : ¬ b = value := fun heq => hmem (heq ▸ List.mem_cons_self)
          have hrest := ih (At.cons.mp h).2 (fun hin => hmem (List.mem_cons_of_mem b hin))
            (Nat.lt_of_succ_lt_succ hcount)
          rw [seek, byte_of_at h]
          show (if b = value then _ else _) = _
          rw [if_neg hne, hrest, List.length_cons]
          congr 1
          omega

theorem Backed.findByte_of_at (hr : r.Backed) {value : UInt8} {bs : List UInt8}
    (h : At r.contents o (bs ++ [value])) (hmem : value ∉ bs) (ha : address = r.begin + o) :
    r.findByte address value r.stop = address + bs.length := by
  have hlen := h.length_le
  have hb := hr.length_contents
  rw [List.length_append, List.length_singleton] at hlen
  have hcovers : r.covers address r.stop = true := by
    simp only [covers, Bool.and_eq_true, decide_eq_true_eq]
    omega
  have hcount : bs.length < (min r.stop r.stop - address).toNat := by omega
  rw [findByte, if_pos hcovers, offset_of_eq ha, seek_of_at h hmem hcount]
  dsimp only
  omega

end Region

end OatImage
