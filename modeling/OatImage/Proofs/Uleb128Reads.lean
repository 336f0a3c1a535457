import OatImage.Proofs.NumberRuns
import OatImage.Proofs.TracedWalks
import OatImage.Proofs.WindowReads

/-!
# Numbers in a window

A number in groups of seven bits is read at an address exactly if one of at most five bytes ends
there with a byte that has the top bit clear, and it is the sum of the groups. Otherwise the read
fails in decoding; no more than five bytes are looked at in either case. The shortest form of a
number is one of the forms that are read, and a form that the window cuts is not.
-/
namespace OatImage

variable {byte : Int → UInt8} {address : Int} {k n : Nat}

/-- The number whose groups of seven bits are the lower parts of `k` bytes at an address. -/
def groupsAt (byte : Int → UInt8) (address : Int) (k : Nat) : Nat :=
  ∑ i ∈ Finset.range k, (byte (address + i)).toNat % 128 * 128 ^ i

theorem groupsAt_succ (byte : Int → UInt8) (address : Int) (k : Nat) :
    groupsAt byte address (k + 1) =
      (byte address).toNat % 128 + 128 * groupsAt byte (address + 1) k := by
  rw [groupsAt, groupsAt, sum_digits_succ (fun i => (byte (address + i)).toNat % 128)]
  simp only [add_natCast_succ, Nat.cast_zero, Int.add_zero]

theorem groupsAt_lt (byte : Int → UInt8) (address : Int) (k : Nat) :
    groupsAt byte address k < 128 ^ k := by
  induction k generalizing address with
  | zero => exact Nat.one_pos
  | succ k ih =>
      have hlow := Nat.mod_lt (byte address).toNat (show 0 < 128 by decide)
      have hhigh := ih (address + 1)
      rw [groupsAt_succ, Nat.pow_succ]
      omega

/-- The `k` bytes at an address are a form of a number: the top bit is set on every byte but the
last, and the groups of seven bits make the number. -/
structure IsFormAt (byte : Int → UInt8) (address : Int) (k n : Nat) : Prop where
  pos : 0 < k
  more : ∀ i : Nat, i + 1 < k → 128 ≤ (byte (address + i)).toNat
  last : ∀ i : Nat, i + 1 = k → (byte (address + i)).toNat < 128
  value : n = groupsAt byte address k

/-- A form is a last byte, or a byte in front of a form. -/
theorem isFormAt_succ : IsFormAt byte address (k + 1) n ↔
    k = 0 ∧ (byte address).toNat < 128 ∧ n = (byte address).toNat ∨
      128 ≤ (byte address).toNat ∧ ∃ high, IsFormAt byte (address + 1) k high ∧
        n = (byte address).toNat % 128 + 128 * high := by
  constructor
  · rintro ⟨-, hmore, hlast, rfl⟩
    rw [groupsAt_succ]
    cases k with
    | zero =>
        have hlow := hlast 0 rfl
        rw [Nat.cast_zero, Int.add_zero] at hlow
        exact .inl ⟨rfl, hlow, Nat.mod_eq_of_lt hlow⟩
    | succ k =>
        have hhigh := hmore 0 (by omega)
        rw [Nat.cast_zero, Int.add_zero] at hhigh
        refine .inr ⟨hhigh, _, ⟨Nat.succ_pos k, fun i hi => ?_, fun i hi => ?_, rfl⟩, rfl⟩
        · rw [← add_natCast_succ]
          exact hmore (i + 1) (by omega)
        · rw [← add_natCast_succ]
          exact hlast (i + 1) (by omega)
  · rintro (⟨rfl, hlow, rfl⟩ | ⟨hhigh, high, hform, rfl⟩)
    · refine ⟨Nat.one_pos, fun i hi => absurd hi (by omega), fun i hi => ?_, ?_⟩
      · obtain rfl : i = 0 := by omega
        rwa [Nat.cast_zero, Int.add_zero]
      · rw [groupsAt_succ, Nat.mod_eq_of_lt hlow]
        rfl
    · refine ⟨Nat.succ_pos k, fun i hi => ?_, fun i hi => ?_, ?_⟩
      · cases i with
        | zero => rwa [Nat.cast_zero, Int.add_zero]
        | succ i =>
            rw [add_natCast_succ]
            exact hform.more i (by omega)
      · cases i with
        | zero => exact absurd hform.pos (by omega)
        | succ i =>
            rw [add_natCast_succ]
            exact hform.last i (by omega)
      · rw [groupsAt_succ, hform.value]

theorem isForm_cons {b : UInt8} {rest : List UInt8} : IsForm n (b :: rest) ↔
    rest = [] ∧ b < 0x80 ∧ n = b.toNat ∨
      ¬ b < 0x80 ∧ ∃ high, IsForm high rest ∧ n = b.toNat % 128 + 128 * high := by
  constructor
  · intro h
    cases h with
    | last hlow => exact .inl ⟨rfl, hlow, rfl⟩
    | more hhigh hrest => exact .inr ⟨hhigh, _, hrest, rfl⟩
  · rintro (⟨rfl, hlow, rfl⟩ | ⟨hhigh, high, hrest, rfl⟩)
    · exact .last hlow
    · exact .more hhigh hrest

/-- The bytes in a row are a form exactly if they are one as a list. -/
theorem isForm_bytesAt : IsForm n (bytesAt byte address k) ↔ IsFormAt byte address k n := by
  induction k generalizing address n with
  | zero => exact ⟨fun h => (nomatch h), fun h => absurd h.pos (Nat.lt_irrefl 0)⟩
  | succ k ih =>
      have hlow : byte address < 0x80 ↔ (byte address).toNat < 128 := UInt8.lt_iff_toNat_lt
      rw [bytesAt_succ, isForm_cons, isFormAt_succ, ← List.length_eq_zero_iff, length_bytesAt,
        hlow, Nat.not_lt]
      simp only [ih]

/-- A form of at most five bytes is one of a number below `2 ^ 35`. -/
theorem IsFormAt.lt (h : IsFormAt byte address k n) (hshort : k ≤ 5) : n < 2 ^ 35 := by
  rw [h.value]
  exact Nat.lt_of_lt_of_le (groupsAt_lt byte address k)
    (Nat.pow_le_pow_right (by decide : 0 < 128) hshort)

/-- Every byte of a form but the last one has the top bit set. -/
theorem IsForm.more_of_getElem? {form : List UInt8} (h : IsForm n form) {i : Nat} {b : UInt8}
    (hb : form[i]? = some b) (hi : i + 1 < form.length) : 128 ≤ b.toNat := by
  induction h generalizing i with
  | last => exact absurd hi (by simp)
  | more hhigh hrest ih =>
      cases i with
      | zero =>
          cases hb
          exact Nat.le_of_not_lt hhigh
      | succ i => exact ih hb (Nat.lt_of_succ_lt_succ hi)

/-! The shortest form. -/

theorem isForm_encode (n : Nat) : IsForm n (Uleb128.encode n) := by
  induction n using Uleb128.encode.induct with
  | case1 n hsmall =>
      have hbyte : (UInt8.ofNat n).toNat = n := UInt8.toNat_ofNat_of_lt' (show n < 256 by omega)
      rw [Uleb128.encode, if_pos hsmall, isForm_cons, UInt8.lt_iff_toNat_lt, hbyte]
      exact .inl ⟨rfl, hsmall, rfl⟩
  | case2 n hlarge ih =>
      have hbyte : (UInt8.ofNat (n % 128 + 128)).toNat = n % 128 + 128 :=
        UInt8.toNat_ofNat_of_lt' (show n % 128 + 128 < 256 by omega)
      rw [Uleb128.encode, if_neg hlarge, isForm_cons, UInt8.lt_iff_toNat_lt, hbyte]
      refine .inr ⟨Nat.not_lt.mpr (Nat.le_add_left 128 _), _, ih, ?_⟩
      omega

theorem length_encode_le {width : Nat} (hwidth : 0 < width) (h : n < 128 ^ width) :
    (Uleb128.encode n).length ≤ width := by
  induction n using Uleb128.encode.induct generalizing width with
  | case1 n hsmall =>
      rw [Uleb128.encode, if_pos hsmall]
      exact hwidth
  | case2 n hlarge ih =>
      rw [Uleb128.encode, if_neg hlarge, List.length_cons]
      cases width with
      | zero => exact absurd hwidth (Nat.lt_irrefl 0)
      | succ width =>
          rw [Nat.pow_succ] at h
          cases width with
          | zero => exact absurd h (by omega)
          | succ width =>
              exact Nat.succ_le_succ (ih (Nat.succ_pos width) (by omega))

namespace Region

variable {r : Region} {what : String} {next : Int}

/-! Reading with a trace. -/

/-- The reader of numbers, with the addresses of the bytes that it reads. -/
def ulebTraced (r : Region) (what : String) (start : Int) :
    (left : Nat) → (cursor : Int) → Traced Int (Nat × Int)
  | 0, _ => Traced.fail (.inImage (.longNumber what) start)
  | left + 1, cursor => do
    Traced.ofLogged (Logged.ofDecode (r.check cursor 1 what))
    let b ← (⟨[cursor], Logged.ofDecode (r.byteAt cursor)⟩ : Traced Int UInt8)
    if b < 0x80 then pure (b.toNat, cursor + 1)
    else
      let (high, next) ← r.ulebTraced what start left (cursor + 1)
      pure (b.toNat % 128 + 128 * high, next)

/-- Without the addresses it is the reader of numbers. -/
theorem step_ulebTraced (what : String) (start : Int) (left : Nat) (cursor : Int) :
    (r.ulebTraced what start left cursor).step =
      Logged.ofDecode (r.ulebFrom what start left cursor) := by
  induction left generalizing cursor with
  | zero => rfl
  | succ left ih =>
      rw [ulebTraced, ulebFrom]
      refine Traced.step_bind_of_eq rfl fun _ => Traced.step_bind_of_eq rfl fun b => ?_
      by_cases hb : b < 0x80
      · rw [if_pos hb, if_pos hb]
        rfl
      · rw [if_neg hb, if_neg hb]
        exact Traced.step_bind_of_eq (ih (cursor + 1)) fun _ => rfl

/-- At most so many bytes are looked at, all of them in the window. -/
def LooksAt {α : Type} (r : Region) (most : Nat) (x : Traced Int α) : Prop :=
  x.trace.length ≤ most ∧ ∀ a ∈ x.trace, r.begin ≤ a ∧ a < r.stop

section
variable {α β : Type} {x : Traced Int α} {f : α → Traced Int β} {most more : Nat}

theorem LooksAt.ofLogged (step : Logged α) (most : Nat) :
    r.LooksAt most (Traced.ofLogged step : Traced Int α) :=
  ⟨Nat.zero_le most, nofun⟩

theorem LooksAt.bind (hx : r.LooksAt most x)
    (hf : ∀ a, x.step.outcome = .ok a → r.LooksAt more (f a)) :
    r.LooksAt (most + more) (x >>= f) := by
  cases houtcome : x.step.outcome with
  | error e =>
      rw [LooksAt, Traced.trace_bind_of_error houtcome]
      exact ⟨Nat.le_add_right_of_le hx.1, hx.2⟩
  | ok a =>
      obtain ⟨hlen, hin⟩ := hf a houtcome
      rw [LooksAt, Traced.trace_bind_of_ok houtcome, List.length_append]
      exact ⟨Nat.add_le_add hx.1 hlen, List.forall_mem_append.mpr ⟨hx.2, hin⟩⟩

end

theorem ulebTraced_looksAt (what : String) (start : Int) (left : Nat) (cursor : Int) :
    r.LooksAt left (r.ulebTraced what start left cursor) := by
  induction left generalizing cursor with
  | zero => exact LooksAt.ofLogged _ 0
  | succ left ih =>
      rw [ulebTraced, show left + 1 = 0 + (1 + (left + 0)) by omega]
      refine (LooksAt.ofLogged _ 0).bind fun _ hcheck => ?_
      -- the byte is looked at behind the check, so it lies in the window
      have hin := contains_iff.mp (contains_of_check hcheck)
      have hbyte : r.LooksAt 1 (⟨[cursor], Logged.ofDecode (r.byteAt cursor)⟩ : Traced Int UInt8) :=
        ⟨Nat.le_refl 1, List.forall_mem_singleton.mpr (by omega)⟩
      refine hbyte.bind fun b _ => ?_
      by_cases hb : b < 0x80
      · rw [if_pos hb]
        exact LooksAt.ofLogged _ _
      · rw [if_neg hb]
        exact (ih (cursor + 1)).bind fun _ _ => LooksAt.ofLogged _ 0

/-! Reading by the bytes of the window. -/

theorem uleb128_of_not_within (h : ¬ r.Within address 1) (what : String) :
    ∃ cause, r.uleb128 address what = .error (.inImage cause address) := by
  have hout : ¬ r.contains address 1 = true := fun hin => h (within_iff_contains.mpr hin)
  exact ⟨_, by rw [uleb128, ulebFrom, check_of_not_contains hout]; rfl⟩

/-- What reading a number comes to, in terms of the bytes that the window shows. -/
structure ReadsNumbers (r : Region) (byte : Int → UInt8) : Prop where
  answers_iff : ∀ address what n next, r.uleb128 address what = .ok (n, next) ↔
    ∃ k ≤ 5, r.Within address k ∧ IsFormAt byte address k n ∧ next = address + k
  lt : ∀ address what n next, r.uleb128 address what = .ok (n, next) → n < 2 ^ 35
  fails : ∀ address what, (¬ ∃ k ≤ 5, ∃ n, r.Within address k ∧ IsFormAt byte address k n) →
    ∃ e, r.uleb128 address what = .error (.decode e)
  /-- No more than five bytes are looked at, whether there is an answer or not. -/
  traced : ∀ address what,
    (r.ulebTraced what address 5 address).step = Logged.ofDecode (r.uleb128 address what) ∧
      r.LooksAt 5 (r.ulebTraced what address 5 address)
  /-- The shortest form of a number is read, whatever stands behind it. -/
  encoded : ∀ address what n, n < 2 ^ 35 → r.Within address (Uleb128.encode n).length →
    bytesAt byte address (Uleb128.encode n).length = Uleb128.encode n →
    r.uleb128 address what = .ok (n, address + (Uleb128.encode n).length)
  /-- The start of a number is not read at the end of the window. -/
  cut : ∀ address what n k, k < (Uleb128.encode n).length → address + k = r.stop →
    bytesAt byte address k = (Uleb128.encode n).take k →
    ∃ e, r.uleb128 address what = .error (.decode e)

section
variable (h : r.Shows byte) (hr : r.begin < r.stop → r.Backed)
include h hr

theorem Shows.uleb128_eq_ok_iff : r.uleb128 address what = .ok (n, next) ↔
    ∃ k ≤ 5, r.Within address k ∧ IsFormAt byte address k n ∧ next = address + k := by
  by_cases hin : r.Within address 1
  · rw [Within] at hin
    have hback := hr (by omega)
    have haddress : address = r.begin + (r.offset address : Int) := by
      simp only [offset]
      omega
    rw [uleb128, hback.ulebFrom_eq_ok_iff haddress]
    constructor
    · rintro ⟨form, hform, hshort, hat, rfl⟩
      have hwithin := within_iff_contains.mpr (hback.contains_of_at hat haddress)
      have hbytes := (slice_of_at hat haddress).symm.trans (h.slice_eq hwithin)
      exact ⟨_, hshort, hwithin, isForm_bytesAt.mp (hbytes ▸ hform), rfl⟩
    · rintro ⟨k, hshort, hwithin, hform, rfl⟩
      have hbears := (hback.bears_slice (within_iff_contains.mp hwithin)).2
      rw [h.slice_eq hwithin] at hbears
      refine ⟨_, isForm_bytesAt.mpr hform, ?_, hback.at_of_bears hbears, ?_⟩
      · rwa [length_bytesAt]
      · rw [length_bytesAt]
  · obtain ⟨cause, hread⟩ := uleb128_of_not_within hin what
    rw [hread]
    refine iff_of_false (by rintro ⟨⟩) ?_
    rintro ⟨k, -, hwithin, hform, -⟩
    have hpos := hform.pos
    rw [Within] at hin hwithin
    omega

theorem Shows.uleb128_fails
    (hnone : ¬ ∃ k ≤ 5, ∃ n, r.Within address k ∧ IsFormAt byte address k n) :
    ∃ e, r.uleb128 address what = .error (.decode e) := by
  by_cases hin : r.Within address 1
  · have honly := (hr (by rw [Within] at hin; omega)).uleb128_failsOnly address what
    rcases (honly.mono fun _ => Fault.IsLocal.isDecode).cases with ⟨⟨n, next⟩, hread⟩ | herror
    · obtain ⟨k, hshort, hwithin, hform, -⟩ := (h.uleb128_eq_ok_iff hr).mp hread
      exact absurd ⟨k, hshort, n, hwithin, hform⟩ hnone
    · exact herror
  · obtain ⟨cause, hread⟩ := uleb128_of_not_within hin what
    exact ⟨_, hread⟩

theorem Shows.uleb128_of_encoded (hn : n < 2 ^ 35)
    (hwithin : r.Within address (Uleb128.encode n).length)
    (hbytes : bytesAt byte address (Uleb128.encode n).length = Uleb128.encode n) :
    r.uleb128 address what = .ok (n, address + (Uleb128.encode n).length) := by
  have hform := isForm_encode n
  rw [← hbytes, isForm_bytesAt] at hform
  exact (h.uleb128_eq_ok_iff hr).mpr
    ⟨_, length_encode_le (by decide : 0 < 5) hn, hwithin, hform, rfl⟩

theorem Shows.uleb128_of_cut (hk : k < (Uleb128.encode n).length) (hstop : address + k = r.stop)
    (hbytes : bytesAt byte address k = (Uleb128.encode n).take k) :
    ∃ e, r.uleb128 address what = .error (.decode e) := by
  refine h.uleb128_fails hr ?_
  rintro ⟨size, -, m, hwithin, hform⟩
  have hpos := hform.pos
  rw [Within] at hwithin
  -- the last byte of a form in the window is one of the bytes in front of the cut
  have hbyte : (Uleb128.encode n)[size - 1]? = some (byte (address + (size - 1 : Nat))) := by
    have hplace := congrArg (·[size - 1]?) hbytes
    rw [List.getElem?_take_of_lt (by omega)] at hplace
    rw [← hplace, bytesAt, List.getElem?_map, List.getElem?_range (by omega)]
    rfl
  have hmore := (isForm_encode n).more_of_getElem? hbyte (by omega)
  have hlast := hform.last (size - 1) (by omega)
  omega

theorem Shows.readsNumbers : r.ReadsNumbers byte where
  answers_iff _ _ _ _ := h.uleb128_eq_ok_iff hr
  lt address what n next hread := by
    obtain ⟨k, hshort, -, hform, -⟩ := (h.uleb128_eq_ok_iff hr).mp hread
    exact hform.lt hshort
  fails _ _ := h.uleb128_fails hr
  traced address what :=
    ⟨step_ulebTraced what address 5 address, ulebTraced_looksAt what address 5 address⟩
  encoded _ _ _ := h.uleb128_of_encoded hr
  cut _ _ _ _ := h.uleb128_of_cut hr

end

/-- Numbers are read from every window over a buffer that holds its bytes as they stand there. -/
theorem ofBuffer_readsNumbers {buffer : ByteArray} {begin stop : Int}
    (hm : stop - begin ≤ buffer.size) :
    (ofBuffer buffer begin stop).ReadsNumbers (heldAt buffer begin) :=
  (shows_ofBuffer hm).readsNumbers fun hlt => ofBuffer_backed (Int.le_of_lt hlt) hm

/-- A number of three bytes with a byte behind it, of which a window shows the first ones. -/
def oneNumber : ByteArray := ⟨#[0xE5, 0x8E, 0x26, 0xFF]⟩

/-- The number is read where the window shows it as a whole, and is not where it is cut. -/
theorem ofBuffer_readsNumbers_oneNumber :
    ((4100 : Int) - 4096 ≤ oneNumber.size ∧ (4098 : Int) - 4096 ≤ oneNumber.size) ∧
      (ofBuffer oneNumber 4096 4100).uleb128 4096 "uleb128" = .ok (624485, 4099) ∧
      ∃ e, (ofBuffer oneNumber 4096 4098).uleb128 4096 "uleb128" = .error (.decode e) := by
  have hwhole : (4100 : Int) - 4096 ≤ oneNumber.size := by decide
  have hcut : (4098 : Int) - 4096 ≤ oneNumber.size := by decide
  have hencode : Uleb128.encode 624485 = [0xE5, 0x8E, 0x26] := by
    simp [Uleb128.encode]
  have hread := (ofBuffer_readsNumbers hwhole).encoded 4096 "uleb128" 624485 (by decide)
  have hfail := (ofBuffer_readsNumbers hcut).cut 4096 "uleb128" 624485 2
  rw [hencode] at hread hfail
  exact ⟨⟨hwhole, hcut⟩, hread (by decide) (by decide), hfail (by decide) (by decide) (by decide)⟩

end Region

end OatImage
