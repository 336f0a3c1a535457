import OatImage.Dex.ClassData
import OatImage.Proofs.ModuleFaults
import OatImage.Proofs.Placed

/-!
# Runs of numbers

A number in groups of seven bits is read exactly where one of its forms of at most five bytes
stands. None is read where the bytes end before a number does, or where five bytes in a row have
the top bit set. A run of numbers is read one behind the other, so a run that is not read to its
end stops behind those of its numbers that are there.
-/
namespace OatImage

/-- The bytes end from an offset on before a number does. -/
def CutNumber (bytes : List UInt8) (offset : Nat) : Prop :=
  bytes.length < offset + 5 ∧ ∀ b ∈ bytes.drop offset, ¬ b < 0x80

/-- A number that stands at an offset is longer than five bytes. -/
def LongNumber (bytes : List UInt8) (offset : Nat) : Prop :=
  ∃ five, five.length = 5 ∧ At bytes offset five ∧ ∀ b ∈ five, ¬ b < 0x80

/-- In both cases the next five bytes, as far as they are there, have the top bit set. -/
theorem cutNumber_or_longNumber_iff {bytes : List UInt8} {offset : Nat} :
    CutNumber bytes offset ∨ LongNumber bytes offset ↔
      ∀ b ∈ (bytes.drop offset).take 5, ¬ b < 0x80 := by
  constructor
  · rintro (⟨_, hall⟩ | ⟨five, hfive, hat, hall⟩)
    · exact fun b hb => hall b (List.mem_of_mem_take hb)
    · rwa [← hfive, hat.take_drop]
  · intro hall
    by_cases hshort : bytes.length < offset + 5
    · left
      rw [List.take_of_length_le (by rw [List.length_drop]; omega)] at hall
      exact ⟨hshort, hall⟩
    · right
      have hlen : ((bytes.drop offset).take 5).length = 5 := by
        rw [List.length_take, List.length_drop]
        omega
      refine ⟨_, hlen, ⟨by omega, ?_⟩, hall⟩
      rw [hlen]

theorem AreForms.length_le {ns : List Nat} {forms : List UInt8} (h : AreForms ns forms) :
    ns.length ≤ forms.length := by
  induction h with
  | nil => exact Nat.le_refl 0
  | @cons n ns form rest hform _ _ ih =>
      have hpos : 0 < form.length := by cases hform <;> exact Nat.succ_pos _
      rw [List.length_cons, List.length_append]
      omega

namespace Region

variable {r : Region} {address : Int} {o : Nat} {what : String}

/-- A byte is taken and is the last one of the number or not, or the bytes have ended. -/
theorem Backed.ulebFrom_cases (hr : r.Backed) (ha : address = r.begin + o) (what : String)
    (start : Int) (left : Nat) :
    (∃ b, r.contents.drop o = b :: r.contents.drop (o + 1) ∧ At r.contents o [b] ∧
      r.ulebFrom what start (left + 1) address =
        if b < 0x80 then .ok (b.toNat, address + 1)
        else (fun read => (b.toNat % 128 + 128 * read.1, read.2)) <$>
          r.ulebFrom what start left (address + 1)) ∨
    (r.contents.drop o = [] ∧ ∃ e, r.ulebFrom what start (left + 1) address = .error e) := by
  have hlen := hr.length_contents
  by_cases ho : o < r.contents.length
  · left
    have hdrop := List.drop_eq_getElem_cons ho
    have hat : At r.contents o [r.contents[o]] := by
      refine ⟨ho, ?_⟩
      rw [hdrop]
      rfl
    obtain ⟨hcheck, hbyte⟩ := hr.byteAt_of_at hat ha
    refine ⟨_, hdrop, hat, ?_⟩
    rw [ulebFrom, hcheck, hbyte]
    show (if _ then _ else _) = _
    by_cases hb : r.contents[o] < 0x80
    · rw [if_pos hb, if_pos hb]
      rfl
    · rw [if_neg hb, if_neg hb]
      cases r.ulebFrom what start left (address + 1) <;> rfl
  · right
    have hout : ¬ r.contains address 1 = true := by
      rw [contains_iff]
      omega
    refine ⟨List.drop_eq_nil_of_le (Nat.le_of_not_lt ho), ?_⟩
    rw [ulebFrom, check_of_not_contains hout]
    exact ⟨_, rfl⟩

/-- A number takes a byte at least, and it ends in the window. -/
theorem ulebFrom_range {start next : Int} {left n : Nat}
    (h : r.ulebFrom what start left address = .ok (n, next)) : address < next ∧ next ≤ r.stop := by
  induction left generalizing address n next with
  | zero => cases h
  | succ left ih =>
      obtain ⟨_, hcheck, h⟩ := Decode.bind_eq_ok.mp h
      obtain ⟨b, _, h⟩ := Decode.bind_eq_ok.mp h
      have hcontains := contains_iff.mp (contains_of_check hcheck)
      by_cases hb : b < 0x80
      · rw [if_pos hb] at h
        cases h
        omega
      · rw [if_neg hb] at h
        obtain ⟨⟨high, next'⟩, hrest, h⟩ := Decode.bind_eq_ok.mp h
        cases h
        have hrange := ih hrest
        omega

theorem Backed.ulebFrom_eq_ok_iff (hr : r.Backed) {start next : Int} {left n : Nat}
    (ha : address = r.begin + o) :
    r.ulebFrom what start left address = .ok (n, next) ↔ ∃ form, IsForm n form ∧
      form.length ≤ left ∧ At r.contents o form ∧ next = address + form.length := by
  constructor
  · intro h
    induction left generalizing o address n next with
    | zero => cases h
    | succ left ih =>
        rcases hr.ulebFrom_cases ha what start left with ⟨b, _, hat, hstep⟩ | ⟨_, e, hstep⟩
        · rw [hstep] at h
          by_cases hb : b < 0x80
          · rw [if_pos hb] at h
            cases h
            exact ⟨[b], .last hb, Nat.le_add_left 1 left, hat, rfl⟩
          · rw [if_neg hb] at h
            cases hrest : r.ulebFrom what start left (address + 1) with
            | error e =>
                rw [hrest] at h
                cases h
            | ok read =>
                obtain ⟨high, next'⟩ := read
                rw [hrest] at h
                cases h
                obtain ⟨form, hform, hlen, hat', rfl⟩ :=
                  ih (show address + 1 = r.begin + ((o + 1 : Nat) : Int) by omega) hrest
                refine ⟨b :: form, .more hb hform, Nat.succ_le_succ hlen,
                  At.cons.mpr ⟨(At.cons.mp hat).1, hat'⟩, ?_⟩
                rw [List.length_cons]
                omega
        · rw [hstep] at h
          cases h
  · rintro ⟨form, hform, hlen, hat, rfl⟩
    exact hr.ulebFrom_of_at hform hlen hat ha

theorem Backed.ulebFrom_error_iff (hr : r.Backed) {start : Int} {left : Nat}
    (ha : address = r.begin + o) :
    (∃ e, r.ulebFrom what start left address = .error e) ↔
      ∀ b ∈ (r.contents.drop o).take left, ¬ b < 0x80 := by
  induction left generalizing o address with
  | zero =>
      rw [List.take_zero]
      exact iff_of_true ⟨_, rfl⟩ nofun
  | succ left ih =>
      rcases hr.ulebFrom_cases ha what start left with ⟨b, hdrop, _, hstep⟩ | ⟨hdrop, hstep⟩
      · have hrest := ih (show address + 1 = r.begin + ((o + 1 : Nat) : Int) by omega)
        rw [hstep, hdrop, List.take_succ_cons, List.forall_mem_cons, ← hrest]
        by_cases hb : b < 0x80
        · rw [if_pos hb]
          refine iff_of_false ?_ fun h => h.1 hb
          rintro ⟨e, h⟩
          cases h
        · rw [if_neg hb, and_iff_right hb]
          cases r.ulebFrom what start left (address + 1) with
          | ok read => exact exists_congr fun e => iff_of_false nofun nofun
          | error e => exact iff_of_true ⟨e, rfl⟩ ⟨e, rfl⟩
      · rw [hdrop, List.take_nil]
        exact iff_of_true hstep nofun

end Region

namespace Dex.Module

open Decode

variable {m : Module} {o : Nat} {cursor : Int}

/-- Reads a run of numbers: the numbers and the address after them. -/
def numbers (m : Module) : (count : Nat) → (cursor : Int) → Decode (List Nat × Int)
  | 0, cursor => .ok ([], cursor)
  | count + 1, cursor => do
    let (n, cursor) ← m.uleb128 cursor
    let (rest, cursor) ← m.numbers count cursor
    pure (n :: rest, cursor)

theorem length_numbers {count : Nat} {ns : List Nat} {next : Int}
    (h : m.numbers count cursor = .ok (ns, next)) : ns.length = count := by
  induction count generalizing cursor ns with
  | zero =>
      cases h
      rfl
  | succ count ih =>
      obtain ⟨_, _, h⟩ := bind_eq_ok.mp h
      obtain ⟨_, hrest, h⟩ := bind_eq_ok.mp h
      cases h
      rw [List.length_cons, ih hrest]

/-- A run is not read because its first number is not, or those behind it are not. -/
theorem numbers_succ_error_iff {count : Nat} :
    (∃ e, m.numbers (count + 1) cursor = .error e) ↔ (∃ e, m.uleb128 cursor = .error e) ∨
      ∃ n next, m.uleb128 cursor = .ok (n, next) ∧ ∃ e, m.numbers count next = .error e := by
  rw [numbers]
  constructor
  · rintro ⟨e, h⟩
    rcases bind_eq_error.mp h with h | ⟨⟨n, next⟩, hfirst, h⟩
    · exact .inl ⟨e, h⟩
    · rcases bind_eq_error.mp h with h | ⟨_, _, h⟩
      · exact .inr ⟨n, next, hfirst, e, h⟩
      · cases h
  · rintro (⟨e, h⟩ | ⟨n, next, hfirst, e, h⟩)
    · exact ⟨e, bind_eq_error.mpr (.inl h)⟩
    · exact ⟨e, bind_eq_error.mpr (.inr ⟨_, hfirst, bind_eq_error.mpr (.inl h)⟩)⟩

/-- A run is one run behind another. -/
theorem numbers_add (first second : Nat) : m.numbers (first + second) cursor = (do
    let (ns, cursor) ← m.numbers first cursor
    let (rest, cursor) ← m.numbers second cursor
    pure (ns ++ rest, cursor)) := by
  induction first generalizing cursor with
  | zero =>
      rw [Nat.zero_add]
      show _ = (m.numbers second cursor >>= fun (rest, cursor) => pure (rest, cursor))
      cases m.numbers second cursor <;> rfl
  | succ first ih =>
      rw [Nat.add_right_comm, numbers, numbers]
      cases m.uleb128 cursor with
      | error e => rfl
      | ok read =>
          simp only [ok_bind]
          rw [ih]
          cases m.numbers first read.2 with
          | error e => rfl
          | ok reads =>
              show (m.numbers second reads.2 >>= _) >>= _ = m.numbers second reads.2 >>= _
              cases m.numbers second reads.2 <;> rfl

section
variable (hback : m.window.Backed) (hbegin : m.window.begin = m.address)
include hback hbegin

theorem uleb128_eq_ok_iff {n : Nat} {next : Int} (ha : cursor = m.address + o) :
    m.uleb128 cursor = .ok (n, next) ↔ ∃ form, IsForm n form ∧ form.length ≤ 5 ∧
      At m.window.contents o form ∧ next = cursor + form.length := by
  rw [uleb128, asModule_eq_ok, Region.uleb128, hback.ulebFrom_eq_ok_iff (hbegin ▸ ha)]

theorem uleb128_error_iff (ha : cursor = m.address + o) :
    (∃ e, m.uleb128 cursor = .error e) ↔
      CutNumber m.window.contents o ∨ LongNumber m.window.contents o := by
  have herror : (∃ e, m.uleb128 cursor = .error e) ↔
      ∃ e, m.window.uleb128 cursor "class_data ULEB128" = .error e := by
    rw [uleb128]
    cases m.window.uleb128 cursor "class_data ULEB128" with
    | ok read => exact ⟨fun ⟨_, h⟩ => (nomatch h), fun ⟨_, h⟩ => (nomatch h)⟩
    | error e => exact ⟨fun _ => ⟨e, rfl⟩, fun _ => ⟨_, rfl⟩⟩
  rw [herror, cutNumber_or_longNumber_iff, Region.uleb128,
    hback.ulebFrom_error_iff (hbegin ▸ ha)]

/-- A run of numbers is read exactly where forms of them stand. -/
theorem numbers_eq_ok_iff {count : Nat} {ns : List Nat} {next : Int}
    (ho : o ≤ m.window.contents.length) (ha : cursor = m.address + o) :
    m.numbers count cursor = .ok (ns, next) ↔ ns.length = count ∧ ∃ forms, AreForms ns forms ∧
      At m.window.contents o forms ∧ next = cursor + forms.length := by
  induction count generalizing o cursor ns with
  | zero =>
      constructor
      · intro h
        cases h
        exact ⟨rfl, [], .nil, ⟨ho, List.take_zero⟩, (Int.add_zero _).symm⟩
      · rintro ⟨hlen, forms, hforms, _, rfl⟩
        obtain rfl := List.length_eq_zero_iff.mp hlen
        cases hforms
        exact congrArg (fun next => Except.ok ([], next)) (Int.add_zero cursor).symm
  | succ count ih =>
      rw [numbers, bind_eq_ok]
      constructor
      · rintro ⟨⟨n, next₁⟩, hfirst, h⟩
        obtain ⟨⟨rest, next₂⟩, hrest, h⟩ := bind_eq_ok.mp h
        cases h
        obtain ⟨form, hform, hshort, hat, rfl⟩ := (uleb128_eq_ok_iff hback hbegin ha).mp hfirst
        obtain ⟨hlen, forms, hforms, hats, rfl⟩ := (ih hat.length_le (by omega)).mp hrest
        refine ⟨by rw [List.length_cons, hlen], form ++ forms, .cons hform hshort hforms,
          At.append.mpr ⟨hat, hats⟩, ?_⟩
        rw [List.length_append]
        omega
      · rintro ⟨hlen, forms, hforms, hats, rfl⟩
        cases hforms with
        | nil => cases hlen
        | @cons n ns form forms hform hshort hforms =>
            obtain ⟨hat, hats⟩ := At.append.mp hats
            have hfirst := (uleb128_eq_ok_iff hback hbegin ha).mpr ⟨form, hform, hshort, hat, rfl⟩
            have hrest : m.numbers count (cursor + form.length) =
                .ok (ns, cursor + (form ++ forms).length) := by
              refine (ih hat.length_le (by omega)).mpr
                ⟨Nat.succ.inj hlen, forms, hforms, hats, ?_⟩
              rw [List.length_append]
              omega
            exact ⟨_, hfirst, bind_eq_ok.mpr ⟨_, hrest, rfl⟩⟩

/-- A run that is not read stops behind the numbers that are there, at one that is cut or too
long. -/
theorem numbers_error_iff {count : Nat} (ho : o ≤ m.window.contents.length)
    (ha : cursor = m.address + o) :
    (∃ e, m.numbers count cursor = .error e) ↔ ∃ ns forms, ns.length < count ∧
      AreForms ns forms ∧ At m.window.contents o forms ∧
      (CutNumber m.window.contents (o + forms.length) ∨
        LongNumber m.window.contents (o + forms.length)) := by
  induction count generalizing o cursor with
  | zero =>
      refine iff_of_false ?_ ?_
      · rintro ⟨_, h⟩
        cases h
      · rintro ⟨_, _, h, _⟩
        exact Nat.not_lt_zero _ h
  | succ count ih =>
      rw [numbers_succ_error_iff]
      constructor
      · rintro (hfirst | ⟨n, next, hfirst, hrest⟩)
        · exact ⟨[], [], Nat.succ_pos count, .nil, ⟨ho, List.take_zero⟩,
            (uleb128_error_iff hback hbegin ha).mp hfirst⟩
        · obtain ⟨form, hform, hshort, hat, rfl⟩ := (uleb128_eq_ok_iff hback hbegin ha).mp hfirst
          obtain ⟨ns, forms, hlen, hforms, hats, hstop⟩ :=
            (ih hat.length_le (by omega)).mp hrest
          refine ⟨n :: ns, form ++ forms, Nat.succ_lt_succ hlen, .cons hform hshort hforms,
            At.append.mpr ⟨hat, hats⟩, ?_⟩
          rwa [List.length_append, ← Nat.add_assoc]
      · rintro ⟨ns, forms, hlen, hforms, hats, hstop⟩
        cases hforms with
        | nil => exact .inl ((uleb128_error_iff hback hbegin ha).mpr hstop)
        | @cons n ns form forms hform hshort hforms =>
            obtain ⟨hat, hats⟩ := At.append.mp hats
            rw [List.length_append, ← Nat.add_assoc] at hstop
            have hfirst := (uleb128_eq_ok_iff hback hbegin ha).mpr ⟨form, hform, hshort, hat, rfl⟩
            exact .inr ⟨n, _, hfirst, (ih hat.length_le (by omega)).mpr
              ⟨ns, forms, Nat.lt_of_succ_lt_succ hlen, hforms, hats, hstop⟩⟩

end

end Dex.Module

end OatImage
