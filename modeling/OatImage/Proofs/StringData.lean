import OatImage.Text.ModifiedUtf8
import Mathlib.Data.Nat.Init

/-!
# String data

The bytes of a string in a module are those of its 16-bit units, and a reader gets the string
back: each unit is read as one code point, a surrogate included, and every high surrogate is
joined with the low one behind it. A string in which a high surrogate stands before a low one
has the same bytes as another string and is not read back; all others are.
-/
namespace OatImage

namespace Utf8

/-! One code point of at most three bytes. The bytes are written as numbers. -/

theorem toNat_byte {n : Nat} (h : n < 256) : (byte n).toNat = n := by
  rw [byte, UInt8.toNat_ofNat']
  exact Nat.mod_eq_of_lt h

theorem byte_lt_byte {n k : Nat} (hn : n < 256) (hk : k < 256) : byte n < byte k ↔ n < k := by
  rw [UInt8.lt_iff_toNat_lt, toNat_byte hn, toNat_byte hk]

theorem byte_le_byte {n k : Nat} (hn : n < 256) (hk : k < 256) : byte n ≤ byte k ↔ n ≤ k := by
  rw [UInt8.le_iff_toNat_le, toNat_byte hn, toNat_byte hk]

theorem byte_inj {n k : Nat} (hn : n < 256) (hk : k < 256) : byte n = byte k ↔ n = k := by
  rw [← UInt8.toNat_inj, toNat_byte hn, toNat_byte hk]

theorem zero_ne_byte {n : Nat} (h : 0 < n) (hn : n < 256) : (0 : UInt8) ≠ byte n :=
  fun heq => absurd ((byte_inj (by decide) hn).mp heq) (Nat.ne_of_lt h)

/-- The first byte of a code point decides how many more there are. -/
theorem point_byte {n : Nat} (hn : n < 0xF0) (rest : List UInt8) : point (byte n) rest =
    if n < 0x80 then .ok (n, 0)
    else if n < 0xC2 then .error ⟨.start, 0⟩
    else if n < 0xE0 then tails 1 (byte 0x80) (byte 0xBF) (n % 32) 0 rest
    else if n = 0xE0 then tails 2 (byte 0xA0) (byte 0xBF) 0 0 rest
    else if n = 0xED then tails 2 (byte 0x80) (byte 0x9F) 13 0 rest
    else tails 2 (byte 0x80) (byte 0xBF) (n % 16) 0 rest := by
  have hbyte : n < 256 := by omega
  have hlt : ∀ k, k < 256 → (byte n < byte k ↔ n < k) := fun k hk => byte_lt_byte hbyte hk
  have heq : ∀ k, k < 256 → (byte n = byte k ↔ n = k) := fun k hk => byte_inj hbyte hk
  show (if byte n < byte 0x80 then _ else if byte n < byte 0xC2 then _
    else if byte n < byte 0xE0 then _ else if byte n = byte 0xE0 then _
    else if byte n = byte 0xED then _ else if byte n < byte 0xF0 then _ else _) = _
  rw [toNat_byte hbyte]
  simp only [hlt 0x80 (by decide), hlt 0xC2 (by decide), hlt 0xE0 (by decide),
    hlt 0xF0 (by decide), heq 0xE0 (by decide), heq 0xED (by decide), hn, if_true]
  rfl

theorem tails_byte {needed low high n : Nat} (hlow : low ≤ n) (hhigh : n ≤ high)
    (h : high < 256) (value taken : Nat) (rest : List UInt8) :
    tails (needed + 1) (byte low) (byte high) value taken (byte n :: rest) =
      tails needed (byte 0x80) (byte 0xBF) (value * 64 + n % 64) (taken + 1) rest := by
  have hin : (byte low ≤ byte n && byte n ≤ byte high) = true := by
    rw [Bool.and_eq_true, decide_eq_true_eq, decide_eq_true_eq,
      byte_le_byte (by omega) (by omega), byte_le_byte (by omega) h]
    exact ⟨hlow, hhigh⟩
  rw [tails, if_pos hin, toNat_byte (by omega)]
  rfl

theorem surrogate?_of_ne {n : Nat} (hn : n < 256) (h : n ≠ 0xED) (rest : List UInt8) :
    surrogate? (byte n :: rest) = none := by
  have hne : ¬ byte n = byte 0xED := fun heq => h ((byte_inj hn (by decide)).mp heq)
  cases rest with
  | nil => rfl
  | cons b rest =>
      cases rest with
      | nil => rfl
      | cons c rest =>
          have hcond : ¬ ((byte n = byte 0xED && (0xA0 ≤ b && b ≤ 0xBF) && isTail c) = true) := by
            simp only [Bool.and_eq_true, decide_eq_true_eq]
            exact fun hall => hne hall.1.1
          exact if_neg hcond

/-- A code point that a text starts with and that no surrogate form hides. -/
theorem decodeGeneral_of_point {a : UInt8} (rest : List UInt8) {more : List UInt8}
    {value : Nat} (hnone : surrogate? (a :: rest ++ more) = none)
    (hpoint : point a (rest ++ more) = .ok (value, rest.length)) :
    decodeGeneral (a :: rest ++ more) =
      (decodeGeneral more).map (CodePoint.ofNat value :: ·) := by
  rw [List.cons_append] at hnone ⊢
  rw [decodeGeneral, hnone, hpoint]
  dsimp only
  rw [List.drop_left]
  cases decodeGeneral more <;> rfl

/-- The three-byte form of a code point that is no surrogate. -/
theorem point_three {n : Nat} (h : 0x800 ≤ n) (hn : n < 0x10000)
    (hs : ¬ (0xD800 ≤ n ∧ n < 0xE000)) (more : List UInt8) :
    point (byte (0xE0 + n / 4096))
      ([byte (0x80 + n / 64 % 64), byte (0x80 + n % 64)] ++ more) = .ok (n, 2) := by
  rw [point_byte (by omega), if_neg (by omega), if_neg (by omega), if_neg (by omega)]
  simp only [List.cons_append, List.nil_append]
  by_cases he0 : 0xE0 + n / 4096 = 0xE0
  · rw [if_pos he0, tails_byte (by omega) (by omega) (by decide),
      tails_byte (by omega) (by omega) (by decide), tails]
    congr 2
    omega
  · rw [if_neg he0]
    by_cases hed : 0xE0 + n / 4096 = 0xED
    · rw [if_pos hed, tails_byte (by omega) (by omega) (by decide),
        tails_byte (by omega) (by omega) (by decide), tails]
      congr 2
      omega
    · rw [if_neg hed, tails_byte (by omega) (by omega) (by decide),
        tails_byte (by omega) (by omega) (by decide), tails]
      congr 2
      omega

/-- The three-byte form of a surrogate. -/
theorem decodeGeneral_surrogate {n : Nat} (h : 0xD800 ≤ n) (hn : n < 0xE000)
    (more : List UInt8) :
    decodeGeneral ([byte (0xE0 + n / 4096), byte (0x80 + n / 64 % 64), byte (0x80 + n % 64)] ++
        more) = (decodeGeneral more).map (CodePoint.ofNat n :: ·) := by
  have hsurrogate : surrogate? (byte (0xE0 + n / 4096) :: byte (0x80 + n / 64 % 64) ::
      byte (0x80 + n % 64) :: more) = some n := by
    have hcond : (byte (0xE0 + n / 4096) = byte 0xED &&
        (byte 0xA0 ≤ byte (0x80 + n / 64 % 64) && byte (0x80 + n / 64 % 64) ≤ byte 0xBF) &&
        (byte 0x80 ≤ byte (0x80 + n % 64) && byte (0x80 + n % 64) ≤ byte 0xBF)) = true := by
      simp only [Bool.and_eq_true, decide_eq_true_eq]
      rw [byte_inj (by omega) (by decide), byte_le_byte (by decide) (by omega),
        byte_le_byte (by omega) (by decide), byte_le_byte (by decide) (by omega),
        byte_le_byte (by omega) (by decide)]
      omega
    refine (if_pos hcond).trans (congrArg some ?_)
    rw [toNat_byte (by omega), toNat_byte (by omega)]
    omega
  simp only [List.cons_append, List.nil_append]
  rw [decodeGeneral, hsurrogate]
  show (do let rest ← decodeGeneral more; pure (CodePoint.ofNat n :: rest)) = _
  cases decodeGeneral more <;> rfl

end Utf8

namespace ModifiedUtf8

open Utf8

/-- The bytes of a unit in which U+0000 is a zero byte. -/
def plainUnit (u : UInt16) : List UInt8 := if u.toNat = 0 then [byte 0] else encodeUnit u

/-- A unit as a code point. -/
def unitPoint (u : UInt16) : CodePoint := CodePoint.ofNat u.toNat

/-- A unit is read as one code point, a surrogate included. -/
theorem decodeGeneral_plainUnit (u : UInt16) (more : List UInt8) :
    decodeGeneral (plainUnit u ++ more) = (decodeGeneral more).map (unitPoint u :: ·) := by
  have hu : u.toNat < 0x10000 := u.toNat_lt
  unfold plainUnit encodeUnit unitPoint
  generalize u.toNat = n at hu ⊢
  dsimp only
  by_cases h0 : n = 0
  · subst h0
    exact decodeGeneral_of_point [] (surrogate?_of_ne (by decide) (by decide) _)
      (point_byte (by decide) _)
  rw [if_neg h0, if_neg h0]
  by_cases h1 : n < 0x80
  · rw [if_pos h1]
    refine decodeGeneral_of_point [] (surrogate?_of_ne (by omega) (by omega) _) ?_
    rw [point_byte (by omega), if_pos h1]
    rfl
  rw [if_neg h1]
  by_cases h2 : n < 0x800
  · rw [if_pos h2]
    refine decodeGeneral_of_point [_] (surrogate?_of_ne (by omega) (by omega) _) ?_
    rw [point_byte (by omega), if_neg (by omega), if_neg (by omega), if_pos (by omega),
      List.singleton_append, tails_byte (by omega) (by omega) (by decide), tails]
    congr 2
    omega
  rw [if_neg h2]
  by_cases hs : 0xD800 ≤ n ∧ n < 0xE000
  · exact decodeGeneral_surrogate hs.1 hs.2 more
  refine decodeGeneral_of_point [_, _] ?_ (point_three (by omega) hu hs more)
  by_cases hed : 0xE0 + n / 4096 = 0xED
  · -- only the second byte tells this form from that of a surrogate
    have hcond : ¬ ((byte (0xE0 + n / 4096) = byte 0xED &&
        (byte 0xA0 ≤ byte (0x80 + n / 64 % 64) && byte (0x80 + n / 64 % 64) ≤ byte 0xBF) &&
        isTail (byte (0x80 + n % 64))) = true) := by
      simp only [Bool.and_eq_true, decide_eq_true_eq, not_and]
      intro hall
      have hlow := (byte_le_byte (by decide) (by omega)).mp hall.2.1
      omega
    exact if_neg hcond
  · exact surrogate?_of_ne (by omega) hed _

/-! The escape of U+0000. Its first byte is that of no other form. -/

theorem unescapeZero_cons {n : Nat} (hn : n < 256) (h : n ≠ 0xC0) (rest : List UInt8) :
    unescapeZero (byte n :: rest) = byte n :: unescapeZero rest := by
  rw [unescapeZero]
  intro more heq
  exact absurd ((byte_inj hn (by decide)).mp heq) h

/-- Only the form of U+0000 is rewritten. -/
theorem unescapeZero_encodeUnit (u : UInt16) (rest : List UInt8) :
    unescapeZero (encodeUnit u ++ rest) = plainUnit u ++ unescapeZero rest := by
  have hu : u.toNat < 0x10000 := u.toNat_lt
  unfold plainUnit encodeUnit
  generalize u.toNat = n at hu ⊢
  dsimp only
  by_cases h0 : n = 0
  · subst h0
    rfl
  rw [if_neg h0, if_neg h0]
  by_cases h1 : n < 0x80
  · rw [if_pos h1]
    exact unescapeZero_cons (by omega) (by omega) _
  rw [if_neg h1]
  by_cases h2 : n < 0x800
  · rw [if_pos h2]
    simp only [List.cons_append, List.nil_append]
    rw [unescapeZero_cons (by omega) (by omega), unescapeZero_cons (by omega) (by omega)]
  · rw [if_neg h2]
    simp only [List.cons_append, List.nil_append]
    rw [unescapeZero_cons (by omega) (by omega), unescapeZero_cons (by omega) (by omega),
      unescapeZero_cons (by omega) (by omega)]

theorem unescapeZero_encodeUnits (units : List UInt16) :
    unescapeZero (encodeUnits units) = units.flatMap plainUnit := by
  induction units with
  | nil => rfl
  | cons u units ih =>
      rw [encodeUnits, List.flatMap_cons, List.flatMap_cons, unescapeZero_encodeUnit]
      exact congrArg _ ih

/-- Units are read one by one. -/
theorem decodeGeneral_units (units : List UInt16) :
    decodeGeneral (units.flatMap plainUnit) = .ok (units.map unitPoint) := by
  induction units with
  | nil =>
      rw [List.flatMap_nil, decodeGeneral]
      rfl
  | cons u units ih =>
      rw [List.flatMap_cons, decodeGeneral_plainUnit, ih]
      rfl

theorem decode_encodeUnits (units : List UInt16) :
    decode (encodeUnits units) = .ok (Utf16.join (units.map unitPoint)) := by
  rw [decode, unescapeZero_encodeUnits, decodeGeneral_units]
  rfl

/-- No form holds a zero byte, so the first zero byte behind a string ends it. -/
theorem zero_notMem_encodeUnits (units : List UInt16) : 0 ∉ encodeUnits units := by
  intro hmem
  obtain ⟨u, _, hu⟩ := List.mem_flatMap.mp hmem
  have hlt : u.toNat < 0x10000 := u.toNat_lt
  unfold encodeUnit at hu
  generalize u.toNat = n at hlt hu
  dsimp only at hu
  by_cases h0 : n = 0
  · subst h0
    exact absurd hu (by decide)
  rw [if_neg h0] at hu
  by_cases h1 : n < 0x80
  · rw [if_pos h1, List.mem_singleton] at hu
    exact zero_ne_byte (by omega) (by omega) hu
  rw [if_neg h1] at hu
  by_cases h2 : n < 0x800
  · rw [if_pos h2] at hu
    simp only [List.mem_cons, List.not_mem_nil, or_false] at hu
    rcases hu with hu | hu
    · exact zero_ne_byte (by omega) (by omega) hu
    · exact zero_ne_byte (by omega) (by omega) hu
  · rw [if_neg h2] at hu
    simp only [List.mem_cons, List.not_mem_nil, or_false] at hu
    rcases hu with hu | hu | hu
    · exact zero_ne_byte (by omega) (by omega) hu
    · exact zero_ne_byte (by omega) (by omega) hu
    · exact zero_ne_byte (by omega) (by omega) hu

end ModifiedUtf8

/-! The units of a text. -/

/-- Nowhere in the text does a high surrogate stand before a low one. -/
def Text.IsJoined : Text → Prop
  | c :: d :: rest =>
    ¬ (c.isHighSurrogate = true ∧ d.isLowSurrogate = true) ∧ Text.IsJoined (d :: rest)
  | _ => True

/-- The bytes of a text as string data: the form of each of its 16-bit units. -/
def Text.modifiedUtf8 (t : Text) : List UInt8 :=
  ModifiedUtf8.encodeUnits ((Utf16.units t).map UInt16.ofNat)

theorem CodePoint.ofNat_eq {n : Nat} {c : CodePoint} (h : n = c.val) : CodePoint.ofNat n = c := by
  subst h
  rw [CodePoint.ofNat, dif_pos c.isLt]

namespace Utf16

/-- The units of a text as code points. -/
def points (t : Text) : Text := ((units t).map UInt16.ofNat).map ModifiedUtf8.unitPoint

theorem unitPoint_ofNat {n : Nat} (h : n < 0x10000) :
    ModifiedUtf8.unitPoint (UInt16.ofNat n) = CodePoint.ofNat n := by
  rw [ModifiedUtf8.unitPoint, UInt16.toNat_ofNat']
  exact congrArg _ (Nat.mod_eq_of_lt h)

theorem points_cons_of_lt {c : CodePoint} (h : c.val < 0x10000) (t : Text) :
    points (c :: t) = c :: points t := by
  have hunits : units (c :: t) = c.val :: units t := by
    rw [units, List.flatMap_cons, pointUnits, if_pos h]
    rfl
  rw [points, hunits, List.map_cons, List.map_cons, unitPoint_ofNat h, CodePoint.ofNat_eq rfl]
  rfl

/-- A supplementary code point is taken apart into a pair that joins to it again. -/
theorem points_cons_of_le {c : CodePoint} (h : 0x10000 ≤ c.val) (t : Text) :
    ∃ high low : CodePoint, points (c :: t) = high :: low :: points t ∧
      high.isHighSurrogate = true ∧ low.isLowSurrogate = true ∧ pair high low = c := by
  have hc := c.isLt
  have hunits : units (c :: t) = (0xD800 + (c.val - 0x10000) / 0x400) ::
      (0xDC00 + (c.val - 0x10000) % 0x400) :: units t := by
    rw [units, List.flatMap_cons, pointUnits, if_neg (by omega)]
    rfl
  refine ⟨⟨0xD800 + (c.val - 0x10000) / 0x400, by omega⟩,
    ⟨0xDC00 + (c.val - 0x10000) % 0x400, by omega⟩, ?_, ?_, ?_, ?_⟩
  · rw [points, hunits, List.map_cons, List.map_cons, List.map_cons, List.map_cons,
      unitPoint_ofNat (by omega), unitPoint_ofNat (by omega)]
    rw [CodePoint.ofNat, CodePoint.ofNat, dif_pos, dif_pos]
    rfl
  · simp only [CodePoint.isHighSurrogate, Bool.and_eq_true, decide_eq_true_eq]
    omega
  · simp only [CodePoint.isLowSurrogate, Bool.and_eq_true, decide_eq_true_eq]
    omega
  · refine CodePoint.ofNat_eq ?_
    dsimp only
    omega

theorem join_cons_of_not_pair {c : CodePoint} {p : Text}
    (h : ∀ d rest, p = d :: rest → ¬ (c.isHighSurrogate = true ∧ d.isLowSurrogate = true)) :
    join (c :: p) = c :: join p := by
  cases p with
  | nil => rfl
  | cons d rest =>
      have hd := h d rest rfl
      rw [join, if_neg (by rwa [Bool.and_eq_true])]

theorem join_pair {high low : CodePoint} (hh : high.isHighSurrogate = true)
    (hl : low.isLowSurrogate = true) (p : Text) :
    join (high :: low :: p) = pair high low :: join p := by
  rw [join, hh, hl]
  rfl

/-- The units of a joined text join to the text. -/
theorem join_points {t : Text} (h : t.IsJoined) : join (points t) = t := by
  induction t with
  | nil => rfl
  | cons c t ih =>
      have hrest : Text.IsJoined t := by
        cases t with
        | nil => trivial
        | cons d rest => exact h.2
      by_cases hc : c.val < 0x10000
      · rw [points_cons_of_lt hc, join_cons_of_not_pair, ih hrest]
        -- the first unit of the rest is a low surrogate only if its first code point is one
        intro d p hp
        cases t with
        | nil => cases hp
        | cons e rest =>
            by_cases he : e.val < 0x10000
            · rw [points_cons_of_lt he] at hp
              cases hp
              exact h.1
            · obtain ⟨high, low, hpoints, hhigh, _, _⟩ :=
                points_cons_of_le (Nat.le_of_not_lt he) rest
              rw [hpoints] at hp
              cases hp
              simp only [CodePoint.isHighSurrogate, CodePoint.isLowSurrogate, Bool.and_eq_true,
                decide_eq_true_eq] at hhigh ⊢
              omega
      · obtain ⟨high, low, hpoints, hhigh, hlow, hpair⟩ :=
          points_cons_of_le (Nat.le_of_not_lt hc) t
        rw [hpoints, join_pair hhigh hlow, hpair, ih hrest]

end Utf16

end OatImage
