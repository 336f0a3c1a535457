import OatImage.Proofs.Reads
import OatImage.Proofs.StringData

/-!
# Strings in UTF-8

The UTF-8 form of a string has no broken sequence, so a reader that replaces broken sequences
replaces nothing in it and gives the string back. The form has a zero byte only where the
string has U+0000, which is why zero bytes can end the strings of a sequence.
-/
namespace OatImage.Utf8

/-- From 0xF0 on the first byte calls for three more. -/
theorem point_byte_of_le {n : Nat} (h : 0xF0 ≤ n) (hn : n < 0xF5) (rest : List UInt8) :
    point (byte n) rest =
      if n = 0xF0 then tails 3 (byte 0x90) (byte 0xBF) 0 0 rest
      else if n < 0xF4 then tails 3 (byte 0x80) (byte 0xBF) (n % 8) 0 rest
      else tails 3 (byte 0x80) (byte 0x8F) 4 0 rest := by
  have hcases : n = 0xF0 ∨ n = 0xF1 ∨ n = 0xF2 ∨ n = 0xF3 ∨ n = 0xF4 := by omega
  rcases hcases with rfl | rfl | rfl | rfl | rfl <;> rfl

/-- Three more bytes of six bits each. -/
theorem tails_three {low high a b c : Nat} (hlow : low ≤ 0x80 + a) (hhigh : 0x80 + a ≤ high)
    (h : high < 0xC0) (hb : b < 64) (hc : c < 64) (value : Nat) (more : List UInt8) :
    tails 3 (byte low) (byte high) value 0
      ([byte (0x80 + a), byte (0x80 + b), byte (0x80 + c)] ++ more) =
        .ok (((value * 64 + a) * 64 + b) * 64 + c, 3) := by
  have hdigit : ∀ n < 64, (0x80 + n) % 64 = n := by omega
  rw [List.cons_append, tails_byte hlow hhigh (by omega), List.cons_append,
    tails_byte (by omega) (by omega) (by decide), List.cons_append,
    tails_byte (by omega) (by omega) (by decide), tails, hdigit a (by omega), hdigit b hb,
    hdigit c hc]

/-- The four-byte form of a code point. -/
theorem point_four {n : Nat} (h : 0x10000 ≤ n) (hn : n < 0x110000) (more : List UInt8) :
    point (byte (0xF0 + n / 262144))
      ([byte (0x80 + n / 4096 % 64), byte (0x80 + n / 64 % 64), byte (0x80 + n % 64)] ++ more) =
        .ok (n, 3) := by
  have hdigits : ((n / 262144 * 64 + n / 4096 % 64) * 64 + n / 64 % 64) * 64 + n % 64 = n := by
    omega
  rw [point_byte_of_le (by omega) (by omega)]
  by_cases hf0 : 0xF0 + n / 262144 = 0xF0
  · have hlead : n / 262144 = 0 := by omega
    rw [if_pos hf0, tails_three (by omega) (by omega) (by decide) (by omega) (by omega), ← hlead,
      hdigits]
  rw [if_neg hf0]
  by_cases hf4 : 0xF0 + n / 262144 < 0xF4
  · have hlead : (0xF0 + n / 262144) % 8 = n / 262144 := by omega
    rw [if_pos hf4, tails_three (by omega) (by omega) (by decide) (by omega) (by omega), hlead,
      hdigits]
  · have hlead : n / 262144 = 4 := by omega
    rw [if_neg hf4, tails_three (by omega) (by omega) (by decide) (by omega) (by omega), ← hlead,
      hdigits]

theorem not_surrogate_of_char (c : Char) : ¬ (0xD800 ≤ c.toNat ∧ c.toNat < 0xE000) := by
  have hvalid : c.toNat.isValidChar := c.valid
  unfold Nat.isValidChar at hvalid
  omega

theorem toNat_lt_of_char (c : Char) : c.toNat < 0x110000 := (CodePoint.ofChar c).isLt

/-- The library's form of a character is the shortest encoding of its code point. -/
theorem utf8EncodeChar_eq (c : Char) :
    String.utf8EncodeChar c = encodePoint (CodePoint.ofChar c) := by
  have hlt := toNat_lt_of_char c
  have hval : (CodePoint.ofChar c).val = c.toNat := rfl
  have hnat : c.val.toNat = c.toNat := rfl
  unfold String.utf8EncodeChar encodePoint byte
  rw [hval, hnat]
  generalize c.toNat = n at hlt
  dsimp only
  by_cases h1 : n < 0x80
  · rw [if_pos h1, if_pos (by omega)]
  rw [if_neg h1, if_neg (by omega)]
  by_cases h2 : n < 0x800
  · rw [if_pos h2, if_pos (by omega), Nat.add_comm 0xC0, Nat.add_comm 0x80,
      Nat.mod_eq_of_lt (by omega : n / 64 < 32)]
  rw [if_neg h2, if_neg (by omega)]
  by_cases h3 : n < 0x10000
  · rw [if_pos h3, if_pos (by omega), Nat.add_comm 0xE0, Nat.add_comm 0x80, Nat.add_comm 0x80,
      Nat.mod_eq_of_lt (by omega : n / 4096 < 16)]
  rw [if_neg h3, if_neg (by omega), Nat.add_comm 0xF0, Nat.add_comm 0x80, Nat.add_comm 0x80,
    Nat.add_comm 0x80, Nat.mod_eq_of_lt (by omega : n / 262144 < 8)]

/-- A sequence that is not broken is read as its character. -/
theorem replacing_of_point {a : UInt8} (rest : List UInt8) {more : List UInt8} {c : Char}
    (hpoint : point a (rest ++ more) = .ok (c.toNat, rest.length)) :
    replacing (a :: rest ++ more) = c :: replacing more := by
  rw [List.cons_append, replacing, hpoint]
  dsimp only
  rw [List.drop_left, Char.ofNat_toNat]

theorem replacing_utf8EncodeChar (c : Char) (more : List UInt8) :
    replacing (String.utf8EncodeChar c ++ more) = c :: replacing more := by
  have hlt := toNat_lt_of_char c
  have hscalar := not_surrogate_of_char c
  have hval : (CodePoint.ofChar c).val = c.toNat := rfl
  rw [utf8EncodeChar_eq, encodePoint, hval]
  by_cases h1 : c.toNat < 0x80
  · rw [if_pos h1]
    refine replacing_of_point [] ?_
    rw [point_byte (by omega), if_pos h1]
    rfl
  rw [if_neg h1]
  by_cases h2 : c.toNat < 0x800
  · rw [if_pos h2]
    refine replacing_of_point [_] ?_
    rw [point_byte (by omega), if_neg (by omega), if_neg (by omega), if_pos (by omega),
      List.singleton_append, tails_byte (by omega) (by omega) (by decide), tails]
    congr 2
    omega
  rw [if_neg h2]
  by_cases h3 : c.toNat < 0x10000
  · rw [if_pos h3]
    exact replacing_of_point [_, _] (point_three (by omega) h3 hscalar more)
  · rw [if_neg h3]
    exact replacing_of_point [_, _, _] (point_four (by omega) hlt more)

theorem replacing_flatMap (chars : List Char) :
    replacing (chars.flatMap String.utf8EncodeChar) = chars := by
  induction chars with
  | nil => rw [List.flatMap_nil, replacing]
  | cons c chars ih => rw [List.flatMap_cons, replacing_utf8EncodeChar, ih]

theorem toList_toUTF8 (s : String) :
    s.toUTF8.toList = s.toList.flatMap String.utf8EncodeChar := by
  have hbytes : s.toUTF8 = s.toList.utf8Encode := String.utf8Encode_toList.symm
  rw [toList_eq, hbytes, List.utf8Encode, List.toList_data_toByteArray]

/-- A string is read back from its form. -/
theorem decodeReplacing_toUTF8 (s : String) : decodeReplacing s.toUTF8.toList = s := by
  rw [decodeReplacing, toList_toUTF8, replacing_flatMap, String.ofList_toList]

/-- Only the form of U+0000 has a zero byte. -/
theorem zero_notMem_utf8EncodeChar {c : Char} (h : c ≠ '\x00') :
    0 ∉ String.utf8EncodeChar c := by
  have hlt := toNat_lt_of_char c
  have hpos : 0 < c.toNat := by
    refine Nat.pos_of_ne_zero fun hzero => h ?_
    rw [← Char.ofNat_toNat c, hzero]
  have hval : (CodePoint.ofChar c).val = c.toNat := rfl
  rw [utf8EncodeChar_eq, encodePoint, hval]
  by_cases h1 : c.toNat < 0x80
  · rw [if_pos h1, List.mem_singleton]
    exact zero_ne_byte hpos (by omega)
  rw [if_neg h1]
  -- every byte of a longer form has its top bit set
  by_cases h2 : c.toNat < 0x800
  · rw [if_pos h2]
    simp only [List.mem_cons, List.not_mem_nil, or_false, not_or]
    exact ⟨zero_ne_byte (by omega) (by omega), zero_ne_byte (by omega) (by omega)⟩
  rw [if_neg h2]
  by_cases h3 : c.toNat < 0x10000
  · rw [if_pos h3]
    simp only [List.mem_cons, List.not_mem_nil, or_false, not_or]
    exact ⟨zero_ne_byte (by omega) (by omega), zero_ne_byte (by omega) (by omega),
      zero_ne_byte (by omega) (by omega)⟩
  · rw [if_neg h3]
    simp only [List.mem_cons, List.not_mem_nil, or_false, not_or]
    exact ⟨zero_ne_byte (by omega) (by omega), zero_ne_byte (by omega) (by omega),
      zero_ne_byte (by omega) (by omega), zero_ne_byte (by omega) (by omega)⟩

/-- A string without U+0000 has a form without zero bytes. -/
theorem zero_notMem_toUTF8 {s : String} (h : '\x00' ∉ s.toList) : 0 ∉ s.toUTF8.toList := by
  rw [toList_toUTF8]
  intro hmem
  obtain ⟨c, hc, hzero⟩ := List.mem_flatMap.mp hmem
  exact zero_notMem_utf8EncodeChar (fun heq => h (heq ▸ hc)) hzero

end OatImage.Utf8
