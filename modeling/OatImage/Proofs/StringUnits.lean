import OatImage.Proofs.Layout
import OatImage.Proofs.ModuleFaults

/-!
# The units of a string

The data of a string holds a sequence of 16-bit units, any sequence: zero, pairs of surrogates
and surrogates that stand alone. The text that is read has exactly these units, each pair as one
code point, so different sequences never read as the same text.

The end of a string is found by a search that answers with the address of the zero byte, and with
a negative number if there is none. So a string is read only if its zero byte does not lie at a
negative address; in a module below the address zero a string counts as unterminated.
-/
namespace OatImage

/-! Pairs are joined and taken apart. -/

theorem Text.isJoined_cons {c : CodePoint} {t : Text} : Text.IsJoined (c :: t) ↔
    (∀ d, t.head? = some d → ¬ (c.isHighSurrogate = true ∧ d.isLowSurrogate = true)) ∧
      t.IsJoined := by
  cases t with
  | nil => exact ⟨fun _ => ⟨nofun, trivial⟩, fun _ => trivial⟩
  | cons d rest =>
      constructor
      · rintro ⟨hpair, hrest⟩
        refine ⟨fun e he => ?_, hrest⟩
        cases he
        exact hpair
      · rintro ⟨hpair, hrest⟩
        exact ⟨hpair d rfl, hrest⟩

theorem CodePoint.val_ofNat {n : Nat} (h : n < 0x110000) : (CodePoint.ofNat n).val = n := by
  rw [CodePoint.ofNat, dif_pos h]

namespace Utf16

variable {high low : CodePoint}

theorem val_pair (hh : high.isHighSurrogate = true) (hl : low.isLowSurrogate = true) :
    (pair high low).val = 0x10000 + (high.val - 0xD800) * 0x400 + (low.val - 0xDC00) := by
  simp only [CodePoint.isHighSurrogate, CodePoint.isLowSurrogate, Bool.and_eq_true,
    decide_eq_true_eq] at hh hl
  rw [pair]
  exact CodePoint.val_ofNat (by omega)

/-- The units of a pair are the surrogates that it was joined from. -/
theorem pointUnits_pair (hh : high.isHighSurrogate = true) (hl : low.isLowSurrogate = true) :
    pointUnits (pair high low) = [high.val, low.val] := by
  have hval := val_pair hh hl
  simp only [CodePoint.isHighSurrogate, CodePoint.isLowSurrogate, Bool.and_eq_true,
    decide_eq_true_eq] at hh hl
  have hhigh : 0xD800 + ((pair high low).val - 0x10000) / 0x400 = high.val := by omega
  have hlow : 0xDC00 + ((pair high low).val - 0x10000) % 0x400 = low.val := by omega
  rw [pointUnits, if_neg (by omega), hhigh, hlow]

theorem units_cons (c : CodePoint) (t : Text) : units (c :: t) = pointUnits c ++ units t :=
  List.flatMap_cons

/-- A joined text has the units that were joined. -/
theorem units_join {p : Text} (h : ∀ c ∈ p, c.val < 0x10000) :
    units (join p) = p.map Fin.val := by
  have hsingle : ∀ c t, (c : CodePoint).val < 0x10000 → units (c :: t) = c.val :: units t := by
    intro c t hc
    rw [units_cons, pointUnits, if_pos hc]
    rfl
  fun_induction join p with
  | case1 => rfl
  | case2 c => exact hsingle c [] (h c List.mem_cons_self)
  | case3 c d rest hpair ih =>
      obtain ⟨hh, hl⟩ := Bool.and_eq_true_iff.mp hpair
      rw [units_cons, pointUnits_pair hh hl,
        ih fun e he => h e (List.mem_cons_of_mem c (List.mem_cons_of_mem d he))]
      rfl
  | case4 c d rest _ ih =>
      rw [hsingle c _ (h c List.mem_cons_self), ih fun e he => h e (List.mem_cons_of_mem c he)]
      rfl

/-- A joined text begins as the text did, or with a pair. -/
theorem head?_join {d e : CodePoint} {rest : Text} (h : (join (d :: rest)).head? = some e) :
    e = d ∨ 0x10000 ≤ e.val := by
  cases rest with
  | nil =>
      cases h
      exact .inl rfl
  | cons c rest =>
      rw [join] at h
      by_cases hpair : (d.isHighSurrogate && c.isLowSurrogate) = true
      · obtain ⟨hh, hl⟩ := Bool.and_eq_true_iff.mp hpair
        rw [if_pos hpair] at h
        have hfirst : pair d c = e := Option.some.inj h
        have hval := val_pair hh hl
        rw [hfirst] at hval
        right
        omega
      · rw [if_neg hpair] at h
        cases h
        exact .inl rfl

/-- No pair is left to be joined. -/
theorem isJoined_join (p : Text) : (join p).IsJoined := by
  fun_induction join p with
  | case1 => trivial
  | case2 => trivial
  | case3 c d rest hpair ih =>
      obtain ⟨hh, hl⟩ := Bool.and_eq_true_iff.mp hpair
      refine Text.isJoined_cons.mpr ⟨fun e _ hsurrogates => ?_, ih⟩
      have hval := val_pair hh hl
      simp only [CodePoint.isHighSurrogate, Bool.and_eq_true, decide_eq_true_eq] at hsurrogates
      omega
  | case4 c d rest hpair ih =>
      refine Text.isJoined_cons.mpr ⟨fun e he hsurrogates => ?_, ih⟩
      rcases head?_join he with rfl | hlarge
      · exact hpair (Bool.and_eq_true_iff.mpr hsurrogates)
      · simp only [CodePoint.isLowSurrogate, Bool.and_eq_true, decide_eq_true_eq] at hsurrogates
        omega

end Utf16

namespace ModifiedUtf8

theorem val_unitPoint (u : UInt16) : (unitPoint u).val = u.toNat := by
  have hu : u.toNat < 0x10000 := u.toNat_lt
  exact CodePoint.val_ofNat (by omega)

/-- The text of any sequence of units has these units, and its pairs are joined. -/
theorem join_unitPoints (us : List UInt16) :
    Utf16.units (Utf16.join (us.map unitPoint)) = us.map UInt16.toNat ∧
      (Utf16.join (us.map unitPoint)).IsJoined := by
  refine ⟨?_, Utf16.isJoined_join _⟩
  rw [Utf16.units_join, List.map_map]
  · exact List.map_congr_left fun u _ => val_unitPoint u
  · intro c hc
    obtain ⟨u, _, rfl⟩ := List.mem_map.mp hc
    rw [val_unitPoint]
    exact u.toNat_lt

end ModifiedUtf8

namespace Dex

open Decode

namespace Module

variable {m : Module}

/-- The data of the string with an index holds a length, in any form, then from the offset
`start` on the forms of the units, then a zero byte. -/
def HoldsUnits (m : Module) (index start : Nat) (us : List UInt16) : Prop :=
  index < m.strings.count ∧ ∃ offset length form,
    Layout.WordAt m.window.contents (m.strings.offset + 4 * index) offset ∧
    IsForm length form ∧ form.length ≤ 5 ∧ offset + form.length = start ∧
    At m.window.contents offset (form ++ (ModifiedUtf8.encodeUnits us ++ [0]))

/-- String data is read up to its zero byte, unless that lies at a negative address. -/
theorem stringData_of_at (hback : m.window.Backed) (hbegin : m.window.begin = m.address)
    {offset length : Nat} {form : List UInt8} (hform : IsForm length form)
    (hshort : form.length ≤ 5) {us : List UInt16}
    (hat : At m.window.contents offset (form ++ (ModifiedUtf8.encodeUnits us ++ [0]))) :
    m.stringData offset =
      if m.address + (offset + form.length : Nat) + (ModifiedUtf8.encodeUnits us).length < 0 then
        .error (.inModule .unterminatedString (m.address + (offset + form.length : Nat)))
      else .ok (Utf16.join (us.map ModifiedUtf8.unitPoint)) := by
  obtain ⟨hlength, hdata⟩ := At.append.mp hat
  have hstart : m.addressOf offset + form.length =
      m.address + ((offset + form.length : Nat) : Int) := by
    rw [addressOf]
    omega
  have huleb : m.uleb128 (m.addressOf offset) =
      .ok (length, m.address + ((offset + form.length : Nat) : Int)) := by
    rw [uleb128, hback.uleb128_of_at hform hshort hlength (by rw [hbegin, addressOf]), hstart]
    rfl
  have hplace : m.address + ((offset + form.length : Nat) : Int) =
      m.window.begin + ((offset + form.length : Nat) : Int) := by
    rw [hbegin]
  have hzero := hback.findByte_of_at hdata (ModifiedUtf8.zero_notMem_encodeUnits us) hplace
  have hread : m.window.readBytes (m.address + ((offset + form.length : Nat) : Int))
      (m.address + ((offset + form.length : Nat) : Int) + (ModifiedUtf8.encodeUnits us).length -
        (m.address + ((offset + form.length : Nat) : Int))) "read" =
          .ok (ModifiedUtf8.encodeUnits us) :=
    hback.readBytes_of_at (At.append.mp hdata).1 hplace (by omega)
  rw [stringData]
  simp only [huleb, ok_bind, hzero]
  by_cases hneg : m.address + ((offset + form.length : Nat) : Int) +
      (ModifiedUtf8.encodeUnits us).length < 0
  · rw [if_pos hneg, if_pos hneg]
  · rw [if_neg hneg, if_neg hneg]
    simp only [hread, ok_bind, ModifiedUtf8.decode_encodeUnits]
    rfl

theorem string_of_holdsUnits (hback : m.window.Backed) (hbegin : m.window.begin = m.address)
    {index start : Nat} {us : List UInt16} (h : m.HoldsUnits index start us) :
    m.string index =
      if m.address + start + (ModifiedUtf8.encodeUnits us).length < 0 then
        .error (.inModule .unterminatedString (m.address + start))
      else .ok (Utf16.join (us.map ModifiedUtf8.unitPoint)) := by
  obtain ⟨hindex, offset, length, form, hoffset, hform, hshort, rfl, hat⟩ := h
  have hhas : m.strings.has index = true := by
    simp only [Table.has, Bool.and_eq_true, decide_eq_true_eq]
    omega
  have hword : m.u32 (m.addressOf (m.strings.offset + (index : Int) * 4)) "string_id" =
      .ok offset := by
    rw [u32, hback.u32_of_at hoffset.2 hoffset.1 (by rw [hbegin, addressOf]; omega)]
    rfl
  rw [string, hhas, hword]
  exact stringData_of_at hback hbegin hform hshort hat

/-- The strings of a module read as the units that their data holds. -/
structure ReadsUnits (m : Module) : Prop where
  /-- A string whose zero byte lies at no negative address is a text with exactly these units, in
  which pairs are joined and no other surrogate is changed. -/
  text : ∀ index start us, m.HoldsUnits index start us →
    0 ≤ m.address + start + (ModifiedUtf8.encodeUnits us).length →
      ∃ t, m.string index = .ok t ∧ Utf16.units t = us.map UInt16.toNat ∧ t.IsJoined
  /-- A zero byte at a negative address is not seen. -/
  hidden : ∀ index start us, m.HoldsUnits index start us →
    m.address + start + (ModifiedUtf8.encodeUnits us).length < 0 →
      m.string index = .error (.inModule .unterminatedString (m.address + start))

theorem units_of_string (hback : m.window.Backed) (hbegin : m.window.begin = m.address)
    {index start : Nat} {us : List UInt16} {t : Text} (h : m.HoldsUnits index start us)
    (ht : m.string index = .ok t) : Utf16.units t = us.map UInt16.toNat := by
  rw [string_of_holdsUnits hback hbegin h] at ht
  split at ht
  · cases ht
  · cases ht
    exact (ModifiedUtf8.join_unitPoints us).1

/-- In every module that opens, at any address, a string reads as its units if its zero byte is
seen, and different units never read as the same text, be it in one module or in two. -/
theorem load_readsUnits {r : Region} {address : Int} (h : load r address = .ok m) :
    m.ReadsUnits ∧
      ∀ (r' : Region) (address' : Int) (m' : Module), load r' address' = .ok m' →
        ∀ i j start start' us vs t, m.HoldsUnits i start us → m'.HoldsUnits j start' vs →
          m.string i = .ok t → m'.string j = .ok t → us = vs := by
  obtain ⟨hback, hbegin, _⟩ := backed_of_load h
  refine ⟨⟨fun index start us hus hnonneg => ?_, fun index start us hus hneg => ?_⟩, ?_⟩
  · rw [string_of_holdsUnits hback hbegin hus, if_neg (Int.not_lt.mpr hnonneg)]
    exact ⟨_, rfl, ModifiedUtf8.join_unitPoints us⟩
  · rw [string_of_holdsUnits hback hbegin hus, if_pos hneg]
  · intro r' address' m' h' i j start start' us vs t hus hvs hi hj
    obtain ⟨hback', hbegin', _⟩ := backed_of_load h'
    have hsame : us.map UInt16.toNat = vs.map UInt16.toNat :=
      (units_of_string hback hbegin hus hi).symm.trans (units_of_string hback' hbegin' hvs hj)
    exact List.map_injective_iff.mpr (fun _ _ => UInt16.toNat_inj.mp) hsame

/-- A zero, a pair and a low surrogate alone. -/
def mixedUnits : List UInt16 := [0, 0xD83D, 0xDE00, 0xDC00]

/-- A module of 130 bytes with one string of these units, whose length is not in its shortest
form. -/
def mixedModule : List UInt8 :=
  magicBytes ++ [0x30, 0x33, 0x35, 0] ++ List.replicate 24 0 ++ wordBytes [130, 112, endianTag] ++
    List.replicate 12 0 ++ wordBytes [1, 112, 0, 0, 0, 0, 0, 0, 0, 0, 0, 0] ++
    List.replicate 8 0 ++ wordBytes [116] ++ [0x84, 0] ++ ModifiedUtf8.encodeUnits mixedUnits ++ [0]

/-- The module alone, at an address. -/
def mixedRegion (begin : Int) : Region := ⟨⟨mixedModule.toArray⟩, begin, begin + 130⟩

theorem mixedRegion_load (begin : Int) (hlies : LiesAt (mixedRegion begin) begin mixedModule)
    (h : (ofWindow (.listed begin mixedModule) begin).toOption.any
      (fun m => decide (m.strings = ⟨1, 112⟩)) = true) :
    ∃ m, load (mixedRegion begin) begin = .ok m ∧ m.address = begin ∧
      m.HoldsUnits 0 118 mixedUnits := by
  obtain ⟨m, hm, hcontents, hp⟩ := hlies.exists_load h
  have hstrings : m.strings = ⟨1, 112⟩ := of_decide_eq_true hp
  have hform : IsForm ((0x84 : UInt8).toNat % 128 + 128 * (0 : UInt8).toNat) [0x84, 0] :=
    .more (by decide) (.last (by decide))
  refine ⟨m, hm, (backed_of_load hm).2.2, ?_⟩
  rw [HoldsUnits, hstrings, hcontents]
  exact ⟨by decide, 116, _, _, ⟨by decide, by decide +kernel⟩, hform, by decide, rfl,
    by decide +kernel⟩

/-- Above the address zero the string is read, and below it is not. -/
theorem load_readsUnits_mixedModule :
    (∃ m, load (mixedRegion 4096) 4096 = .ok m ∧ m.HoldsUnits 0 118 mixedUnits ∧
      ∃ t, m.string 0 = .ok t ∧ Utf16.units t = [0, 0xD83D, 0xDE00, 0xDC00] ∧ t.IsJoined) ∧
    ∃ m, load (mixedRegion (-4096)) (-4096) = .ok m ∧ m.HoldsUnits 0 118 mixedUnits ∧
      m.string 0 = .error (.inModule .unterminatedString (-3978)) := by
  constructor
  · obtain ⟨m, hm, haddress, hus⟩ := mixedRegion_load 4096 (by decide +kernel)
      (by decide +kernel)
    have hnonneg : 0 ≤ m.address + (118 : Nat) + (ModifiedUtf8.encodeUnits mixedUnits).length := by
      rw [haddress]
      decide
    exact ⟨m, hm, hus, (load_readsUnits hm).1.text 0 118 _ hus hnonneg⟩
  · obtain ⟨m, hm, haddress, hus⟩ := mixedRegion_load (-4096) (by decide +kernel)
      (by decide +kernel)
    have hneg : m.address + (118 : Nat) + (ModifiedUtf8.encodeUnits mixedUnits).length < 0 := by
      rw [haddress]
      decide
    have hhidden := (load_readsUnits hm).1.hidden 0 118 _ hus hneg
    rw [haddress] at hhidden
    exact ⟨m, hm, hus, hhidden⟩

end Module

end Dex

end OatImage
