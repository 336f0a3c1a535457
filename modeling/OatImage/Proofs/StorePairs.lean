import OatImage.KeyValueStore
import OatImage.Proofs.Utf8Strings

/-!
# Pairs of a key-value store

The bytes of a store are pairs, a zero byte behind each key and each value. Bytes fall apart
into such pairs from the front, and what is left over in the end is nothing, a key without its
zero byte or a value without one; so whether they are a store can be told from their last byte
and the number of their zero bytes.

A store that is filled pair by pair has each key once, where it first came up, with the value
that came last.
-/
namespace OatImage.KeyValueStore

/-- Keys and values as bytes. -/
abbrev RawPairs := List (List UInt8 × List UInt8)

/-- The bytes of pairs, each key and each value with a zero byte behind it. -/
def pack (pairs : RawPairs) : List UInt8 :=
  pairs.flatMap fun (key, value) => key ++ 0 :: (value ++ [0])

/-- No key and no value has a zero byte in it. -/
def ZeroFree (pairs : RawPairs) : Prop := ∀ p ∈ pairs, 0 ∉ p.1 ∧ 0 ∉ p.2

instance (pairs : RawPairs) : Decidable (ZeroFree pairs) :=
  inferInstanceAs (Decidable (∀ p ∈ pairs, 0 ∉ p.1 ∧ 0 ∉ p.2))

/-- The strings that bytes are read as. -/
def texts (pairs : RawPairs) : List (String × String) :=
  pairs.map fun (key, value) => (Utf8.decodeReplacing key, Utf8.decodeReplacing value)

/-- The bytes are those of pairs, and of nothing else. -/
def IsPacked (data : List UInt8) : Prop := ∃ pairs, ZeroFree pairs ∧ pack pairs = data

variable {pairs more : RawPairs} {key value data : List UInt8}

theorem pack_cons (key value : List UInt8) (pairs : RawPairs) :
    pack ((key, value) :: pairs) = key ++ 0 :: (value ++ 0 :: pack pairs) := by
  simp only [pack, List.flatMap_cons, List.append_assoc, List.cons_append, List.nil_append]

theorem pack_cons_append (key value : List UInt8) (pairs : RawPairs) (rest : List UInt8) :
    pack ((key, value) :: pairs) ++ rest =
      key ++ 0 :: (value ++ 0 :: (pack pairs ++ rest)) := by
  simp only [pack_cons, List.append_assoc, List.cons_append]

theorem pack_concat (pairs : RawPairs) (key value : List UInt8) :
    pack (pairs ++ [(key, value)]) = pack pairs ++ (key ++ 0 :: value) ++ [0] := by
  simp only [pack, List.flatMap_append, List.flatMap_cons, List.flatMap_nil, List.append_nil,
    List.append_assoc, List.cons_append]

theorem ZeroFree.cons (hkey : 0 ∉ key) (hvalue : 0 ∉ value) (h : ZeroFree pairs) :
    ZeroFree ((key, value) :: pairs) := by
  intro p hp
  rcases List.mem_cons.mp hp with rfl | hp
  · exact ⟨hkey, hvalue⟩
  · exact h p hp

/-- A pair takes two bytes or more. -/
theorem two_mul_length_le_pack (pairs : RawPairs) : 2 * pairs.length ≤ (pack pairs).length := by
  induction pairs with
  | nil => exact Nat.le_refl _
  | cons p pairs ih =>
      rw [pack_cons]
      simp only [List.length_append, List.length_cons]
      omega

theorem count_pack (h : ZeroFree pairs) : (pack pairs).count 0 = 2 * pairs.length := by
  induction pairs with
  | nil => rfl
  | cons p pairs ih =>
      obtain ⟨hkey, hvalue⟩ := h p List.mem_cons_self
      have hrest := ih fun q hq => h q (List.mem_cons_of_mem p hq)
      rw [pack_cons, List.count_append, List.count_cons_self, List.count_append,
        List.count_cons_self, List.count_eq_zero.mpr hkey, List.count_eq_zero.mpr hvalue, hrest,
        List.length_cons]
      omega

/-! How bytes fall apart. -/

/-- What is left over behind the pairs that bytes start with. -/
inductive Splits : List UInt8 → Prop
  | whole {pairs : RawPairs} (h : ZeroFree pairs) : Splits (pack pairs)
  | openKey {pairs : RawPairs} {key : List UInt8} (h : ZeroFree pairs) (hkey : 0 ∉ key)
      (hne : key ≠ []) : Splits (pack pairs ++ key)
  | openValue {pairs : RawPairs} {key value : List UInt8} (h : ZeroFree pairs) (hkey : 0 ∉ key)
      (hvalue : 0 ∉ value) : Splits (pack pairs ++ (key ++ 0 :: value))

theorem Splits.cons (hkey : 0 ∉ key) (hvalue : 0 ∉ value) (h : Splits data) :
    Splits (key ++ 0 :: (value ++ 0 :: data)) := by
  cases h with
  | whole h =>
      rw [← pack_cons]
      exact .whole (h.cons hkey hvalue)
  | openKey h hpart hne =>
      rw [← pack_cons_append]
      exact .openKey (h.cons hkey hvalue) hpart hne
  | openValue h hkey' hvalue' =>
      rw [← pack_cons_append]
      exact .openValue (h.cons hkey hvalue) hkey' hvalue'

theorem splits (data : List UInt8) : Splits data := by
  have hnone : ZeroFree [] := fun p hp => nomatch hp
  by_cases hzero : 0 ∈ data
  · obtain ⟨key, rest, hdata, hkey⟩ := List.eq_append_cons_of_mem hzero
    by_cases hmore : 0 ∈ rest
    · obtain ⟨value, behind, hrest, hvalue⟩ := List.eq_append_cons_of_mem hmore
      have hshort : behind.length < data.length := by
        rw [hdata, hrest]
        simp only [List.length_append, List.length_cons]
        omega
      rw [hdata, hrest]
      exact (splits behind).cons hkey hvalue
    · rw [hdata]
      exact .openValue hnone hkey hmore
  · by_cases hne : data = []
    · rw [hne]
      exact .whole hnone
    · exact .openKey hnone hzero hne
termination_by data.length

theorem getLast?_ne_zero {before part : List UInt8} (hpart : 0 ∉ part) (hne : part ≠ []) :
    (before ++ part).getLast? ≠ some 0 := by
  intro hlast
  rw [List.getLast?_append, List.getLast?_eq_some_getLast hne] at hlast
  have hzero : part.getLast hne = 0 := Option.some.inj hlast
  exact hpart (hzero ▸ List.getLast_mem hne)

/-- The last byte and the number of zero bytes tell whether anything is left over. -/
theorem isPacked_iff :
    IsPacked data ↔ data = [] ∨ (data.getLast? = some 0 ∧ 2 ∣ data.count 0) := by
  constructor
  · rintro ⟨pairs, h, rfl⟩
    rcases List.eq_nil_or_concat pairs with rfl | ⟨before, ⟨key, value⟩, rfl⟩
    · exact .inl rfl
    · refine .inr ⟨?_, by rw [count_pack h]; exact Nat.dvd_mul_right 2 _⟩
      rw [List.concat_eq_append, pack_concat, List.getLast?_concat]
  · intro hdata
    cases splits data with
    | whole h => exact ⟨_, h, rfl⟩
    | openKey h hkey hne =>
        rcases hdata with hnil | ⟨hlast, _⟩
        · exact absurd (List.append_eq_nil_iff.mp hnil).2 hne
        · exact absurd hlast (getLast?_ne_zero hkey hne)
    | @openValue pairs key value h hkey hvalue =>
        rcases hdata with hnil | ⟨hlast, heven⟩
        · exact absurd (List.append_eq_nil_iff.mp (List.append_eq_nil_iff.mp hnil).2).2 (by nofun)
        · by_cases hne : value = []
          · -- the key has its zero byte and the value has none
            rw [hne, List.count_append, List.count_append, List.count_cons_self, count_pack h,
              List.count_eq_zero.mpr hkey] at heven
            simp only [List.count_nil] at heven
            omega
          · have hsplit : pack pairs ++ (key ++ 0 :: value) =
                pack pairs ++ key ++ [0] ++ value := by
              simp only [List.append_assoc, List.cons_append, List.nil_append]
            rw [hsplit] at hlast
            exact absurd hlast (getLast?_ne_zero hvalue hne)

/-! Filling a store. -/

variable {store : KeyValueStore} {done : List (String × String)}

theorem map_fst_set (store : KeyValueStore) (key value : String) :
    (store.set key value).map Prod.fst =
      if key ∈ store.map Prod.fst then store.map Prod.fst else store.map Prod.fst ++ [key] := by
  induction store with
  | nil => rfl
  | cons p store ih =>
      rw [set, List.map_cons]
      by_cases hkey : p.1 = key
      · rw [if_pos hkey, if_pos (hkey ▸ List.mem_cons_self), List.map_cons]
      · have hmem : key ∈ p.1 :: store.map Prod.fst ↔ key ∈ store.map Prod.fst :=
          ⟨fun h => (List.mem_cons.mp h).resolve_left (Ne.symm hkey), List.mem_cons_of_mem _⟩
        rw [if_neg hkey, List.map_cons, ih]
        simp only [hmem]
        split <;> rfl

theorem get?_set (store : KeyValueStore) (key value wanted : String) :
    (store.set key value).get? wanted =
      if wanted = key then some value else store.get? wanted := by
  simp only [get?]
  induction store with
  | nil =>
      rw [set, List.lookup_cons, List.lookup_nil]
      by_cases hw : wanted = key
      · rw [if_pos hw, beq_iff_eq.mpr hw]
      · rw [if_neg hw, beq_eq_false_iff_ne.mpr hw]
  | cons p store ih =>
      rw [set]
      by_cases hkey : p.1 = key
      · rw [if_pos hkey, List.lookup_cons, List.lookup_cons, hkey]
        by_cases hw : wanted = key
        · rw [if_pos hw, beq_iff_eq.mpr hw]
        · rw [if_neg hw, beq_eq_false_iff_ne.mpr hw]
      · rw [if_neg hkey, List.lookup_cons, List.lookup_cons]
        by_cases hw : wanted = p.1
        · have hne : wanted ≠ key := fun heq => hkey (hw.symm.trans heq)
          rw [beq_iff_eq.mpr hw, if_neg hne]
        · rw [beq_eq_false_iff_ne.mpr hw]
          exact ih

/-- The store has the keys of the pairs in the order in which they first come up, and under
each the value of the last pair with the key. -/
structure Binds (store : KeyValueStore) (pairs : List (String × String)) : Prop where
  keys : store.map Prod.fst = (pairs.map Prod.fst).eraseDups
  values : ∀ key, store.get? key = List.lookup key pairs.reverse

theorem Binds.set (h : Binds store done) (key value : String) :
    Binds (store.set key value) (done ++ [(key, value)]) := by
  constructor
  · have hmem : key ∈ store.map Prod.fst ↔ key ∈ done.map Prod.fst := by
      rw [h.keys, List.mem_eraseDups]
    rw [map_fst_set, List.map_append, List.eraseDups_append, ← h.keys]
    simp only [hmem, List.map_cons, List.map_nil, List.removeAll]
    by_cases hin : key ∈ done.map Prod.fst
    · rw [if_pos hin, List.filter_cons_of_neg (by simpa using hin), List.filter_nil,
        List.eraseDups_nil, List.append_nil]
    · rw [if_neg hin, List.filter_cons_of_pos (by simpa using hin), List.filter_nil]
      rfl
  · intro wanted
    rw [get?_set, h.values, List.reverse_append]
    simp only [List.reverse_cons, List.reverse_nil, List.nil_append, List.cons_append,
      List.lookup_cons]
    by_cases hw : wanted = key
    · rw [if_pos hw, beq_iff_eq.mpr hw]
    · rw [if_neg hw, beq_eq_false_iff_ne.mpr hw]

/-- Sets pairs one after the other. -/
def setAll (store : KeyValueStore) (pairs : List (String × String)) : KeyValueStore :=
  pairs.foldl (fun store p => store.set p.1 p.2) store

theorem Binds.setAll (h : Binds store done) (pairs : List (String × String)) :
    Binds (store.setAll pairs) (done ++ pairs) := by
  induction pairs generalizing store done with
  | nil => rwa [List.append_nil]
  | cons p pairs ih =>
      have hrest := ih (h.set p.1 p.2)
      rwa [List.append_assoc] at hrest

theorem binds_setAll (pairs : List (String × String)) : Binds (setAll [] pairs) pairs := by
  have hnone : Binds [] [] := ⟨rfl, fun _ => rfl⟩
  exact hnone.setAll pairs

theorem set_of_notMem {key : String} (h : key ∉ store.map Prod.fst) (value : String) :
    store.set key value = store ++ [(key, value)] := by
  induction store with
  | nil => rfl
  | cons p store ih =>
      have hne : ¬ p.1 = key := fun heq => h (heq ▸ List.mem_cons_self)
      have hrest : key ∉ store.map Prod.fst := fun hin => h (List.mem_cons_of_mem _ hin)
      rw [set, if_neg hne, ih hrest]
      rfl

/-- Pairs with keys of their own are kept as they are. -/
theorem setAll_of_nodup {pairs : List (String × String)}
    (h : ((store ++ pairs).map Prod.fst).Nodup) : store.setAll pairs = store ++ pairs := by
  induction pairs generalizing store with
  | nil => exact (List.append_nil _).symm
  | cons p pairs ih =>
      have hnew : p.1 ∉ store.map Prod.fst := by
        rw [List.map_append] at h
        intro hin
        exact (List.nodup_append.mp h).2.2 p.1 hin p.1 List.mem_cons_self rfl
      have hstep : store.set p.1 p.2 = store ++ [p] := set_of_notMem hnew p.2
      have hsplit : store ++ p :: pairs = store ++ [p] ++ pairs := by
        rw [List.append_assoc, List.singleton_append]
      rw [hsplit] at h ⊢
      rw [← ih h, ← hstep]
      rfl

end OatImage.KeyValueStore
