import OatImage.Proofs.ExactReads
import OatImage.Proofs.ImageFaults
import OatImage.Proofs.StorePairs

/-!
# Reading key-value stores

The reader of a store is a loop. Each turn searches for the zero byte behind a key and for the
one behind its value, no further than the end of the store, and goes on behind the two. So a
turn takes two bytes or more, and the loop ends. It answers exactly if the bytes of the store
are pairs, with a store that is filled pair by pair; whatever else the bytes are, the search
that finds no zero byte is the failure.
-/
namespace OatImage

open Decode

namespace Region

variable {r : Region} {address : Int} {value : UInt8} {part rest : List UInt8}

/-- A search among other bytes finds nothing. -/
theorem seek_eq_none_of_at {o : Nat} (h : At r.contents o part) (hmem : value ∉ part) :
    r.seek value o part.length = none := by
  induction part generalizing o with
  | nil => rfl
  | cons b part ih =>
      have hne : ¬ b = value := fun heq => hmem (heq ▸ List.mem_cons_self)
      have hrest := ih (At.cons.mp h).2 fun hin => hmem (List.mem_cons_of_mem b hin)
      rw [List.length_cons, seek, byte_of_at h]
      show (if b = value then _ else _) = _
      rw [if_neg hne, hrest]

/-- A search up to the end of some bytes finds the first one of the value. -/
theorem Backed.findByte_of_bears (hr : r.Backed) (h : r.Bears address (part ++ value :: rest))
    (hmem : value ∉ part) {limit : Int}
    (hlimit : limit = address + (part ++ value :: rest).length) :
    r.findByte address value limit = address + part.length := by
  have hbegin := h.begin_le
  have hstop := h.le_stop
  have haddress := h.address_eq
  have hsplit : part ++ value :: rest = part ++ [value] ++ rest := by
    rw [List.append_assoc, List.singleton_append]
  have hat : At r.contents (r.offset address) (part ++ [value]) := by
    rw [hsplit] at h
    exact hr.at_of_bears (bears_append.mp h).1
  have hlength : (part ++ value :: rest).length = part.length + (rest.length + 1) := by
    rw [List.length_append, List.length_cons]
  have hcovers : r.covers address limit = true := by
    simp only [covers, Bool.and_eq_true, decide_eq_true_eq]
    omega
  have hcount : part.length < (min limit r.stop - address).toNat := by omega
  rw [findByte, if_pos hcovers, seek_of_at hat hmem hcount]
  dsimp only
  omega

/-- A search among other bytes answers -1. -/
theorem Backed.findByte_eq_neg_one (hr : r.Backed) (h : r.Bears address part)
    (hmem : value ∉ part) {limit : Int} (hlimit : limit = address + part.length) :
    r.findByte address value limit = -1 := by
  have hstop := h.le_stop
  have hcount : (min limit r.stop - address).toNat = part.length := by omega
  rw [findByte, hcount, seek_eq_none_of_at (hr.at_of_bears h) hmem]
  exact ite_self _

end Region

namespace KeyValueStore

open Utf8

variable {r : Region} {limit cursor start size : Int} {store : KeyValueStore}
  {pairs : RawPairs} {key value data rest : List UInt8}

/-! One turn of the loop. -/

/-- What the loop does at a cursor before the limit: where the cursor goes, and the store with
one more pair set. -/
def turn (r : Region) (limit cursor : Int) (store : KeyValueStore) :
    Decode (Int × KeyValueStore) :=
  let keyEnd := r.findByte cursor 0 limit
  if keyEnd < 0 then .error (.inImage .unterminatedKey cursor)
  else
    let valueEnd := r.findByte (keyEnd + 1) 0 limit
    if valueEnd < 0 then .error (.inImage .unterminatedValue (keyEnd + 1))
    else do
      let key ← r.readBytes cursor (keyEnd - cursor) "read"
      let value ← r.readBytes (keyEnd + 1) (valueEnd - keyEnd - 1) "read"
      pure (valueEnd + 1, store.set (decodeReplacing key) (decodeReplacing value))

theorem readFrom_succ (r : Region) (limit : Int) (steps : Nat) (cursor : Int)
    (store : KeyValueStore) : readFrom r limit (steps + 1) cursor store =
      if limit ≤ cursor then .ok store
      else turn r limit cursor store >>= fun (next, more) => readFrom r limit steps next more := by
  rw [readFrom, turn]
  by_cases hend : limit ≤ cursor
  · rw [if_pos hend, if_pos hend]
  rw [if_neg hend, if_neg hend]
  dsimp only
  by_cases hkey : r.findByte cursor 0 limit < 0
  · rw [if_pos hkey, if_pos hkey]
    rfl
  rw [if_neg hkey, if_neg hkey]
  by_cases hvalue : r.findByte (r.findByte cursor 0 limit + 1) 0 limit < 0
  · rw [if_pos hvalue, if_pos hvalue]
    rfl
  · rw [if_neg hvalue, if_neg hvalue]
    simp only [bind_assoc, pure_bind]

/-- A turn takes two bytes or more and does not pass the limit. -/
theorem turn_advances {next : Int} {more : KeyValueStore}
    (h : turn r limit cursor store = .ok (next, more)) : cursor + 2 ≤ next ∧ next ≤ limit := by
  rw [turn] at h
  dsimp only at h
  by_cases hkey : r.findByte cursor 0 limit < 0
  · rw [if_pos hkey] at h
    cases h
  rw [if_neg hkey] at h
  by_cases hvalue : r.findByte (r.findByte cursor 0 limit + 1) 0 limit < 0
  · rw [if_pos hvalue] at h
    cases h
  rw [if_neg hvalue] at h
  obtain ⟨_, _, h⟩ := bind_eq_ok.mp h
  obtain ⟨_, _, h⟩ := bind_eq_ok.mp h
  cases h
  have hfirst := Region.findByte_range (Int.not_lt.mp hkey)
  have hsecond := Region.findByte_range (Int.not_lt.mp hvalue)
  omega

/-- A turn at a pair sets the pair and goes behind it. -/
theorem turn_pair (hr : r.Backed) (hbegin : 0 ≤ r.begin) (hkey : 0 ∉ key) (hvalue : 0 ∉ value)
    (h : r.Bears cursor (key ++ 0 :: (value ++ 0 :: rest)))
    (hlimit : limit = cursor + (key ++ 0 :: (value ++ 0 :: rest)).length)
    (store : KeyValueStore) : turn r limit cursor store =
      .ok (cursor + key.length + value.length + 2,
        store.set (decodeReplacing key) (decodeReplacing value)) := by
  have hcursor := h.begin_le
  have hkeyEnd := hr.findByte_of_bears h hkey hlimit
  obtain ⟨hkeyBytes, hbehind⟩ := Region.bears_append.mp h
  obtain ⟨-, hbehind⟩ := Region.bears_append.mp (List.singleton_append ▸ hbehind :
    r.Bears (cursor + key.length) ([0] ++ (value ++ 0 :: rest)))
  have hlimit' : limit = cursor + key.length + [(0 : UInt8)].length +
      (value ++ 0 :: rest).length := by
    rw [hlimit, List.length_append, List.length_cons, List.length_singleton]
    omega
  have hvalueEnd := hr.findByte_of_bears hbehind hvalue hlimit'
  obtain ⟨hvalueBytes, -⟩ := Region.bears_append.mp hbehind
  have hreadKey : r.readBytes cursor (cursor + key.length - cursor) "read" = .ok key :=
    hr.readBytes_eq_ok_iff.mpr ⟨by omega, hkeyBytes⟩
  rw [List.length_singleton, Int.natCast_one] at hvalueEnd hvalueBytes
  have hreadValue : r.readBytes (cursor + key.length + 1)
      (cursor + key.length + 1 + value.length - (cursor + key.length) - 1) "read" = .ok value :=
    hr.readBytes_eq_ok_iff.mpr ⟨by omega, hvalueBytes⟩
  have hnext : cursor + key.length + 1 + value.length + 1 =
      cursor + key.length + value.length + 2 := by omega
  rw [turn, hkeyEnd]
  dsimp only
  rw [if_neg (by omega), hvalueEnd, if_neg (by omega), hreadKey, ok_bind, hreadValue, ok_bind,
    hnext]
  rfl

/-- A turn at a key without a zero byte behind it fails. -/
theorem turn_openKey (hr : r.Backed) (h : r.Bears cursor key) (hkey : 0 ∉ key)
    (hlimit : limit = cursor + key.length) (store : KeyValueStore) :
    turn r limit cursor store = .error (.inImage .unterminatedKey cursor) := by
  rw [turn, hr.findByte_eq_neg_one h hkey hlimit]
  rfl

/-- So does a turn at a value without one. -/
theorem turn_openValue (hr : r.Backed) (hbegin : 0 ≤ r.begin) (hkey : 0 ∉ key)
    (hvalue : 0 ∉ value) (h : r.Bears cursor (key ++ 0 :: value))
    (hlimit : limit = cursor + (key ++ 0 :: value).length) (store : KeyValueStore) :
    turn r limit cursor store =
      .error (.inImage .unterminatedValue (cursor + key.length + 1)) := by
  have hcursor := h.begin_le
  have hkeyEnd := hr.findByte_of_bears h hkey hlimit
  obtain ⟨-, hbehind⟩ := Region.bears_append.mp h
  obtain ⟨-, hbehind⟩ := Region.bears_append.mp (List.singleton_append ▸ hbehind :
    r.Bears (cursor + key.length) ([0] ++ value))
  rw [List.length_singleton, Int.natCast_one] at hbehind
  have hvalueEnd : r.findByte (cursor + key.length + 1) 0 limit = -1 :=
    hr.findByte_eq_neg_one hbehind hvalue (by
      rw [hlimit, List.length_append, List.length_cons]
      omega)
  rw [turn, hkeyEnd]
  dsimp only
  rw [if_neg (by omega), hvalueEnd]
  rfl

/-! The loop. -/

/-- What the loop comes to from a cursor on, turn after turn up to the limit or the first
failure. The number is that of the turns that set a pair. -/
inductive Loops (r : Region) (limit : Int) :
    Nat → Int → KeyValueStore → Decode KeyValueStore → Prop
  | ended {cursor : Int} {store : KeyValueStore} (h : limit ≤ cursor) :
      Loops r limit 0 cursor store (.ok store)
  | failed {cursor : Int} {store : KeyValueStore} {e : Fault} (h : cursor < limit)
      (hturn : turn r limit cursor store = .error e) : Loops r limit 0 cursor store (.error e)
  | turned {turns : Nat} {cursor next : Int} {store more : KeyValueStore}
      {result : Decode KeyValueStore} (h : cursor < limit)
      (hturn : turn r limit cursor store = .ok (next, more))
      (hrest : Loops r limit turns next more result) :
      Loops r limit (turns + 1) cursor store result

theorem Loops.unique {turns turns' : Nat} {result result' : Decode KeyValueStore}
    (h : Loops r limit turns cursor store result)
    (h' : Loops r limit turns' cursor store result') : turns = turns' ∧ result = result' := by
  induction h generalizing turns' with
  | ended h =>
      cases h' with
      | ended => exact ⟨rfl, rfl⟩
      | failed h' => exact absurd h (Int.not_le.mpr h')
      | turned h' => exact absurd h (Int.not_le.mpr h')
  | failed h hturn =>
      cases h' with
      | ended h' => exact absurd h' (Int.not_le.mpr h)
      | failed _ hturn' =>
          cases hturn.symm.trans hturn'
          exact ⟨rfl, rfl⟩
      | turned _ hturn' => exact nomatch hturn.symm.trans hturn'
  | turned h hturn hrest ih =>
      cases h' with
      | ended h' => exact absurd h' (Int.not_le.mpr h)
      | failed _ hturn' => exact nomatch hturn.symm.trans hturn'
      | turned _ hturn' hrest' =>
          cases hturn.symm.trans hturn'
          obtain ⟨hturns, hresult⟩ := ih hrest'
          exact ⟨congrArg (· + 1) hturns, hresult⟩

/-- The loop ends, since every turn takes two bytes or more; as many steps as there are bytes
are never used up. -/
theorem exists_loops_readFrom (r : Region) {steps : Nat} (hsteps : limit - cursor ≤ steps)
    (store : KeyValueStore) : ∃ turns : Nat, 2 * turns ≤ (limit - cursor).toNat ∧
      Loops r limit turns cursor store (readFrom r limit steps cursor store) := by
  induction steps generalizing cursor store with
  | zero => exact ⟨0, Nat.zero_le _, .ended (by omega)⟩
  | succ steps ih =>
      rw [readFrom_succ]
      by_cases hend : limit ≤ cursor
      · rw [if_pos hend]
        exact ⟨0, Nat.zero_le _, .ended hend⟩
      rw [if_neg hend]
      cases hturn : turn r limit cursor store with
      | error e => exact ⟨0, Nat.zero_le _, .failed (Int.not_le.mp hend) hturn⟩
      | ok reached =>
          obtain ⟨next, more⟩ := reached
          obtain ⟨hnext, hlimit⟩ := turn_advances hturn
          have hleft : limit - next ≤ steps := by omega
          obtain ⟨turns, hturns, hrest⟩ := ih hleft more
          exact ⟨turns + 1, by omega, .turned (Int.not_le.mp hend) hturn hrest⟩

/-- Pairs are set one after the other. -/
theorem readFrom_pack (hr : r.Backed) (hbegin : 0 ≤ r.begin) (hpairs : ZeroFree pairs)
    (h : r.Bears cursor (pack pairs ++ rest))
    (hlimit : limit = cursor + (pack pairs ++ rest).length) (steps : Nat)
    (store : KeyValueStore) : readFrom r limit (pairs.length + steps) cursor store =
      readFrom r limit steps (cursor + (pack pairs).length) (store.setAll (texts pairs)) := by
  induction pairs generalizing cursor store with
  | nil =>
      rw [List.length_nil, Nat.zero_add]
      congr 1
      exact (Int.add_zero _).symm
  | cons p pairs ih =>
      obtain ⟨key, value⟩ := p
      obtain ⟨hkey, hvalue⟩ := hpairs _ List.mem_cons_self
      rw [pack_cons_append] at h hlimit
      have hturn := turn_pair hr hbegin hkey hvalue h hlimit store
      have hpair : key ++ 0 :: (value ++ 0 :: (pack pairs ++ rest)) =
          (key ++ 0 :: (value ++ [0])) ++ (pack pairs ++ rest) := by
        simp only [List.append_assoc, List.cons_append, List.nil_append]
      have hlength : (key ++ 0 :: (value ++ [0])).length = key.length + value.length + 2 := by
        rw [List.length_append, List.length_cons, List.length_append, List.length_singleton]
        omega
      have hwhole : (pack ((key, value) :: pairs)).length =
          key.length + value.length + 2 + (pack pairs).length := by
        rw [pack_cons, List.length_append, List.length_cons, List.length_append, List.length_cons]
        omega
      rw [hpair] at h hlimit
      obtain ⟨-, hbehind⟩ := Region.bears_append.mp h
      have hnext : cursor + ((key ++ 0 :: (value ++ [0])).length : Int) =
          cursor + key.length + value.length + 2 := by omega
      rw [List.length_append] at hlimit
      rw [hnext] at hbehind
      rw [List.length_cons, Nat.add_right_comm, readFrom_succ, if_neg (by omega), hturn, ok_bind]
      dsimp only
      rw [ih (fun q hq => hpairs q (List.mem_cons_of_mem _ hq)) hbehind (by omega)]
      congr 1
      omega

theorem readFrom_ended (h : limit ≤ cursor) (steps : Nat) :
    readFrom r limit steps cursor store = .ok store := by
  cases steps with
  | zero => rfl
  | succ steps => rw [readFrom_succ, if_pos h]

/-! The whole store. -/

theorem read_of_contains (h : r.contains start size = true) :
    read r start size = readFrom r (start + size) size.toNat start [] := by
  rw [read, Region.check_of_contains h]
  rfl

/-- The pairs at the start of a store are set, and the loop is behind them. -/
theorem read_of_pack_append (hr : r.Backed) (hbegin : 0 ≤ r.begin) (hpairs : ZeroFree pairs)
    (h : r.Bears start (pack pairs ++ rest)) : read r start (pack pairs ++ rest).length =
      readFrom r (start + (pack pairs).length + rest.length)
        ((pack pairs ++ rest).length - pairs.length) (start + (pack pairs).length)
        (setAll [] (texts pairs)) := by
  have henough := two_mul_length_le_pack pairs
  have hlength : (pack pairs ++ rest).length = (pack pairs).length + rest.length :=
    List.length_append
  have hsteps : (pack pairs ++ rest).length =
      pairs.length + ((pack pairs ++ rest).length - pairs.length) := by omega
  have hlimit : start + ((pack pairs ++ rest).length : Int) =
      start + (pack pairs).length + rest.length := by omega
  have hrun := readFrom_pack hr hbegin hpairs h rfl ((pack pairs ++ rest).length - pairs.length) []
  rw [← hsteps] at hrun
  rw [read_of_contains h.contains, Int.toNat_natCast, hrun, hlimit]

theorem read_of_pack (hr : r.Backed) (hbegin : 0 ≤ r.begin) (hpairs : ZeroFree pairs)
    (h : r.Bears start (pack pairs)) :
    read r start (pack pairs).length = .ok (setAll [] (texts pairs)) := by
  have hbears : r.Bears start (pack pairs ++ []) := by rwa [List.append_nil]
  have hread := read_of_pack_append hr hbegin hpairs hbears
  rwa [List.append_nil, List.length_nil, Int.natCast_zero, Int.add_zero,
    readFrom_ended (Int.le_refl _)] at hread

theorem read_of_openKey (hr : r.Backed) (hbegin : 0 ≤ r.begin) (hpairs : ZeroFree pairs)
    (hkey : 0 ∉ key) (hne : key ≠ []) (h : r.Bears start (pack pairs ++ key)) :
    read r start (pack pairs ++ key).length =
      .error (.inImage .unterminatedKey (start + (pack pairs).length)) := by
  have henough := two_mul_length_le_pack pairs
  have hpos := List.length_pos_iff.mpr hne
  have hlength : (pack pairs ++ key).length = (pack pairs).length + key.length :=
    List.length_append
  obtain ⟨steps, hsteps⟩ := Nat.exists_eq_succ_of_ne_zero
    (by omega : (pack pairs ++ key).length - pairs.length ≠ 0)
  obtain ⟨-, hopen⟩ := Region.bears_append.mp h
  rw [read_of_pack_append hr hbegin hpairs h, hsteps, readFrom_succ, if_neg (by omega),
    turn_openKey hr hopen hkey rfl]
  rfl

theorem read_of_openValue (hr : r.Backed) (hbegin : 0 ≤ r.begin) (hpairs : ZeroFree pairs)
    (hkey : 0 ∉ key) (hvalue : 0 ∉ value)
    (h : r.Bears start (pack pairs ++ (key ++ 0 :: value))) :
    read r start (pack pairs ++ (key ++ 0 :: value)).length =
      .error (.inImage .unterminatedValue (start + (pack pairs).length + key.length + 1)) := by
  have henough := two_mul_length_le_pack pairs
  have hlength : (pack pairs ++ (key ++ 0 :: value)).length =
      (pack pairs).length + (key ++ 0 :: value).length := List.length_append
  have hpos : 0 < (key ++ 0 :: value).length := by
    rw [List.length_append, List.length_cons]
    omega
  obtain ⟨steps, hsteps⟩ := Nat.exists_eq_succ_of_ne_zero
    (by omega : (pack pairs ++ (key ++ 0 :: value)).length - pairs.length ≠ 0)
  obtain ⟨-, hopen⟩ := Region.bears_append.mp h
  rw [read_of_pack_append hr hbegin hpairs h, hsteps, readFrom_succ, if_neg (by omega),
    turn_openValue hr hbegin hkey hvalue hopen rfl]
  rfl

/-! The bytes of a store. -/

/-- The bytes of the buffer that a store of some size takes. -/
def storeBytes (r : Region) (start size : Int) : List UInt8 :=
  r.slice (r.offset start) size.toNat

theorem bears_storeBytes (hr : r.Backed) (h : r.contains start size = true) :
    size = (storeBytes r start size).length ∧ r.Bears start (storeBytes r start size) := by
  obtain ⟨n, rfl⟩ := Int.eq_ofNat_of_zero_le (Region.contains_iff.mp h).1
  obtain ⟨hlength, hbears⟩ := hr.bears_slice h
  rw [storeBytes, Int.toNat_natCast, hlength]
  exact ⟨rfl, hbears⟩

/-- The form of pairs of strings is that of their bytes. -/
theorem encode_eq (pairs : List (String × String)) :
    encode pairs =
      pack (pairs.map fun (key, value) => (key.toUTF8.toList, value.toUTF8.toList)) := by
  simp only [encode, pack, List.flatMap_map, List.append_assoc, List.cons_append, List.nil_append]

theorem texts_toUTF8 (pairs : List (String × String)) :
    texts (pairs.map fun (key, value) => (key.toUTF8.toList, value.toUTF8.toList)) = pairs := by
  simp only [texts, List.map_map]
  refine (List.map_congr_left fun p _ => ?_).trans (List.map_id pairs)
  exact Prod.ext (decodeReplacing_toUTF8 p.1) (decodeReplacing_toUTF8 p.2)

theorem zeroFree_toUTF8 {pairs : List (String × String)}
    (h : ∀ p ∈ pairs, '\x00' ∉ p.1.toList ∧ '\x00' ∉ p.2.toList) :
    ZeroFree (pairs.map fun (key, value) => (key.toUTF8.toList, value.toUTF8.toList)) := by
  intro p hp
  obtain ⟨q, hq, rfl⟩ := List.mem_map.mp hp
  exact ⟨zero_notMem_toUTF8 (h q hq).1, zero_notMem_toUTF8 (h q hq).2⟩

/-- The reader of a store of some size at an address accepts pairs and nothing else. It fails
where the store does not lie in the region, at a key without its zero byte and at a value
without one. The store it answers with has each key once, with the value that came last. -/
structure ReadsPairs (r : Region) (start size : Int) : Prop where
  accepts : (∃ store, read r start size = .ok store) ↔
    r.contains start size = true ∧ IsPacked (storeBytes r start size)
  accepts_iff : (∃ store, read r start size = .ok store) ↔
    r.contains start size = true ∧ (size = 0 ∨
      ((storeBytes r start size).getLast? = some 0 ∧ 2 ∣ (storeBytes r start size).count 0))
  refuses : (¬ ∃ store, read r start size = .ok store) →
    ∃ d, read r start size = .error (.decode d)
  outside : ¬ r.contains start size = true →
    read r start size = .error (.inImage (.outside "key-value store" r.begin r.stop size) start)
  openKey : ∀ (pairs : RawPairs) (key : List UInt8), r.contains start size = true →
    storeBytes r start size = pack pairs ++ key → ZeroFree pairs → 0 ∉ key → key ≠ [] →
      read r start size = .error (.inImage .unterminatedKey (start + (pack pairs).length))
  openValue : ∀ (pairs : RawPairs) (key value : List UInt8), r.contains start size = true →
    storeBytes r start size = pack pairs ++ (key ++ 0 :: value) → ZeroFree pairs → 0 ∉ key →
      0 ∉ value → read r start size =
        .error (.inImage .unterminatedValue (start + (pack pairs).length + key.length + 1))
  binds : ∀ pairs : RawPairs, r.contains start size = true →
    storeBytes r start size = pack pairs → ZeroFree pairs →
      ∃ store, read r start size = .ok store ∧ Binds store (texts pairs) ∧
        ∀ key, lookup r start size key = .ok (List.lookup key (texts pairs).reverse)
  inverts : ∀ pairs : List (String × String), r.contains start size = true →
    storeBytes r start size = encode pairs →
      (∀ p ∈ pairs, '\x00' ∉ p.1.toList ∧ '\x00' ∉ p.2.toList) →
      (pairs.map Prod.fst).Nodup → read r start size = .ok pairs
  advances : ∀ (cursor next : Int) (store more : KeyValueStore),
    turn r (start + size) cursor store = .ok (next, more) →
      cursor + 2 ≤ next ∧ next ≤ start + size
  ends : r.contains start size = true → ∃ turns : Nat, 2 * turns ≤ size.toNat ∧
    ∀ (n : Nat) (result : Decode KeyValueStore),
      Loops r (start + size) n start [] result ↔ n = turns ∧ result = read r start size

section Backed

variable (hr : r.Backed) (hbegin : 0 ≤ r.begin) (hc : r.contains start size = true)
include hr hbegin hc

theorem read_of_storeBytes_pack (hdata : storeBytes r start size = pack pairs)
    (hpairs : ZeroFree pairs) : read r start size = .ok (setAll [] (texts pairs)) := by
  obtain ⟨hsize, hbears⟩ := bears_storeBytes hr hc
  have hread := read_of_pack hr hbegin hpairs (hdata ▸ hbears)
  rwa [← hdata, ← hsize] at hread

theorem read_of_storeBytes_openKey (hdata : storeBytes r start size = pack pairs ++ key)
    (hpairs : ZeroFree pairs) (hkey : 0 ∉ key) (hne : key ≠ []) : read r start size =
      .error (.inImage .unterminatedKey (start + (pack pairs).length)) := by
  obtain ⟨hsize, hbears⟩ := bears_storeBytes hr hc
  have hread := read_of_openKey hr hbegin hpairs hkey hne (hdata ▸ hbears)
  rwa [← hdata, ← hsize] at hread

theorem read_of_storeBytes_openValue
    (hdata : storeBytes r start size = pack pairs ++ (key ++ 0 :: value))
    (hpairs : ZeroFree pairs) (hkey : 0 ∉ key) (hvalue : 0 ∉ value) : read r start size =
      .error (.inImage .unterminatedValue (start + (pack pairs).length + key.length + 1)) := by
  obtain ⟨hsize, hbears⟩ := bears_storeBytes hr hc
  have hread := read_of_openValue hr hbegin hpairs hkey hvalue (hdata ▸ hbears)
  rwa [← hdata, ← hsize] at hread

theorem read_ok_iff_isPacked :
    (∃ store, read r start size = .ok store) ↔ IsPacked (storeBytes r start size) := by
  constructor
  · rintro ⟨store, hread⟩
    have hsplits := splits (storeBytes r start size)
    generalize hdata : storeBytes r start size = data at hsplits
    cases hsplits with
    | whole h => exact ⟨_, h, rfl⟩
    | openKey h hkey hne =>
        rw [read_of_storeBytes_openKey hr hbegin hc hdata h hkey hne] at hread
        cases hread
    | openValue h hkey hvalue =>
        rw [read_of_storeBytes_openValue hr hbegin hc hdata h hkey hvalue] at hread
        cases hread
  · rintro ⟨pairs, h, hdata⟩
    exact ⟨_, read_of_storeBytes_pack hr hbegin hc hdata.symm h⟩

end Backed

theorem read_of_not_contains (h : ¬ r.contains start size = true) : read r start size =
    .error (.inImage (.outside "key-value store" r.begin r.stop size) start) := by
  rw [read, Region.check_of_not_contains h]
  rfl

theorem contains_of_read (h : read r start size = .ok store) : r.contains start size = true := by
  by_cases hc : r.contains start size = true
  · exact hc
  · rw [read_of_not_contains hc] at h
    cases h

/-- The loop comes to what the reader answers with, and to nothing else. -/
theorem loops_iff_read (hc : r.contains start size = true) :
    ∃ turns : Nat, 2 * turns ≤ size.toNat ∧ ∀ (n : Nat) (result : Decode KeyValueStore),
      Loops r (start + size) n start [] result ↔ n = turns ∧ result = read r start size := by
  obtain ⟨turns, hturns, hloops⟩ :=
    exists_loops_readFrom r (by omega : start + size - start ≤ size.toNat) []
  rw [← read_of_contains hc] at hloops
  refine ⟨turns, by omega, fun n result => ⟨fun h => h.unique hloops, ?_⟩⟩
  rintro ⟨rfl, rfl⟩
  exact hloops

/-- A store is read so wherever the region, if it contains the store at all, holds a byte for
every address. -/
theorem readsPairs_of_backed (hbegin : 0 ≤ r.begin)
    (hback : r.contains start size = true → r.Backed) : ReadsPairs r start size := by
  have haccepts : (∃ store, read r start size = .ok store) ↔
      r.contains start size = true ∧ IsPacked (storeBytes r start size) := by
    constructor
    · intro h
      have hc := contains_of_read h.choose_spec
      exact ⟨hc, (read_ok_iff_isPacked (hback hc) hbegin hc).mp h⟩
    · exact fun ⟨hc, h⟩ => (read_ok_iff_isPacked (hback hc) hbegin hc).mpr h
  constructor
  · exact haccepts
  · rw [haccepts]
    refine and_congr_right fun hc => isPacked_iff.trans (or_congr_left ?_)
    obtain ⟨hsize, -⟩ := bears_storeBytes (hback hc) hc
    rw [← List.length_eq_zero_iff]
    omega
  · intro hnone
    cases hread : read r start size with
    | ok store => exact absurd ⟨store, hread⟩ hnone
    | error e =>
        obtain ⟨d, rfl⟩ := read_failsOnly r start size e hread
        exact ⟨d, rfl⟩
  · exact read_of_not_contains
  · exact fun pairs key hc hdata => read_of_storeBytes_openKey (hback hc) hbegin hc hdata
  · exact fun pairs key value hc hdata =>
      read_of_storeBytes_openValue (hback hc) hbegin hc hdata
  · intro pairs hc hdata hpairs
    have hread := read_of_storeBytes_pack (hback hc) hbegin hc hdata hpairs
    have hbinds := binds_setAll (texts pairs)
    refine ⟨_, hread, hbinds, fun key => ?_⟩
    rw [lookup, hread, ← hbinds.values]
    rfl
  · intro pairs hc hdata hzero hnodup
    have hset : setAll [] pairs = [] ++ pairs := setAll_of_nodup hnodup
    rw [encode_eq] at hdata
    rw [read_of_storeBytes_pack (hback hc) hbegin hc hdata (zeroFree_toUTF8 hzero), texts_toUTF8,
      hset, List.nil_append]
  · exact fun cursor next store more => turn_advances
  · exact loops_iff_read

/-- The reader of key-value stores accepts exactly their grammar, in every region over a buffer
with enough bytes. -/
theorem ofBuffer_readsPairs (buffer : ByteArray) {begin stop : Int} (hbegin : 0 ≤ begin)
    (hbuffer : stop - begin ≤ buffer.size) (start size : Int) :
    ReadsPairs (Region.ofBuffer buffer begin stop) start size :=
  readsPairs_of_backed hbegin fun hc => Region.ofBuffer_backed_of_contains hbuffer hc

/-- A store with a value that is left empty and a key that comes twice. -/
def twiceStore : ByteArray := ⟨#[0x6B, 0, 0x76, 0, 0x65, 0, 0, 0x6B, 0, 0x77, 0]⟩

/-- The value that came last is under the key, in the first place. -/
theorem ofBuffer_readsPairs_twiceStore :
    (0 : Int) ≤ 0x1000 ∧ (0x100B : Int) - 0x1000 ≤ twiceStore.size ∧
      ReadsPairs (Region.ofBuffer twiceStore 0x1000 0x100B) 0x1000 11 ∧
      read (Region.ofBuffer twiceStore 0x1000 0x100B) 0x1000 11 =
        .ok [("k", "w"), ("e", "")] :=
  ⟨by decide, by decide, ofBuffer_readsPairs twiceStore (by decide) (by decide) 0x1000 11,
    by decide +kernel⟩

end KeyValueStore

end OatImage
