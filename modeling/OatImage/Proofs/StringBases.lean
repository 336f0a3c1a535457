import OatImage.Proofs.NumberRuns
import OatImage.Proofs.OperationFaults
import OatImage.Proofs.RecordLayout
import OatImage.Proofs.Relocation
import OatImage.Proofs.StringUnits

/-!
# Strings at any base address

Strings end at a zero byte. The search for it answers with an address, and a negative answer
counts as none, so a zero byte at a negative address is hidden from the readers of strings. Any
two base addresses at which the same zero bytes are hidden give the same strings. Where the zero
byte behind a string of a module, or behind the first key of the store, is hidden, nothing is read
and the failure is one to decode. At a base address that is not negative nothing is hidden.
-/
namespace OatImage

open Decode

namespace Region

variable {r : Region} {address limit d : Int}

/-- In a range of the window a zero byte stands at a negative address. -/
def HidesZero (r : Region) (address limit : Int) : Prop :=
  r.begin ≤ address ∧ limit ≤ r.stop ∧
    ∃ a, address ≤ a ∧ a < limit ∧ a < 0 ∧ r.bytes[r.offset a]? = some 0

/-- A search for a value ends at its position or before. -/
theorem exists_seek_le {value : UInt8} {start count position : Nat} (hstart : start ≤ position)
    (hcount : position < start + count) (hvalue : r.bytes[position]? = some value) :
    ∃ first, r.seek value start count = some first ∧ first ≤ position := by
  induction count generalizing start with
  | zero => omega
  | succ count ih =>
      have hposition : position < r.bytes.size := by
        by_cases hlt : position < r.bytes.size
        · exact hlt
        · rw [getElem?_neg r.bytes position hlt] at hvalue
          cases hvalue
      rw [seek, getElem?_pos r.bytes start (Nat.lt_of_le_of_lt hstart hposition)]
      dsimp only
      split
      · exact ⟨start, rfl, hstart⟩
      · rename_i hother
        have hne : start ≠ position := by
          rintro rfl
          rw [getElem?_pos r.bytes start hposition] at hvalue
          exact hother (Option.some.inj hvalue)
        exact ih (by omega) (by omega)

/-- A zero byte of a range is hidden exactly if the first one is. -/
theorem hidesZero_iff : r.HidesZero address limit ↔
    (r.begin ≤ address ∧ limit ≤ r.stop) ∧ ∃ a, r.find? 0 address limit = some a ∧ a < 0 := by
  constructor
  · rintro ⟨hbegin, hstop, a, haddress, hlimit, hneg, hzero⟩
    have hcovers : r.covers address limit = true := covers_iff.mpr (by omega)
    have hstart : r.offset address ≤ r.offset a := by
      simp only [offset]
      omega
    have hcount : r.offset a < r.offset address + (min limit r.stop - address).toNat := by
      simp only [offset]
      omega
    obtain ⟨first, hseek, hle⟩ := exists_seek_le hstart hcount hzero
    refine ⟨⟨hbegin, hstop⟩, r.begin + first, ?_, ?_⟩
    · rw [find?, if_pos hcovers, hseek]
      rfl
    · simp only [offset] at hle
      omega
  · rintro ⟨⟨hbegin, hstop⟩, a, hfind, hneg⟩
    obtain ⟨_, hle, hlt, hzero⟩ := of_find?_eq_some hfind
    exact ⟨hbegin, hstop, a, hle, by omega, hneg, hzero⟩

instance : Decidable (r.HidesZero address limit) :=
  decidable_of_iff ((r.begin ≤ address ∧ limit ≤ r.stop) ∧
      ((r.find? 0 address limit).any fun a => a < 0) = true) (by
    rw [hidesZero_iff, Option.any_eq_true]
    simp only [decide_eq_true_eq])

/-- Nothing is hidden at addresses that are not negative. -/
theorem HidesZero.begin_neg (h : r.HidesZero address limit) : r.begin < 0 := by
  obtain ⟨hbegin, _, a, hle, _, hneg, _⟩ := h
  omega

theorem HidesZero.lt (h : r.HidesZero address limit) : address < limit := by
  obtain ⟨_, _, a, hle, hlt, _⟩ := h
  omega

/-- A search that starts before a hidden zero byte answers as if there were none. -/
theorem HidesZero.findByte_neg (h : r.HidesZero address limit) :
    r.findByte address 0 limit < 0 := by
  obtain ⟨_, a, hfind, hneg⟩ := hidesZero_iff.mp h
  rw [findByte_eq_getD, hfind]
  exact hneg

/-- If zero bytes are hidden in a range before a move exactly if they are afterwards, then a
search of the range finds one of the same sign. -/
theorem Backed.alike_of_hidesZero_iff (hr : r.Backed) (hbegin : r.begin ≤ address)
    (hstop : limit ≤ r.stop)
    (hsame : r.HidesZero address limit ↔ (r.moveBy d).HidesZero (address + d) (limit + d)) :
    r.Alike d 0 address limit := by
  have hr' : r.Extends d False (r.moveBy d) := hr.extends_moveBy
  intro a hfind
  have hin : r.begin ≤ address ∧ limit ≤ r.stop := ⟨hbegin, hstop⟩
  have hin' : (r.moveBy d).begin ≤ address + d ∧ limit + d ≤ (r.moveBy d).stop :=
    ⟨Int.add_le_add_right hbegin d, Int.add_le_add_right hstop d⟩
  rw [hidesZero_iff, hidesZero_iff, and_iff_right hin, and_iff_right hin',
    hr'.find?_eq 0 hstop, hfind] at hsame
  simpa only [Option.map_some, Option.some.injEq, exists_eq_left'] using hsame

end Region

namespace Decode

variable {α : Type} {x x' : Decode α} {begin begin' : Int} {cause : Cause} {hides hides' : Prop}

/-- Two readings come to the same value, or both fail to decode. -/
def Agree (x x' : Decode α) : Prop :=
  (∃ a, x = .ok a ∧ x' = .ok a) ∨ (∃ e, x = .error (.decode e)) ∧ ∃ e, x' = .error (.decode e)

theorem agree_moveBy {P : Fault → Prop} (h : FailsOnly P x) (hP : ∀ e, P e → e.IsDecode)
    (d : Int) : Agree x (x.moveBy d fun a => a) := by
  cases x with
  | ok a => exact .inl ⟨a, rfl, rfl⟩
  | error e =>
      obtain ⟨f, rfl⟩ := hP e (h e rfl)
      exact .inr ⟨⟨f, rfl⟩, f.moveBy _, rfl⟩

/-- Only below the address zero anything is hidden, and what is hidden is not read. -/
structure RefusesHidden (begin : Int) (cause : Cause) (hides : Prop) (x : Decode α) : Prop where
  negative : hides → begin < 0
  refused : hides → ∃ e, x = .error (.decode e) ∧ e.cause = cause

/-- Two readings of the same bytes at two base addresses. Where the end of the string is hidden at
neither or at both they agree; where it is hidden they fail. -/
structure ReadsAlike (begin begin' : Int) (cause : Cause) (hides hides' : Prop)
    (x x' : Decode α) : Prop where
  agree : (hides ↔ hides') → Agree x x'
  first : RefusesHidden begin cause hides x
  second : RefusesHidden begin' cause hides' x'

end Decode

/-! The strings of a module. -/

namespace Dex.Module

variable {m : Module} {index start : Int}

/-- The zero byte behind a string is hidden. -/
def HidesString (m : Module) (index : Int) : Prop :=
  ∃ start, m.StartsString index start ∧ m.window.HidesZero start m.window.stop

theorem StartsString.unique {start' : Int} (h : m.StartsString index start)
    (h' : m.StartsString index start') : start = start' := by
  obtain ⟨offset, length, _, hoffset, hstart⟩ := h
  obtain ⟨offset', length', _, hoffset', hstart'⟩ := h'
  cases hoffset.symm.trans hoffset'
  cases hstart.symm.trans hstart'
  rfl

theorem StartsString.hidesString_iff (h : m.StartsString index start) :
    m.HidesString index ↔ m.window.HidesZero start m.window.stop := by
  refine ⟨fun ⟨start', hstart, hhides⟩ => ?_, fun hhides => ⟨start, h, hhides⟩⟩
  rwa [h.unique hstart]

/-- The bytes of a string lie in the window. -/
theorem StartsString.begin_le (hbegin : m.window.begin = m.address)
    (h : m.StartsString index start) : m.window.begin ≤ start := by
  obtain ⟨offset, length, _, _, hstart⟩ := h
  rw [uleb128, asModule_eq_ok] at hstart
  have hrange := Region.ulebFrom_range hstart
  simp only [addressOf] at hrange
  omega

/-- A string whose end is hidden is not read. -/
theorem string_of_hidesString (h : m.HidesString index) :
    ∃ start, m.string index = .error (.inModule .unterminatedString start) := by
  obtain ⟨start, ⟨offset, length, hindex, hoffset, hstart⟩, hhides⟩ := h
  refine ⟨start, ?_⟩
  rw [string, hindex, Bool.not_true, if_neg (by decide), hoffset, ok_bind, stringData, hstart,
    ok_bind]
  exact if_pos hhides.findByte_neg

section
variable (hback : m.window.Backed)
include hback

theorem StartsString.moveBy (h : m.StartsString index start) (d : Int) :
    (m.moveBy d).StartsString index (start + d) := by
  obtain ⟨offset, length, hindex, hoffset, hstart⟩ := h
  have hword : Tracks d False (fun n => n) _ _ :=
    u32_tracks hback (addressOf_moveBy d m (m.strings.offset + index * 4)) "string_id"
  have hnumber : Tracks d False (Prod.map id (· + d)) _ _ :=
    uleb128_tracks hback (addressOf_moveBy d m offset)
  have hoffset' := hword.eq_moveBy
  have hstart' := hnumber.eq_moveBy
  rw [hoffset] at hoffset'
  rw [hstart] at hstart'
  exact ⟨offset, length, hindex, hoffset', hstart'⟩

/-- Where the same strings are hidden before and after a move, the same strings are read. -/
theorem string_moveBy (hbegin : m.window.begin = m.address) {d : Int}
    (hsame : m.HidesString index ↔ (m.moveBy d).HidesString index) :
    Agree (m.string index) ((m.moveBy d).string index) := by
  have hsign (start : Int) (hstart : m.StartsString index start) :
      m.window.Alike d 0 start m.window.stop := by
    rw [hstart.hidesString_iff, (hstart.moveBy hback d).hidesString_iff] at hsame
    exact hback.alike_of_hidesZero_iff (hstart.begin_le hbegin) (Int.le_refl _) hsame
  have htracks : Tracks d False (fun text => text) (m.string index) ((m.moveBy d).string index) :=
    string_tracks hback index hsign
  rw [htracks.eq_moveBy]
  exact agree_moveBy (string_failsOnly hback index) (fun _ => Fault.IsModule.isDecode) d

end

theorem HidesString.begin_neg (h : m.HidesString index) : m.window.begin < 0 := by
  obtain ⟨_, _, hhides⟩ := h
  exact hhides.begin_neg

/-- The window of a module that opens does not start before the region. -/
theorem begin_le_of_load {r : Region} {address : Int} (hr : r.Backed)
    (h : load r address = .ok m) : r.begin ≤ m.window.begin := by
  obtain ⟨_, hbegin, _⟩ := window_of_load hr h
  obtain ⟨_, hsignature, _⟩ := bind_eq_ok.mp h
  have hin := Region.contains_iff.mp (signature_of_check hsignature).1
  omega

theorem refuses_string {begin : Int} (hbegin : begin ≤ m.window.begin) (index : Int) :
    RefusesHidden begin .unterminatedString (m.HidesString index) (m.string index) where
  negative h := Int.lt_of_le_of_lt hbegin h.begin_neg
  refused h := by
    obtain ⟨start, hstring⟩ := string_of_hidesString h
    exact ⟨_, hstring, rfl⟩

end Dex.Module

/-! The key-value store. Its first key decides: behind the end of that key no address is
negative. -/

namespace Image

variable {image : Image}

/-- The first zero byte of the key-value store is hidden. -/
def HidesStore (image : Image) : Prop :=
  image.region.HidesZero image.storeStart (image.storeStart + image.header.keyValueStoreSize)

instance : Decidable image.HidesStore := inferInstanceAs (Decidable (Region.HidesZero _ _ _))

/-- A store whose first zero byte is hidden is not read. -/
theorem keyValueStore_of_hidesStore (h : image.HidesStore) :
    image.keyValueStore = .error (.inImage .unterminatedKey image.storeStart) := by
  have hcontains : image.region.contains image.storeStart image.header.keyValueStoreSize = true :=
    Region.contains_iff.mpr ⟨Int.natCast_nonneg _, h.1, h.2.1⟩
  have hlt := h.lt
  obtain ⟨steps, hsteps⟩ : ∃ steps, image.header.keyValueStoreSize = steps + 1 :=
    Nat.exists_eq_succ_of_ne_zero (by omega)
  rw [keyValueStore, KeyValueStore.read, Region.check_of_contains hcontains, ok_bind,
    Int.toNat_natCast]
  rw [HidesStore, hsteps] at h
  rw [hsteps, KeyValueStore.readFrom, if_neg (by omega)]
  exact if_pos h.findByte_neg

/-- Where the store is hidden both before and after a move or at neither place, the same store is
read. -/
theorem keyValueStore_moveBy (hr : image.region.Backed) {d : Int}
    (hsame : image.HidesStore ↔ (image.moveBy d).HidesStore) :
    Agree image.keyValueStore (image.moveBy d).keyValueStore := by
  have hext : image.Extends d False (image.moveBy d) := extends_moveBy hr
  have hmoved : (image.moveBy d).storeStart + (image.moveBy d).header.keyValueStoreSize =
      image.storeStart + image.header.keyValueStoreSize + d := by
    rw [hext.storeStart_eq]
    exact Int.add_right_comm _ _ _
  rw [HidesStore, HidesStore, hmoved, hext.storeStart_eq] at hsame
  have hsign (hin : image.region.contains image.storeStart image.header.keyValueStoreSize = true) :
      image.region.Alike d 0 image.storeStart
        (image.storeStart + image.header.keyValueStoreSize) := by
    obtain ⟨_, hbegin, hstop⟩ := Region.contains_iff.mp hin
    exact hr.alike_of_hidesZero_iff hbegin hstop hsame
  have htracks : Tracks d False (fun store => store) image.keyValueStore
      (image.moveBy d).keyValueStore :=
    KeyValueStore.read_tracks hext.region hext.storeStart_eq _ hsign
  rw [htracks.eq_moveBy]
  exact agree_moveBy (keyValueStore_failsOnly image) (fun _ h => h) d

theorem refuses_keyValueStore {begin : Int} (hbegin : image.region.begin = begin) :
    RefusesHidden begin .unterminatedKey image.HidesStore image.keyValueStore where
  negative h := hbegin ▸ h.begin_neg
  refused h := ⟨_, keyValueStore_of_hidesStore h, rfl⟩

/-- The key-value store of the same bytes at any two base addresses, and the strings of each
module that opens at one of them: the module opens at the other one, too, and the readings agree
wherever the same zero bytes are hidden. -/
theorem setup_readsAlike {begin size : Int} {memory : Option ByteArray}
    {asked : Option InstructionSet}
    (h : setup (some begin) (some (begin + size)) memory asked = .ok image) (begin' : Int) :
    ∃ image', setup (some begin') (some (begin' + size)) memory asked = .ok image' ∧
      ReadsAlike begin begin' .unterminatedKey image.HidesStore image'.HidesStore
        image.keyValueStore image'.keyValueStore ∧
      ∀ position m, Dex.Module.load image.region (begin + position) = .ok m →
        ∃ m', Dex.Module.load image'.region (begin' + position) = .ok m' ∧
          ∀ index, ReadsAlike begin begin' .unterminatedString (m.HidesString index)
            (m'.HidesString index) (m.string index) (m'.string index) := by
  have hr := backed_of_setup h
  have hbegin : image.region.begin = begin := by
    obtain ⟨_, _, _, _, hb, _, _, _, _, _, rfl⟩ := setup_eq_ok h
    cases hb
    rfl
  obtain ⟨d, rfl⟩ : ∃ d, begin' = begin + d := ⟨begin' - begin, by omega⟩
  have hmove := setup_moveBy begin (begin + size) d memory asked
  rw [h, Int.add_right_comm begin size d] at hmove
  have hbegin' : (image.moveBy d).region.begin = begin + d := hbegin ▸ rfl
  refine ⟨image.moveBy d, hmove, ⟨keyValueStore_moveBy hr, refuses_keyValueStore hbegin,
    refuses_keyValueStore hbegin'⟩, fun position m hm => ?_⟩
  have hext : image.region.Extends d False (image.moveBy d).region := hr.extends_moveBy
  have hload := (Dex.Module.load_tracks hext (Int.add_right_comm begin d position)).eq_moveBy
  rw [hm] at hload
  obtain ⟨hback, hwindow, _⟩ := Dex.Module.backed_of_load hm
  have hle := Dex.Module.begin_le_of_load hr hm
  have hle' := Dex.Module.begin_le_of_load hext.backed' hload
  rw [hbegin] at hle
  rw [hbegin'] at hle'
  exact ⟨m.moveBy d, hload, fun index => ⟨Dex.Module.string_moveBy hback hwindow,
    Dex.Module.refuses_string hle index, Dex.Module.refuses_string hle' index⟩⟩

/-- An image of a store with one pair and a module with one string. -/
def storedImage : List UInt8 :=
  { plainHeader 0 with keyValueStoreSize := 4 }.encode ++ [0x6B, 0, 0x76, 0] ++
    Dex.Module.mixedModule

/-- The image with its first byte at an address. -/
def setupStored (begin : Int) : Decode Image :=
  setup (some begin) (some (begin + 206)) (some ⟨storedImage.toArray⟩) none

theorem storedImage_read : ∃ image m, setupStored 4096 = .ok image ∧
    Dex.Module.load image.region (4096 + 76) = .ok m ∧
    image.keyValueStore = .ok [("k", "v")] ∧ ∃ text, m.string 0 = .ok text := by
  obtain ⟨image, himage, hread⟩ := exists_setup_of_any 4096 (4096 + 206)
    ⟨storedImage.toArray⟩ none
    (p := fun image => decide (image.keyValueStore = .ok [("k", "v")] ∧
      Dex.Module.LiesAt image.region (4096 + 76) Dex.Module.mixedModule))
    (by decide) (by decide +kernel) (by decide +kernel)
  obtain ⟨hstore, hlies⟩ := of_decide_eq_true hread
  obtain ⟨m, hm, _, htext⟩ := hlies.exists_load
    (p := fun m => (m.string 0).toOption.any fun _ => true) (by decide +kernel)
  obtain ⟨text, htext, _⟩ := exists_of_any htext
  exact ⟨image, m, himage, hm, hstore, text, htext⟩

theorem storedImage_hides : ∃ image m, setupStored (-4096) = .ok image ∧
    Dex.Module.load image.region (-4096 + 76) = .ok m ∧ image.HidesStore ∧ m.HidesString 0 := by
  obtain ⟨image, himage, hread⟩ := exists_setup_of_any (-4096) (-4096 + 206)
    ⟨storedImage.toArray⟩ none
    (p := fun image => decide (image.HidesStore ∧
      Dex.Module.LiesAt image.region (-4096 + 76) Dex.Module.mixedModule))
    (by decide) (by decide +kernel) (by decide +kernel)
  obtain ⟨hstore, hlies⟩ := of_decide_eq_true hread
  obtain ⟨m, hm, _, hstring⟩ := hlies.exists_load
    (p := fun m => decide ((m.strings.has 0 = true ∧
      m.u32 (m.addressOf (m.strings.offset + 0 * 4)) "string_id" = .ok 116 ∧
      m.uleb128 (m.addressOf (116 : Nat)) = .ok (4, -3902)) ∧
      m.window.HidesZero (-3902) m.window.stop)) (by decide +kernel)
  obtain ⟨hstart, hzero⟩ := of_decide_eq_true hstring
  exact ⟨image, m, himage, hm, hstore, -3902, ⟨116, 4, hstart⟩, hzero⟩

/-- At 4096 the store and the string are read, and at zero the store is the same. Below zero the
end of the first key and that of the string are hidden. -/
theorem setup_readsAlike_storedImage :
    ∃ image zero below m m', setupStored 4096 = .ok image ∧ setupStored 0 = .ok zero ∧
      setupStored (-4096) = .ok below ∧
      image.keyValueStore = .ok [("k", "v")] ∧ zero.keyValueStore = .ok [("k", "v")] ∧
      (∃ e, below.keyValueStore = .error (.decode e) ∧ e.cause = .unterminatedKey) ∧
      Dex.Module.load image.region (4096 + 76) = .ok m ∧
      Dex.Module.load below.region (-4096 + 76) = .ok m' ∧ (∃ text, m.string 0 = .ok text) ∧
      ∃ e, m'.string 0 = .error (.decode e) ∧ e.cause = .unterminatedString := by
  obtain ⟨image, m, himage, hm, hstore, htext⟩ := storedImage_read
  obtain ⟨below, m', hbelow, hm', hhidesStore, hhidesString⟩ := storedImage_hides
  obtain ⟨zero, hzero, hstores, _⟩ := setup_readsAlike himage 0
  obtain ⟨_, hmoved, hstoresBelow, hmodules⟩ := setup_readsAlike himage (-4096)
  cases hmoved.symm.trans hbelow
  obtain ⟨_, hload, hstrings⟩ := hmodules 76 m hm
  cases hload.symm.trans hm'
  -- neither base address is negative, so nothing is hidden
  have hsame : image.HidesStore ↔ zero.HidesStore :=
    iff_of_false (fun hhides => absurd (hstores.first.negative hhides) (by decide))
      fun hhides => absurd (hstores.second.negative hhides) (by decide)
  have hstore' : zero.keyValueStore = .ok [("k", "v")] := by
    rcases hstores.agree hsame with ⟨store, hfirst, hsecond⟩ | ⟨⟨e, he⟩, _⟩
    · rw [hsecond, ← hfirst, hstore]
    · rw [hstore] at he
      cases he
  exact ⟨image, zero, _, m, _, himage, hzero, hbelow, hstore, hstore',
    hstoresBelow.second.refused hhidesStore, hm, hm', htext,
    (hstrings 0).second.refused hhidesString⟩

end Image

end OatImage
