import OatImage.Proofs.ModuleFaults
import OatImage.Proofs.MovedReads

/-!
# Modules depend on their window alone

A module is opened through the region it lies in, and from then on it reads through the window
that was cut out of the region. So two regions that hold the same bytes in the range of the
window open the same module there, whatever else they hold and wherever they begin and end, and
nothing that is asked of the module afterwards can tell them apart.

Neither region has to be backed. One may promise more bytes than its buffer holds, as long as
the module opens in it.
-/
namespace OatImage

namespace Region

open Decode

/-- The buffers hold the same at every address of `[start, stop)`: the same byte, or none. -/
def AgreeOn (r r' : Region) (start stop : Int) : Prop :=
  ∀ address, start ≤ address → address < stop →
    r.bytes[r.offset address]? = r'.bytes[r'.offset address]?

variable {r r' w : Region} {start stop address size : Int} {what : String}

theorem AgreeOn.mono {start' stop' : Int} (h : r.AgreeOn r' start stop) (hstart : start ≤ start')
    (hstop : stop' ≤ stop) : r.AgreeOn r' start' stop' :=
  fun address ha hb => h address (Int.le_trans hstart ha) (Int.lt_of_lt_of_le hb hstop)

/-- Behind the start of a region the offsets of addresses count up with the addresses. -/
theorem offset_add (h : r.begin ≤ address) (k : Nat) :
    r.offset (address + k) = r.offset address + k := by
  simp only [offset]
  omega

theorem AgreeOn.slice_eq (h : r.AgreeOn r' start stop) (hr : r.begin ≤ start)
    (hr' : r'.begin ≤ start) (hstart : start ≤ address) {count : Nat}
    (hstop : address + count ≤ stop) :
    r'.slice (r'.offset address) count = r.slice (r.offset address) count := by
  rw [Region.slice_eq, Region.slice_eq]
  apply List.ext_getElem?
  intro k
  rw [List.getElem?_take, List.getElem?_take, List.getElem?_drop, List.getElem?_drop,
    getElem?_contents, getElem?_contents, ← offset_add (Int.le_trans hr hstart),
    ← offset_add (Int.le_trans hr' hstart)]
  by_cases hk : k < count
  · rw [if_pos hk, if_pos hk]
    exact (h (address + k) (by omega) (by omega)).symm
  · rw [if_neg hk, if_neg hk]

/-! What a read that answers has seen. -/

theorem readBytes_eq_ok {bytes : List UInt8} :
    r.readBytes address size what = .ok bytes ↔
      r.contains address size = true ∧ r.slice (r.offset address) size.toNat = bytes := by
  constructor
  · intro h
    obtain ⟨_, hcheck, h⟩ := bind_eq_ok.mp h
    cases h
    exact ⟨contains_of_check hcheck, rfl⟩
  · rintro ⟨hin, rfl⟩
    exact readBytes_of_contains hin

theorem word_eq_ok {width n : Nat} :
    r.word width address what = .ok n ↔
      r.contains address width = true ∧
        (r.slice (r.offset address) width).length = width ∧
        ofBytesLE (r.slice (r.offset address) width) = n := by
  constructor
  · intro h
    obtain ⟨_, hcheck, h⟩ := bind_eq_ok.mp h
    rw [unpack] at h
    by_cases hlength : (r.slice (r.offset address) width).length = width
    · rw [if_pos hlength] at h
      exact ⟨contains_of_check hcheck, hlength, Except.ok.inj h⟩
    · rw [if_neg hlength] at h
      cases h
  · rintro ⟨hin, hlength, rfl⟩
    rw [word, check_of_contains hin, ok_bind, unpack, if_pos hlength]

theorem window_eq_ok :
    r.window address size what = .ok w ↔
      r.contains address size = true ∧ w.begin = address ∧ w.stop = address + w.bytes.size ∧
        w.contents = r.slice (r.offset address) size.toNat := by
  have hcut : (OatImage.cut r.bytes (r.offset address)
      (r.offset address + size.toNat)).data.toList = r.slice (r.offset address) size.toNat := by
    rw [Region.slice_eq, contents_cut, Nat.add_sub_cancel_left, contents]
  constructor
  · intro hwindow
    obtain ⟨_, hcheck, hwindow⟩ := bind_eq_ok.mp hwindow
    cases hwindow
    exact ⟨contains_of_check hcheck, rfl, rfl, hcut⟩
  · rintro ⟨hin, hbegin, hstop, hshow⟩
    rw [window, check_of_contains hin]
    obtain ⟨bytes, begin, stop⟩ := w
    obtain rfl : begin = address := hbegin
    obtain rfl : stop = begin + bytes.size := hstop
    obtain rfl : bytes =
        OatImage.cut r.bytes (r.offset begin) (r.offset begin + size.toNat) := by
      apply ByteArray.ext
      apply Array.toList_inj.mp
      exact hshow.trans hcut.symm
    rfl

/-! An answer in one region is an answer in every other one that holds the same bytes. -/

section
variable (h : r.AgreeOn r' start stop) (hr' : r'.contains start (stop - start) = true)
  (hstart : start ≤ address)
include h hr' hstart

theorem AgreeOn.readBytes {bytes : List UInt8} (hr : r.begin ≤ start)
    (hstop : address + size ≤ stop) (hread : r.readBytes address size what = .ok bytes) :
    r'.readBytes address size what = .ok bytes := by
  rw [readBytes_eq_ok, contains_iff] at hread ⊢
  rw [contains_iff] at hr'
  obtain ⟨hin, rfl⟩ := hread
  exact ⟨by omega, h.slice_eq hr hr'.2.1 hstart (by omega)⟩

theorem AgreeOn.word {width n : Nat} (hr : r.begin ≤ start) (hstop : address + width ≤ stop)
    (hword : r.word width address what = .ok n) : r'.word width address what = .ok n := by
  rw [word_eq_ok, contains_iff] at hword ⊢
  rw [contains_iff] at hr'
  rw [h.slice_eq hr hr'.2.1 hstart hstop]
  exact ⟨by omega, hword.2⟩

theorem AgreeOn.window (hr : r.begin ≤ start) (hstop : address + size ≤ stop)
    (hwindow : r.window address size what = .ok w) : r'.window address size what = .ok w := by
  rw [window_eq_ok, contains_iff] at hwindow ⊢
  rw [contains_iff] at hr'
  obtain ⟨hin, hbegin, hend, hshow⟩ := hwindow
  have hfits : address + (size.toNat : Int) ≤ stop := by omega
  have hslice := h.slice_eq hr hr'.2.1 hstart hfits
  exact ⟨by omega, hbegin, hend, hshow.trans hslice.symm⟩

end

/-- Words that are read begin with the word at the address. -/
theorem u32s_eq_ok_cons {count : Int} {first : Nat} {rest : List Nat}
    (h : r.u32s address count what = .ok (first :: rest)) :
    first = ofBytesLE (r.slice (r.offset address) 4) := by
  obtain ⟨_, _, h⟩ := bind_eq_ok.mp h
  rw [unpackAll] at h
  split at h
  · cases hcount : count.toNat with
    | zero =>
        rw [hcount] at h
        cases h
    | succ n =>
        rw [hcount] at h
        cases h
        rfl
  · split at h <;> cases h

end Region

namespace Dex

open Decode

variable {r r' w : Region} {address : Int} {m m' : Module}

theorem checkSignature_of_agreeOn {start stop : Int} (h : r.AgreeOn r' start stop)
    (hr : r.begin ≤ start) (hr' : r'.contains start (stop - start) = true)
    (hstart : start ≤ address) (hstop : address + 8 ≤ stop)
    (hcheck : checkSignature r address = .ok ()) : checkSignature r' address = .ok () := by
  obtain ⟨head, hread, hcheck⟩ := bind_eq_ok.mp hcheck
  rw [asModule_eq_ok] at hread
  rw [checkSignature, h.readBytes hr' hstart hr hstop hread]
  exact hcheck

namespace Module

/-- The module of a window knows the size that stands in the window. -/
theorem fileSize_of_ofWindow (h : ofWindow w address = .ok m) :
    m.fileSize = ofBytesLE (w.slice (w.offset (address + 32)) 4) := by
  obtain ⟨versionBytes, _, h⟩ := bind_eq_ok.mp h
  cases hv : Ascii.decode? versionBytes with
  | none =>
      rw [hv] at h
      cases h
  | some version =>
      rw [hv] at h
      obtain ⟨first, hfirst, h⟩ := bind_eq_ok.mp h
      rw [asModule_eq_ok] at hfirst
      split at h
      · rename_i tag
        by_cases ht : tag ≠ endianTag
        · rw [if_pos ht] at h
          cases h
        · rw [if_neg ht] at h
          obtain ⟨second, _, h⟩ := bind_eq_ok.mp h
          split at h
          · cases h
            exact Region.u32s_eq_ok_cons hfirst
          · cases h
      · cases h

/-- A module opens where its signature stands, its declared size and a window of that size can be
read, and its header can be read through the window. The size that the module knows is the one
that was declared. -/
theorem load_eq_ok :
    load r address = .ok m ↔
      checkSignature r address = .ok () ∧
        r.u32 (address + 32) "DEX file_size" = .ok m.fileSize ∧
        ∃ w, r.window address (max m.fileSize headerSize : Nat) "DEX module" = .ok w ∧
          ofWindow w address = .ok m := by
  constructor
  · intro h
    obtain ⟨_, hcheck, h⟩ := bind_eq_ok.mp h
    obtain ⟨declared, hdeclared, h⟩ := bind_eq_ok.mp h
    obtain ⟨w, hw, h⟩ := bind_eq_ok.mp h
    rw [asModule_eq_ok] at hdeclared hw
    obtain ⟨hin, hbegin, _, hshow⟩ := Region.window_eq_ok.mp hw
    have hsize : m.fileSize = declared := by
      rw [fileSize_of_ofWindow h, ← (Region.word_eq_ok.mp hdeclared).2.2]
      have hbefore := (Region.contains_iff.mp hin).2.1
      have hoffset : w.offset (address + 32) = 32 := by
        simp only [Region.offset, hbegin]
        omega
      have hlong : min 4 ((max declared headerSize : Nat) - 32) = 4 := by
        simp only [headerSize]
        omega
      rw [hoffset, Region.slice_eq, hshow, Region.slice_eq, Region.slice_eq, List.drop_take,
        List.drop_drop, List.take_take, Int.toNat_natCast, hlong]
      rw [show r.offset (address + 32) = r.offset address + 32 from Region.offset_add hbefore 32]
    rw [hsize]
    exact ⟨hcheck, hdeclared, w, hw, h⟩
  · rintro ⟨hcheck, hdeclared, w, hw, h⟩
    rw [load, hcheck, ok_bind, hdeclared, asModule_ok, ok_bind]
    dsimp only
    rw [hw]
    exact h

/-- A module that opens in one region opens in every other one that covers the range of its
window and holds the same bytes there. -/
theorem load_of_agreeOn (h : load r address = .ok m)
    (hr' : r'.contains address (max m.fileSize headerSize : Nat) = true)
    (hagree : r.AgreeOn r' address (address + (max m.fileSize headerSize : Nat))) :
    load r' address = .ok m := by
  obtain ⟨hcheck, hdeclared, w, hw, hopen⟩ := load_eq_ok.mp h
  have hbefore := (Region.contains_iff.mp (Region.window_eq_ok.mp hw).1).2.1
  have hlong : (112 : Int) ≤ (max m.fileSize headerSize : Nat) := by
    simp only [headerSize]
    omega
  have hcovers : r'.contains address
      (address + (max m.fileSize headerSize : Nat) - address) = true := by
    rw [Region.contains_iff] at hr' ⊢
    omega
  refine load_eq_ok.mpr ⟨?_, ?_, w, ?_, hopen⟩
  · exact checkSignature_of_agreeOn hagree hbefore hcovers (Int.le_refl _) (by omega) hcheck
  · exact hagree.word hcovers (by omega) hbefore (by omega) hdeclared
  · exact hagree.window hcovers (Int.le_refl _) hbefore (Int.le_refl _) hw

/-- Where two regions both open a module and agree on the range of one of the windows, the modules
are the same. -/
theorem eq_of_agreeOn (h : load r address = .ok m) (h' : load r' address = .ok m')
    (hagree : r.AgreeOn r' address (address + (max m.fileSize headerSize : Nat))) : m' = m := by
  obtain ⟨_, hdeclared, w, hw, _⟩ := load_eq_ok.mp h
  obtain ⟨_, hdeclared', w', hw', _⟩ := load_eq_ok.mp h'
  have hin := (Region.window_eq_ok.mp hw).1
  have hin' := (Region.window_eq_ok.mp hw').1
  -- the declared size stands in the range, so both windows have the same range
  have hsize : m'.fileSize = m.fileSize := by
    have hheader : r.AgreeOn r' address (address + headerSize) :=
      hagree.mono (Int.le_refl _) (by omega)
    have hcovers : r'.contains address (address + headerSize - address) = true := by
      rw [Region.contains_iff] at hin' ⊢
      omega
    have hword := hheader.word hcovers (by omega) (Region.contains_iff.mp hin).2.1
      (by simp only [headerSize]; omega) hdeclared
    exact Except.ok.inj (hdeclared'.symm.trans hword)
  rw [hsize] at hin'
  exact Except.ok.inj (h'.symm.trans (load_of_agreeOn h hin' hagree))

end Module

namespace Session

/-- Where two regions both open a module and agree on the range of one of the windows, every
sequence of questions gets the same answers and the same failures from both modules, whatever was
kept before, whatever bytes lie outside the range and wherever the regions begin and end. -/
theorem answers_confined (h : Module.load r address = .ok m) (h' : Module.load r' address = .ok m')
    (hagree : r.AgreeOn r' address (address + (max m.fileSize headerSize : Nat))) :
    m' = m ∧ ∀ kept qs, answers m' kept qs = answers m kept qs := by
  have hm := Module.eq_of_agreeOn h h' hagree
  subst hm
  exact ⟨rfl, fun _ _ => rfl⟩

/-- A module of 116 bytes with one string, whose offset points behind the module. -/
def strayModule : List UInt8 :=
  magicBytes ++ [0x30, 0x33, 0x35, 0] ++ List.replicate 24 0 ++
    [116, 112, endianTag].flatMap (toBytesLE 4) ++ List.replicate 12 0 ++
    [1, 112, 0, 0, 0, 0, 0, 0, 0, 0, 0, 0].flatMap (toBytesLE 4) ++ List.replicate 8 0 ++
    toBytesLE 4 116

/-- The module at the address 16 between other bytes. Its string reads as a letter or as
nothing, if it is read behind the module. -/
def strayRegion (before : Nat) (behind : List UInt8) : Region :=
  let bytes := List.replicate before 1 ++ strayModule ++ behind
  Region.ofBuffer ⟨bytes.toArray⟩ (16 - before) (16 - before + bytes.length)

theorem strayRegion_byte (before : Nat) (behind : List UInt8) {k : Nat}
    (hk : k < strayModule.length) :
    (strayRegion before behind).bytes[(strayRegion before behind).offset (16 + (k : Nat))]? =
      strayModule[k]? := by
  have hoffset : (strayRegion before behind).offset (16 + (k : Nat)) = before + k := by
    simp only [strayRegion, Region.ofBuffer, Region.offset]
    omega
  have hcontents : (strayRegion before behind).contents =
      List.replicate before 1 ++ strayModule ++ behind := by
    simp only [strayRegion, Region.ofBuffer, Region.contents, Region.contents_cut, List.drop_zero]
    apply List.take_of_length_le
    omega
  rw [hoffset, ← Region.getElem?_contents, hcontents, List.append_assoc,
    List.getElem?_append_right (by rw [List.length_replicate]; omega), List.length_replicate,
    Nat.add_sub_cancel_left, List.getElem?_append_left hk]

theorem strayRegion_contains (before : Nat) (behind : List UInt8) :
    (strayRegion before behind).contains 16 strayModule.length = true := by
  rw [Region.contains_iff]
  simp only [strayRegion, Region.ofBuffer, List.length_append, List.length_replicate]
  omega

theorem strayRegion_load :
    ∃ m, Module.load (strayRegion 0 [1, 0x41, 0]) 16 = .ok m ∧ m.fileSize = 116 := by
  obtain ⟨m, hm, hsize⟩ := Decode.exists_of_any
    (d := Module.load (strayRegion 0 [1, 0x41, 0]) 16) (p := fun m => m.fileSize == 116)
    (by decide +kernel)
  exact ⟨m, hm, eq_of_beq hsize⟩

theorem answers_confined_strayModule :
    ∃ m m', Module.load (strayRegion 0 [1, 0x41, 0]) 16 = .ok m ∧
      Module.load (strayRegion 20 [0, 0]) 16 = .ok m' ∧
      (strayRegion 0 [1, 0x41, 0]).AgreeOn (strayRegion 20 [0, 0]) 16
        (16 + (max m.fileSize headerSize : Nat)) ∧
      m' = m ∧ ∀ kept qs, answers m' kept qs = answers m kept qs := by
  obtain ⟨m, hm, hsize⟩ := strayRegion_load
  have hagree : (strayRegion 0 [1, 0x41, 0]).AgreeOn (strayRegion 20 [0, 0]) 16
      (16 + (max m.fileSize headerSize : Nat)) := by
    intro address hstart hstop
    rw [hsize] at hstop
    simp only [headerSize] at hstop
    obtain ⟨k, hk⟩ := Int.eq_ofNat_of_zero_le (show 0 ≤ address - 16 by omega)
    obtain rfl : address = 16 + (k : Nat) := by omega
    have hlength : k < strayModule.length := by
      rw [show strayModule.length = 116 from rfl]
      omega
    rw [strayRegion_byte 0 _ hlength, strayRegion_byte 20 _ hlength]
  have hcontains : (strayRegion 20 [0, 0]).contains 16 (max m.fileSize headerSize : Nat) =
      true := by
    rw [hsize]
    exact strayRegion_contains 20 [0, 0]
  have hm' := Module.load_of_agreeOn hm hcontains hagree
  exact ⟨m, m, hm, hm', hagree, answers_confined hm hm' hagree⟩

end Session

end Dex

end OatImage
