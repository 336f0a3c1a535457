import OatImage.Proofs.ExactReads
import OatImage.Proofs.ModuleFaults

/-!
# The head of a module

The number of class definitions of a module is read twice: ahead of the module, straight from
the image, and with the rest of the header once the module is opened, through its window. Both
reads come to the same four bytes, so they answer alike.
-/
namespace OatImage.Dex

open Decode

variable {r : Region} {address : Int}

/-- The check of the signature passes exactly where the magic and a supported version stand. -/
theorem checkSignature_eq_ok_iff (hr : r.Backed) : checkSignature r address = .ok () ↔
    ∃ version ∈ supportedVersions, r.Bears address (magicBytes ++ version) := by
  constructor
  · intro h
    obtain ⟨hc, hmagic, hversion⟩ := signature_of_check h
    have hplace : r.contains address (8 : Nat) = true := hc
    refine ⟨_, hversion, ?_⟩
    rw [← hmagic, List.take_append_drop]
    exact (hr.bears_slice hplace).2
  · rintro ⟨version, hversion, h⟩
    have hlen : version.length = 4 :=
      (by decide : ∀ version ∈ supportedVersions, version.length = 4) version hversion
    have hread : r.readBytes address 8 "DEX magic" = .ok (magicBytes ++ version) :=
      hr.readBytes_eq_ok_iff.mpr ⟨by rw [List.length_append, hlen]; rfl, h⟩
    have htake : (magicBytes ++ version).take 4 = magicBytes := rfl
    have hdrop : (magicBytes ++ version).drop 4 = version := rfl
    rw [checkSignature, hread]
    simp only [asModule_ok, ok_bind]
    rw [htake, hdrop, if_neg fun hne => hne rfl, if_neg fun hnot => hnot hversion]
    rfl

theorem classDefCount_eq_ok_iff (hr : r.Backed) {count : Nat} :
    classDefCount r address = .ok count ↔
      (∃ version ∈ supportedVersions, r.Bears address (magicBytes ++ version)) ∧
        IsWord count ∧ r.Bears (address + 96) (toBytesLE 4 count) := by
  rw [← checkSignature_eq_ok_iff hr, classDefCount, bind_eq_ok]
  simp only [asModule_eq_ok]
  exact ⟨fun ⟨_, hcheck, hcount⟩ => ⟨hcheck, hr.word_eq_ok_iff.mp hcount⟩,
    fun ⟨hcheck, hcount⟩ => ⟨(), hcheck, hr.word_eq_ok_iff.mpr hcount⟩⟩

namespace Module

variable {m : Module}

/-- The table of class definitions is the last of those in the header of the window. -/
theorem classDefs_of_ofWindow {w : Region} (h : ofWindow w address = .ok m) :
    ∃ before : List Nat, before.length = 10 ∧ w.u32s (address + 56) 12 "DEX header" =
      .ok (before ++ [m.classDefs.count, m.classDefs.offset]) := by
  unfold ofWindow at h
  obtain ⟨versionBytes, _, h⟩ := bind_eq_ok.mp h
  split at h
  · cases h
  obtain ⟨sizes, _, h⟩ := bind_eq_ok.mp h
  split at h
  · rename_i tag _
    by_cases htag : tag ≠ endianTag
    · rw [if_pos htag] at h
      cases h
    rw [if_neg htag] at h
    obtain ⟨tables, htables, h⟩ := bind_eq_ok.mp h
    rw [asModule_eq_ok] at htables
    split at h
    · cases h
      exact ⟨[_, _, _, _, _, _, _, _, _, _], rfl, htables⟩
    · cases h
  · cases h

/-- An opened module has as many class definitions as were counted ahead of it. -/
theorem classDefCount_of_load (hr : r.Backed) (h : load r address = .ok m) {count : Nat}
    (hcount : classDefCount r address = .ok count) : m.classDefs.count = count := by
  obtain ⟨hback, _, _, _⟩ := window_of_load hr h
  obtain ⟨_, hword, hahead⟩ := (classDefCount_eq_ok_iff hr).mp hcount
  unfold load at h
  obtain ⟨_, _, h⟩ := bind_eq_ok.mp h
  obtain ⟨declared, _, h⟩ := bind_eq_ok.mp h
  obtain ⟨w, hw, h⟩ := bind_eq_ok.mp h
  rw [asModule_eq_ok] at hw
  rw [(window_of_ofWindow h).1] at hback
  obtain ⟨before, hlen, htables⟩ := classDefs_of_ofWindow h
  obtain ⟨_, hwords, hbears⟩ := hback.u32s_eq_ok_iff.mp htables
  -- of the twelve words the eleventh stands where the count ahead was read
  have hopened : r.Bears (address + 96) (toBytesLE 4 m.classDefs.count) := by
    have hsplit : wordBytes (before ++ [m.classDefs.count, m.classDefs.offset]) =
        wordBytes before ++ (toBytesLE 4 m.classDefs.count ++ wordBytes [m.classDefs.offset]) := by
      simp only [wordBytes, List.flatMap_append, List.flatMap_cons]
    have hplace := hr.bears_of_window hw hbears
    rw [hsplit, Region.bears_append, Region.bears_append, length_wordBytes, hlen] at hplace
    have haddress : address + 56 + ((4 * 10 : Nat) : Int) = address + 96 := by omega
    exact haddress ▸ hplace.2.1
  exact toBytesLE_inj (hwords _ (by simp)) hword
    (hopened.unique hahead (by rw [length_toBytesLE, length_toBytesLE]))

end Module

end OatImage.Dex
