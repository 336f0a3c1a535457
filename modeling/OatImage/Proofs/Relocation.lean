import OatImage.Proofs.Agreement
import OatImage.Proofs.MovedImages

/-!
# Images at other addresses

Where an image lies does not matter. Set up over the same bytes at another base address, it
answers every question alike: the same value with each absolute address in it moved by the
distance of the two bases, or the same failure with its address moved. Machine code is the one
exception: where bit 0 of an entry point is a tag that is cleared, an odd distance changes
which entry points have it.
-/
namespace OatImage

open Decode

theorem InstructionSet.isTagged_eq_false {isa : InstructionSet} (harm : isa ≠ .arm)
    (hthumb : isa ≠ .thumb2) : isa.isTagged = false := by
  cases isa with
  | arm => exact absurd rfl harm
  | thumb2 => exact absurd rfl hthumb
  | none | arm64 | x86 | x86_64 | mips | mips64 => rfl

namespace Image

/-- Every operation on the second image comes to what it comes to on the first image, moved. -/
structure RelocatesTo (d : Int) (image image' : Image) : Prop where
  header : image'.header = image.header.moveBy d
  instructionSet : image'.instructionSet = image.instructionSet
  storeStart : image'.storeStart = image.storeStart + d
  recordsStart : image'.recordsStart = image.recordsStart + d
  keyValueStore : image'.keyValueStore = image.keyValueStore.moveBy d id
  storeValue : ∀ key, image'.storeValue key = (image.storeValue key).moveBy d id
  decodeNext : ∀ cursor, image'.decodeNext (cursor + d) =
    (image.decodeNext cursor).moveBy d (Prod.map (Record.moveBy d) (· + d))
  /-- A step of a walk answers alike and leaves the walk in the same state, moved. -/
  advance : ∀ w : Walk,
    (image'.advance (w.moveBy d)).1.outcome =
        (image.advance w).1.outcome.moveBy d (Option.map (DexFile.moveBy d)) ∧
      (image'.advance (w.moveBy d)).2 = (image.advance w).2.moveBy d
  pull : ∀ k, image'.pull k = (image.pull k).moveBy d (Option.map (DexFile.moveBy d))
  dexFiles : image'.dexFiles.files = image.dexFiles.files.map (DexFile.moveBy d) ∧
    image'.dexFiles.failure = image.dexFiles.failure.map (Fault.moveBy d)
  dexFile : ∀ index, (image'.dexFile index).outcome =
    (image.dexFile index).outcome.moveBy d (DexFile.moveBy d)
  findDexFile : ∀ location, (image'.findDexFile location).outcome =
    (image.findDexFile location).outcome.moveBy d (Option.map (DexFile.moveBy d))
  findDexFileNamed : ∀ location, (image'.findDexFileNamed location).outcome =
    (image.findDexFileNamed location).outcome.moveBy d (Option.map (DexFile.moveBy d))
  module : ∀ file : DexFile, (file.moveBy d).module image' =
    (file.module image).moveBy d (Dex.Module.moveBy d)
  findClass : ∀ descriptor, (image'.findClass descriptor).outcome =
    (image.findClass descriptor).outcome.moveBy d (Option.map (ResolvedClass.moveBy d))
  findClassIn : ∀ (file : DexFile) descriptor,
    (image'.findClassIn (file.moveBy d) descriptor).outcome =
      (image.findClassIn file descriptor).outcome.moveBy d (Option.map (ResolvedClass.moveBy d))
  classAt : ∀ (file : DexFile) index, (image'.classAt (file.moveBy d) index).outcome =
    (image.classAt file index).outcome.moveBy d (ResolvedClass.moveBy d)
  bind : ∀ (c : ResolvedClass) x, (image'.bind (c.moveBy d) x).outcome =
    (image.bind c x).outcome.moveBy d (ResolvedMethod.moveBy d)
  findDirectMethod : ∀ (c : ResolvedClass) name signature,
    (image'.findDirectMethod (c.moveBy d) name signature).outcome =
      (image.findDirectMethod c name signature).outcome.moveBy d
        (Option.map (ResolvedMethod.moveBy d))
  findVirtualMethod : ∀ (c : ResolvedClass) name signature,
    (image'.findVirtualMethod (c.moveBy d) name signature).outcome =
      (image.findVirtualMethod c name signature).outcome.moveBy d
        (Option.map (ResolvedMethod.moveBy d))
  findMethodIn : ∀ (c : ResolvedClass) name signature,
    (image'.findMethodIn (c.moveBy d) name signature).outcome =
      (image.findMethodIn c name signature).outcome.moveBy d (Option.map (ResolvedMethod.moveBy d))
  findMethod : ∀ descriptor name signature,
    (image'.findMethod descriptor name signature).outcome =
      (image.findMethod descriptor name signature).outcome.moveBy d
        (Option.map (ResolvedMethod.moveBy d))
  entryPoint : ∀ x : ResolvedMethod, (x.moveBy d).entryPoint image' =
    (x.entryPoint image).map (· + d)
  /-- Clearing bit 0 commutes with even distances only. -/
  codePointer : d % 2 = 0 ∨ (image.instructionSet ≠ .arm ∧ image.instructionSet ≠ .thumb2) →
    ∀ x : ResolvedMethod, (x.moveBy d).codePointer image' = (x.codePointer image).map (· + d)

variable {d : Int} {image image' : Image}

/-- Without a cut every operation on the second image is the same one, moved. -/
theorem Extends.relocatesTo (h : image.Extends d False image') (hd : image.region.Unsigned d) :
    image.RelocatesTo d image' where
  header := h.header
  instructionSet := h.instructionSet
  storeStart := h.storeStart_eq
  recordsStart := h.recordsStart_eq
  keyValueStore := (h.keyValueStore hd).eq_moveBy
  storeValue key := (h.storeValue hd key).eq_moveBy
  decodeNext _ := (h.decodeNext rfl).eq_moveBy
  advance w := (h.advance w).resolve_right fun hcut => hcut.1
  pull k := ((h.pull k).resolve_right fun hcut => hcut.1).eq_moveBy
  dexFiles := h.dexFiles.resolve_right fun hcut => hcut.1
  dexFile index := (h.dexFile index).eq_moveBy
  findDexFile location := (h.findDexFile location).eq_moveBy
  findDexFileNamed location := (h.findDexFileNamed location).eq_moveBy
  module file := (h.module file).eq_moveBy
  findClass descriptor := (h.findClass hd descriptor).eq_moveBy
  findClassIn file descriptor := (h.findClassIn hd file descriptor).eq_moveBy
  classAt file index := (h.classAt hd file index).eq_moveBy
  bind c x := (h.bind c x).eq_moveBy
  findDirectMethod c name signature := (h.findDirectMethod hd c name signature).eq_moveBy
  findVirtualMethod c name signature := (h.findVirtualMethod hd c name signature).eq_moveBy
  findMethodIn c name signature := (h.findMethodIn hd c name signature).eq_moveBy
  findMethod descriptor name signature := (h.findMethod hd descriptor name signature).eq_moveBy
  entryPoint := h.entryPoint
  codePointer hcode :=
    h.codePointer (hcode.imp_right fun hisa => InstructionSet.isTagged_eq_false hisa.1 hisa.2)

theorem ofBuffer_region_moveBy (memory : ByteArray) (begin stop d : Int) :
    Region.ofBuffer memory (begin + d) (stop + d) =
      (Region.ofBuffer memory begin stop).moveBy d := by
  have hsize : stop + d - (begin + d) = stop - begin := by omega
  simp only [Region.ofBuffer, Region.moveBy, hsize]

/-- A range that is moved as a whole can be set up where it could be set up before, and fails
for the same reason where it could not. -/
theorem setup_moveBy (begin stop d : Int) (memory : Option ByteArray)
    (asked : Option InstructionSet) :
    setup (some (begin + d)) (some (stop + d)) memory asked =
      (setup (some begin) (some stop) memory asked).moveBy d (Image.moveBy d) := by
  refine Tracks.eq_moveBy ?_
  refine Tracks.ite (by omega) (fun _ => Tracks.error (.setup (.inverted begin stop)))
    fun hrange => ?_
  cases memory with
  | none => exact Tracks.error (.setup .noMemory)
  | some memory =>
      have hsize : stop + d - (begin + d) = stop - begin := by omega
      dsimp only
      rw [hsize]
      refine Tracks.ite Iff.rfl
        (fun _ => Tracks.error (.setup (.shortMemory memory.size (stop - begin)))) fun hmem => ?_
      have hback := Region.ofBuffer_backed (Int.le_of_not_le hrange)
        (by omega : stop - begin ≤ memory.size)
      rw [ofBuffer_region_moveBy]
      exact (Header.decode_tracks hback.extends_moveBy rfl).bind fun header _ =>
        Tracks.pure (ofHeader (Region.ofBuffer memory begin stop) header asked)

theorem ofBuffer_add (memory : Option ByteArray) (base d : Int) (asked : Option InstructionSet) :
    ofBuffer memory (base + d) asked = (ofBuffer memory base asked).moveBy d (Image.moveBy d) := by
  unfold ofBuffer
  dsimp only
  rw [Int.add_right_comm base d]
  exact setup_moveBy _ _ d memory asked

theorem begin_of_ofBuffer {memory : Option ByteArray} {base : Int} {asked : Option InstructionSet}
    (h : ofBuffer memory base asked = .ok image) :
    image.region.Backed ∧ image.region.begin = base := by
  unfold ofBuffer at h
  refine ⟨backed_of_setup h, ?_⟩
  obtain ⟨b, s, buffer, header, hb, _, _, _, _, _, rfl⟩ := setup_eq_ok h
  cases hb
  rfl

/-- At two base addresses that are not negative, a buffer is set up as an image at both or at
neither, with the same failure; and every operation on the one image comes to what it comes to
on the other one, with each absolute address moved by the distance. -/
theorem ofBuffer_relocates (memory : ByteArray) (asked : Option InstructionSet) {base base' : Int}
    (hbase : 0 ≤ base) (hbase' : 0 ≤ base') :
    ofBuffer (some memory) base' asked =
        (ofBuffer (some memory) base asked).moveBy (base' - base) (Image.moveBy (base' - base)) ∧
      ∀ image image', ofBuffer (some memory) base asked = .ok image →
        ofBuffer (some memory) base' asked = .ok image' →
          image.RelocatesTo (base' - base) image' := by
  have hmove := ofBuffer_add (some memory) base (base' - base) asked
  rw [show base + (base' - base) = base' by omega] at hmove
  refine ⟨hmove, fun image image' himage himage' => ?_⟩
  obtain ⟨hback, hbegin⟩ := begin_of_ofBuffer himage
  rw [hmove, himage] at himage'
  obtain rfl : image.moveBy (base' - base) = image' := Except.ok.inj himage'
  exact (extends_moveBy hback).relocatesTo (.inr (by omega))

/-- The first record of the image decodes and the second one does not. -/
theorem ofBuffer_relocates_cutDirectory :
    ∃ image image', ofBuffer (some cutDirectory) 4096 none = .ok image ∧
      ofBuffer (some cutDirectory) 8193 none = .ok image' ∧ image.IsCutDirectory ∧
        image.RelocatesTo (8193 - 4096) image' := by
  obtain ⟨image, h⟩ := exists_isCutDirectory
  have himage : ofBuffer (some cutDirectory) 4096 none = .ok image := by
    have hsize : (4096 : Int) + cutDirectory.size = 4297 := by decide +kernel
    rw [ofBuffer, Option.map_some, Option.getD_some, hsize]
    exact h.setup
  obtain ⟨hmove, hops⟩ := ofBuffer_relocates cutDirectory none (by decide : (0 : Int) ≤ 4096)
    (by decide : (0 : Int) ≤ 8193)
  rw [himage] at hmove
  exact ⟨image, _, himage, hmove, h, hops image _ himage hmove⟩

end Image

end OatImage
