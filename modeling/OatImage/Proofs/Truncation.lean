import OatImage.Proofs.Agreement
import OatImage.Proofs.MovedImages

/-!
# Images that are cut short

Bytes that are missing at the end of an image never change an answer. Whatever is set up over
the first bytes of a buffer is also set up over all of it, with the same header. On the cut
image each operation comes to what it comes to on the whole one, or fails to decode: no search
that runs into the cut reports that there is nothing to be found, and no record is read
differently because the bytes behind it are missing.
-/
namespace OatImage

open Decode

/-- The outcome on a cut image: that on the whole one, or a failure to decode. -/
def Decode.CutFrom {α : Type} (x whole : Decode α) : Prop :=
  x = whole ∨ ∃ e, x = .error (.decode e)

/-- An answer on the cut image is the answer on the whole one. -/
theorem Decode.CutFrom.answer {α : Type} {x whole : Decode α} {a : α} (h : x.CutFrom whole)
    (ha : x = .ok a) : whole = .ok a := by
  rcases h with rfl | ⟨e, he⟩
  · exact ha
  · rw [he] at ha
    cases ha

/-- Without a move, what tracks an outcome is what the outcome is cut from. -/
theorem Decode.Tracks.cutFrom {α : Type} {cut : Prop} {move : α → α} {x x' : Decode α}
    (h : Tracks 0 cut move x x') (hmove : move = id) : x.CutFrom x' := by
  subst hmove
  rcases h with rfl | ⟨_, hfail⟩
  · exact .inl (moveBy_id_zero x).symm
  · exact .inr hfail

theorem Decode.Tracks.cutFrom_map {α : Type} {cut : Prop} {move : α → α}
    {x x' : Decode (Option α)} (h : Tracks 0 cut (Option.map move) x x') (hmove : move = id) :
    x.CutFrom x' := by
  apply h.cutFrom
  rw [hmove, Option.map_id]

/-! Nothing changes where nothing moves. -/

theorem Header.moveBy_zero (h : Header) : h.moveBy 0 = h := by
  simp only [moveBy, Int.add_zero]

theorem Record.moveBy_zero : Record.moveBy 0 = id := by
  funext r
  simp only [moveBy, Int.add_zero, id]

theorem DexFile.moveBy_zero : DexFile.moveBy 0 = id := by
  funext f
  simp only [moveBy, Record.moveBy_zero, id]

theorem ClassRecord.moveBy_zero : ClassRecord.moveBy 0 = id := by
  funext c
  simp only [moveBy, Int.add_zero, Option.map_id', id]

theorem CodeSlot.moveBy_zero : CodeSlot.moveBy 0 = id := by
  funext s
  simp only [moveBy, Int.add_zero, id]

theorem ResolvedClass.moveBy_zero : ResolvedClass.moveBy 0 = id := by
  funext c
  simp only [moveBy, DexFile.moveBy_zero, ClassRecord.moveBy_zero, id]

theorem ResolvedMethod.moveBy_zero : ResolvedMethod.moveBy 0 = id := by
  funext x
  simp only [moveBy, ResolvedClass.moveBy_zero, CodeSlot.moveBy_zero, Option.map_id, id]

namespace Image

/-- What the first image shows of the second one is true of it: the header, every answer, and
the records of the directory up to the first one that fails. -/
structure CutFrom (image whole : Image) : Prop where
  header : image.header = whole.header
  instructionSet : image.instructionSet = whole.instructionSet
  storeStart : image.storeStart = whole.storeStart
  recordsStart : image.recordsStart = whole.recordsStart
  keyValueStore : image.keyValueStore.CutFrom whole.keyValueStore
  storeValue : ∀ key, (image.storeValue key).CutFrom (whole.storeValue key)
  decodeNext : ∀ cursor, (image.decodeNext cursor).CutFrom (whole.decodeNext cursor)
  /-- The walk yields a prefix, and all if it does not fail to decode. -/
  dexFiles : image.dexFiles.files <+: whole.dexFiles.files ∧
    ((image.dexFiles.files = whole.dexFiles.files ∧
        image.dexFiles.failure = whole.dexFiles.failure) ∨
      ∃ e, image.dexFiles.failure = some (.decode e))
  pull : ∀ k file, image.pull k = .ok (some file) → whole.pull k = .ok (some file)
  dexFile : ∀ index, (image.dexFile index).outcome.CutFrom (whole.dexFile index).outcome
  findDexFile : ∀ location,
    (image.findDexFile location).outcome.CutFrom (whole.findDexFile location).outcome
  findDexFileNamed : ∀ location,
    (image.findDexFileNamed location).outcome.CutFrom (whole.findDexFileNamed location).outcome
  module : ∀ file : DexFile, (file.module image).CutFrom (file.module whole)
  findClass : ∀ descriptor,
    (image.findClass descriptor).outcome.CutFrom (whole.findClass descriptor).outcome
  findClassIn : ∀ file descriptor,
    (image.findClassIn file descriptor).outcome.CutFrom (whole.findClassIn file descriptor).outcome
  classAt : ∀ file index,
    (image.classAt file index).outcome.CutFrom (whole.classAt file index).outcome
  bind : ∀ c x, (image.bind c x).outcome.CutFrom (whole.bind c x).outcome
  findDirectMethod : ∀ c name signature,
    (image.findDirectMethod c name signature).outcome.CutFrom
      (whole.findDirectMethod c name signature).outcome
  findVirtualMethod : ∀ c name signature,
    (image.findVirtualMethod c name signature).outcome.CutFrom
      (whole.findVirtualMethod c name signature).outcome
  findMethodIn : ∀ c name signature, (image.findMethodIn c name signature).outcome.CutFrom
    (whole.findMethodIn c name signature).outcome
  findMethod : ∀ descriptor name signature,
    (image.findMethod descriptor name signature).outcome.CutFrom
      (whole.findMethod descriptor name signature).outcome
  entryPoint : ∀ x : ResolvedMethod, x.entryPoint image = x.entryPoint whole
  codePointer : ∀ x : ResolvedMethod, x.codePointer image = x.codePointer whole

variable {image whole : Image} {cut : Prop}

/-- The records that both walks yield, where nothing moves. -/
theorem Extends.dexFiles_cutFrom (h : image.Extends 0 cut whole) :
    image.dexFiles.files <+: whole.dexFiles.files ∧
      ((image.dexFiles.files = whole.dexFiles.files ∧
          image.dexFiles.failure = whole.dexFiles.failure) ∨
        ∃ e, image.dexFiles.failure = some (.decode e)) := by
  have hfault : Fault.moveBy 0 = id := funext Fault.moveBy_zero
  have htracks := h.dexFiles
  simp only [Walked.Tracks, DexFile.moveBy_zero, hfault, List.map_id, Option.map_id, id]
    at htracks
  rcases htracks with ⟨hfiles, hfail⟩ | ⟨_, hfail, hinitial⟩
  · exact ⟨hfiles ▸ List.prefix_rfl, .inl ⟨hfiles.symm, hfail.symm⟩⟩
  · exact ⟨hinitial, .inr hfail⟩

theorem Extends.pull_cutFrom (h : image.Extends 0 cut whole) (k : Nat) (file : DexFile)
    (hpull : image.pull k = .ok (some file)) : whole.pull k = .ok (some file) := by
  rcases h.pull k with htracks | ⟨_, hnone⟩
  · exact (htracks.cutFrom_map DexFile.moveBy_zero).answer hpull
  · rw [hnone] at hpull
    cases hpull

/-- Where nothing moves every answer on the first image is an answer on the second one. -/
theorem Extends.cutFrom (h : image.Extends 0 cut whole) : image.CutFrom whole where
  header := by rw [h.header, Header.moveBy_zero]
  instructionSet := h.instructionSet.symm
  storeStart := by rw [h.storeStart_eq, Int.add_zero]
  recordsStart := by rw [h.recordsStart_eq, Int.add_zero]
  keyValueStore := (h.keyValueStore (.inl rfl)).cutFrom rfl
  storeValue key := (h.storeValue (.inl rfl) key).cutFrom rfl
  decodeNext cursor := by
    apply (h.decodeNext (Int.add_zero cursor).symm).cutFrom
    rw [Record.moveBy_zero]
    funext found
    simp only [Prod.map, Int.add_zero, id]
  dexFiles := h.dexFiles_cutFrom
  pull := h.pull_cutFrom
  dexFile index := (h.dexFile index).cutFrom DexFile.moveBy_zero
  findDexFile location :=
    (h.findDexFile location).cutFrom_map DexFile.moveBy_zero
  findDexFileNamed location :=
    (h.findDexFileNamed location).cutFrom_map DexFile.moveBy_zero
  module file := by
    have htracks := h.module file
    rw [DexFile.moveBy_zero] at htracks
    exact htracks.cutFrom (funext Dex.Module.moveBy_zero)
  findClass descriptor :=
    (h.findClass (.inl rfl) descriptor).cutFrom_map ResolvedClass.moveBy_zero
  findClassIn file descriptor := by
    have htracks := h.findClassIn (.inl rfl) file descriptor
    rw [DexFile.moveBy_zero] at htracks
    exact htracks.cutFrom_map ResolvedClass.moveBy_zero
  classAt file index := by
    have htracks := h.classAt (.inl rfl) file index
    rw [DexFile.moveBy_zero] at htracks
    exact htracks.cutFrom ResolvedClass.moveBy_zero
  bind c x := by
    have htracks := h.bind c x
    rw [ResolvedClass.moveBy_zero] at htracks
    exact htracks.cutFrom ResolvedMethod.moveBy_zero
  findDirectMethod c name signature := by
    have htracks := h.findDirectMethod (.inl rfl) c name signature
    rw [ResolvedClass.moveBy_zero] at htracks
    exact htracks.cutFrom_map ResolvedMethod.moveBy_zero
  findVirtualMethod c name signature := by
    have htracks := h.findVirtualMethod (.inl rfl) c name signature
    rw [ResolvedClass.moveBy_zero] at htracks
    exact htracks.cutFrom_map ResolvedMethod.moveBy_zero
  findMethodIn c name signature := by
    have htracks := h.findMethodIn (.inl rfl) c name signature
    rw [ResolvedClass.moveBy_zero] at htracks
    exact htracks.cutFrom_map ResolvedMethod.moveBy_zero
  findMethod descriptor name signature :=
    (h.findMethod (.inl rfl) descriptor name signature).cutFrom_map ResolvedMethod.moveBy_zero
  entryPoint x := by
    have hentry := h.entryPoint x
    rw [ResolvedMethod.moveBy_zero, map_add_zero] at hentry
    exact hentry.symm
  codePointer x := by
    have hcode := h.codePointer (.inl rfl) x
    rw [ResolvedMethod.moveBy_zero, map_add_zero] at hcode
    exact hcode.symm

/-- The region over the first bytes of a buffer shows what the region over all of them shows. -/
theorem extends_append (memory rest : ByteArray) (base : Int) :
    (Region.ofBuffer memory base (base + memory.size)).Extends 0 True
      (Region.ofBuffer (memory ++ rest) base (base + (memory ++ rest).size)) where
  backed := Region.ofBuffer_backed (by omega) (by omega)
  backed' := Region.ofBuffer_backed (by omega) (by omega)
  begin_eq := (Int.add_zero base).symm
  stop_eq := by
    refine .inr ⟨trivial, ?_⟩
    simp only [Region.ofBuffer, ByteArray.size_append]
    omega
  contents := by
    have hshort : (base + memory.size - base).toNat = memory.size := by omega
    have hlong : (base + (memory ++ rest).size - base).toNat = (memory ++ rest).size := by omega
    have hlist : (memory ++ rest).data.toList = memory.data.toList ++ rest.data.toList :=
      ByteArray.toList_data_append
    simp only [Region.ofBuffer, Region.contents, Region.contents_cut, hshort, hlong, Nat.sub_zero,
      List.drop_zero, hlist]
    rw [List.take_of_length_le (Nat.le_of_eq rfl : memory.data.toList.length ≤ memory.size),
      List.take_of_length_le
        (Nat.le_of_eq (congrArg List.length hlist.symm) :
          (memory.data.toList ++ rest.data.toList).length ≤ (memory ++ rest).size)]
    exact List.prefix_append _ _

/-- What is set up over the first bytes of a buffer is set up over all of it, and all that the
cut image answers is true of the whole one. -/
theorem ofBuffer_append {memory : ByteArray} {base : Int} {asked : Option InstructionSet}
    (h : ofBuffer (some memory) base asked = .ok image) (rest : ByteArray) :
    ∃ whole, ofBuffer (some (memory ++ rest)) base asked = .ok whole ∧ image.CutFrom whole := by
  unfold ofBuffer at h
  obtain ⟨b, s, buffer, header, hb, hs, hmemory, hbs, _, hheader, rfl⟩ := setup_eq_ok h
  cases hb
  cases hs
  cases hmemory
  have hext := extends_append memory rest base
  rcases Header.decode_tracks hext (Int.add_zero base).symm with hwhole | ⟨_, e, he⟩
  · have hdecode : Header.decode (Region.ofBuffer (memory ++ rest) base
        (base + (memory ++ rest).size)) base = .ok (header.moveBy 0) := by
      rw [hwhole]
      exact congrArg (Decode.moveBy 0 (Header.moveBy 0)) hheader
    have hrange : base < base + ((memory ++ rest).size : Int) := by
      rw [ByteArray.size_append]
      simp only [Option.map_some, Option.getD_some] at hbs
      omega
    exact ⟨_, setup_of_decode hrange (by omega) hdecode asked,
      (extends_ofHeader hext header asked).cutFrom⟩
  · exact absurd (hheader.symm.trans he) (fun hne => nomatch hne)

/-- The header of two dex files that is cut before the first record, and all of the bytes. -/
theorem ofBuffer_append_cutStream :
    ∃ image whole, ofBuffer (some (cutStream.extract 0 72)) (-16) none = .ok image ∧
      ofBuffer (some (cutStream.extract 0 72 ++ cutStream.extract 72 76)) (-16) none = .ok whole ∧
        image.CutFrom whole := by
  obtain ⟨image, himage, _⟩ := exists_ofBuffer_of_any (-16) (cutStream.extract 0 72) none
    (p := fun _ => true) (by decide) (by decide +kernel)
  obtain ⟨whole, hwhole, hcut⟩ := ofBuffer_append himage (cutStream.extract 72 76)
  exact ⟨image, whole, himage, hwhole, hcut⟩

end Image

end OatImage
