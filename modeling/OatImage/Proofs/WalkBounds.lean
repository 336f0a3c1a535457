import OatImage.Proofs.RecordLayout
import OatImage.Proofs.TracedWalks

/-!
# Bounds of walks

A record takes at least twelve bytes, all of them in the image, and the next one is decoded
where it ends. So the records of a walk are packed from the start of the stream on, and the size
of the image bounds their number, whatever number the header declares. The traces of the walks
that an operation takes show the same bound for what it decodes.
-/
namespace OatImage

open Decode

namespace Image

/-! The room that records take. -/

/-- Records stand one behind the other from an address on, all of them in the window. -/
inductive Packed (region : Region) : Int → List DexFile → Prop
  | nil (start : Int) : Packed region start []
  | cons (file : DexFile) (files : List DexFile)
      (begin_le : region.begin ≤ file.record.address)
      (le_stop : file.record.address + file.record.size ≤ region.stop)
      (le_size : 12 ≤ file.record.size)
      (rest : Packed region (file.record.address + file.record.size) files) :
      Packed region file.record.address (file :: files)

/-- The number of records for which there is room from the start of the stream on. -/
def recordLimit (image : Image) : Int := max 0 ((image.stop - image.recordsStart) / 12)

variable {image : Image}

theorem decodeNext_range (hr : image.region.Backed) {cursor next : Int} {record : Record}
    (h : image.decodeNext cursor = .ok (record, next)) :
    record.address = cursor ∧ next = cursor + record.size ∧ 12 ≤ record.size ∧
      image.region.begin ≤ cursor ∧ next ≤ image.region.stop := by
  obtain ⟨location, checksum, dexOffset, classOffsets, hrecord, rfl, rfl⟩ :=
    (decodeNext_eq_ok_iff hr).mp h
  have hbegin := hrecord.bytes.begin_le
  have hstop := hrecord.bytes.le_stop
  rw [Record.length_encode] at hstop
  refine ⟨rfl, rfl, ?_, hbegin, ?_⟩ <;> simp only [recordAt] <;> omega

theorem packed_walkFrom (hr : image.region.Backed) (left index : Nat) (cursor : Int) :
    Packed image.region cursor (image.walkFrom left index cursor).files := by
  induction left generalizing index cursor with
  | zero => exact .nil cursor
  | succ left ih =>
      rw [walkFrom]
      rcases image.decodeEntry_cases index cursor with
        ⟨record, next, hok, hentry⟩ | ⟨e, entries, e', _, hentry⟩
      · obtain ⟨rfl, rfl, hsize, hbegin, hstop⟩ := decodeNext_range hr hok
        rw [hentry]
        exact .cons ⟨index, record⟩ _ hbegin hstop hsize (ih _ _)
      · rw [hentry]
        exact .nil cursor

theorem Packed.length_le {region : Region} {start : Int} {files : List DexFile}
    (h : Packed region start files) :
    files = [] ∨ start + 12 * files.length ≤ region.stop := by
  induction h with
  | nil start => exact .inl rfl
  | cons file files _ hstop hsize _ ih =>
      right
      rw [List.length_cons]
      rcases ih with rfl | hrest
      · rw [List.length_nil]
        omega
      · omega

/-- The addresses of a walk at which a record decodes. -/
def decodedIn (image : Image) (walk : List Int) : List Int :=
  walk.filter fun cursor => (image.decodeNext cursor).isOk

theorem Visits.length_le (hr : image.region.Backed) {start : Int} {walk : List Int}
    (h : image.Visits start walk) :
    walk.length ≤ (image.decodedIn walk).length + 1 ∧
      (image.decodedIn walk = [] ∨
        start + 12 * (image.decodedIn walk).length ≤ image.region.stop) := by
  induction h with
  | stopped cursor => exact ⟨Nat.zero_le _, .inl rfl⟩
  | failed cursor e herror =>
      have hnone : image.decodedIn [cursor] = [] := by
        rw [decodedIn, List.filter_cons, herror]
        rfl
      rw [hnone]
      exact ⟨Nat.le_refl _, .inl rfl⟩
  | decoded cursor next record rest hok _ ih =>
      obtain ⟨hlen, hroom⟩ := ih
      obtain ⟨_, hnext, hsize, _, hstop⟩ := decodeNext_range hr hok
      have hcons : image.decodedIn (cursor :: rest) = cursor :: image.decodedIn rest := by
        rw [decodedIn, List.filter_cons, hok]
        rfl
      rw [hcons, List.length_cons, List.length_cons]
      refine ⟨by omega, .inr ?_⟩
      rcases hroom with hnone | hroom
      · rw [hnone, List.length_nil]
        omega
      · omega

theorem le_recordLimit {n : Nat} (h : n = 0 ∨ image.recordsStart + 12 * n ≤ image.region.stop) :
    (n : Int) ≤ image.recordLimit := by
  rw [recordLimit, stop]
  omega

/-- A walk from the start of the stream decodes no more records than there is room for. If it
decodes at one address more, no record stands there and the walk fails. -/
structure IsBounded (image : Image) (walk : List Int) : Prop where
  visits : image.Visits image.recordsStart walk
  decoded : ((image.decodedIn walk).length : Int) ≤ image.recordLimit
  length : walk.length ≤ (image.decodedIn walk).length + 1

theorem Visits.isBounded (hr : image.region.Backed) {walk : List Int}
    (h : image.Visits image.recordsStart walk) : image.IsBounded walk := by
  obtain ⟨hlen, hroom⟩ := h.length_le hr
  exact ⟨h, le_recordLimit (hroom.imp_left (by rintro hnone; rw [hnone]; rfl)), hlen⟩

/-- The walks of the operations on an image are bounded by its size. What is traced of them is
all that they decode: the records up to the one that is answered, or all of them. -/
structure BoundedWalks (image : Image) : Prop where
  packed : Packed image.region image.recordsStart image.dexFiles.files
  yields : (image.dexFiles.files.length : Int) ≤ image.recordLimit
  dexFile : ∀ index, (image.dexFileTraced index).step = image.dexFile index ∧
    image.IsBounded (image.dexFileTraced index).trace
  findDexFile : ∀ location, (image.findDexFileTraced location).step = image.findDexFile location ∧
    image.IsBounded (image.findDexFileTraced location).trace
  findDexFileNamed : ∀ location,
    (image.findDexFileNamedTraced location).step = image.findDexFileNamed location ∧
    image.IsBounded (image.findDexFileNamedTraced location).trace
  taken : ∀ index file, (image.dexFile index).outcome = .ok file →
    ((image.dexFileTraced index).trace.length : Int) = index + 1
  found : ∀ location file, (image.findDexFile location).outcome = .ok (some file) →
    (image.findDexFileTraced location).trace.length = file.index + 1
  absent : ∀ location, (image.findDexFile location).outcome = .ok none →
    (image.findDexFileTraced location).trace.length = image.dexFileCount
  /-- A search for a class walks to each dex file that it asks. -/
  findClass : ∀ descriptor, (image.findClassTraced descriptor).step = image.findClass descriptor ∧
    (∀ walk ∈ (image.findClassTraced descriptor).trace, image.IsBounded walk) ∧
    ((image.findClassTraced descriptor).trace.length : Int) ≤ image.recordLimit + 1

/-- Whatever number of dex files the header of an image declares, its records are packed into the
image, and every walk ends after as many of them as there is room for. -/
theorem setup_boundedWalks {begin stop : Option Int} {memory : Option ByteArray}
    {asked : Option InstructionSet} (h : setup begin stop memory asked = .ok image) :
    image.BoundedWalks := by
  have hr := backed_of_setup h
  have hpacked : Packed image.region image.recordsStart image.dexFiles.files :=
    packed_walkFrom hr _ _ _
  have hyields : (image.dexFiles.files.length : Int) ≤ image.recordLimit :=
    le_recordLimit (hpacked.length_le.imp_left fun hnone => by rw [hnone]; rfl)
  obtain ⟨f, hf⟩ := image.exists_stopsAt
  obtain ⟨files, fault, href⟩ := hf.exists_reference hr
  have hlength (location : List UInt8) :=
    image.length_findTraced location image.dexFileCount 0 image.recordsStart
  exact {
    packed := hpacked
    yields := hyields
    dexFile := fun index =>
      ⟨image.step_dexFileTraced index, (image.visits_dexFileTraced index).isBounded hr⟩
    findDexFile := fun location =>
      ⟨image.step_findTraced _ _ _ _, (image.visits_findTraced _ _ _ _).isBounded hr⟩
    findDexFileNamed := fun location =>
      ⟨image.step_findDexFileNamedTraced location,
        (image.visits_findDexFileNamedTraced location).isBounded hr⟩
    taken := fun index file h => image.length_dexFileTraced h
    found := by
      intro location file h
      rw [findDexFile, ← step_findTraced] at h
      have hlen := (hlength location).1 file h
      rwa [Nat.zero_add] at hlen
    absent := by
      intro location h
      rw [findDexFile, ← step_findTraced] at h
      exact (hlength location).2 h
    findClass := by
      intro descriptor
      obtain ⟨hwalks, hlen⟩ :=
        visits_findClassFromTraced image href descriptor image.dexFileCount 0 (Nat.zero_le _)
      rw [href.walked.1] at hyields
      refine ⟨image.step_findClassTraced descriptor,
        fun walk hwalk => (hwalks walk hwalk).isBounded hr, ?_⟩
      rw [findClassTraced]
      omega }

/-- The header declares as many dex files as it can, and there is room for ten. -/
theorem setup_boundedWalks_loneRecord :
    ∃ image, setup (some (-100)) (some 94) (some ⟨loneRecord.toArray⟩) none = .ok image ∧
      image.dexFileCount = 4294967295 ∧ image.recordLimit = 10 ∧ image.BoundedWalks := by
  obtain ⟨image, h, hread⟩ := exists_setup_of_any (-100) 94 ⟨loneRecord.toArray⟩ none
    (p := fun image => image.dexFileCount = 4294967295 && image.recordLimit = 10)
    (by decide) (by decide +kernel) (by decide +kernel)
  rw [Bool.and_eq_true, decide_eq_true_eq, decide_eq_true_eq] at hread
  exact ⟨image, h, hread.1, hread.2, setup_boundedWalks h⟩

end Image

end OatImage
