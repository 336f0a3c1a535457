import OatImage.Proofs.Agreement
import OatImage.ResolvedMethod

/-!
# Failures of the operations

Whatever is asked of an image that was set up, a failure is a decoding failure; only an
index beyond the directory is refused in another way. A search that steps from dex file to
dex file stays within the directory, so it is never refused, and the walk that takes a
record is never asked for more records than there are.
-/
namespace OatImage

open Decode Fault

/-- A string holds no surrogate, so it has a UTF-8 form. -/
theorem Text.isScalar_ofString (s : String) : (Text.ofString s).isScalar = true := by
  refine List.all_eq_true.mpr fun c hc => ?_
  obtain ⟨char, _, rfl⟩ := List.mem_map.mp hc
  have hvalid := char.valid
  simp only [UInt32.isValidChar, Nat.isValidChar] at hvalid
  have hval : (CodePoint.ofChar char).val = char.val.toNat := rfl
  simp only [CodePoint.isSurrogate, hval, Bool.not_eq_true', Bool.and_eq_false_iff,
    decide_eq_false_iff_not]
  omega

namespace Image

variable {image : Image}

theorem keyValueStore_failsOnly (image : Image) : FailsOnly IsDecode image.keyValueStore :=
  KeyValueStore.read_failsOnly _ _ _

theorem storeValue_failsOnly (image : Image) (key : String) :
    FailsOnly IsDecode (image.storeValue key) :=
  (KeyValueStore.read_failsOnly _ _ _).bind fun _ _ => FailsOnly.pure _

section
variable (hr : image.region.Backed)
include hr

/-! The directory. -/

theorem decodeEntry_failsOnly (index : Nat) (cursor : Int) :
    FailsOnly IsDecode (image.decodeEntry index cursor).outcome := by
  have hnext := (decodeNext_failsOnly hr cursor).mono fun _ => IsLocal.isDecode
  rw [decodeEntry, Logged.outcome_reporting]
  exact (hnext.bind fun _ _ => FailsOnly.pure _).withContext _ _ _

theorem advance_failsOnly (w : Walk) : FailsOnly IsDecode (image.advance w).1.outcome := by
  have hentry := decodeEntry_failsOnly hr w.index w.cursor
  rw [advance]
  by_cases h : (w.ended || image.dexFileCount ≤ w.index) = true
  · rw [if_pos h]
    exact FailsOnly.ok _
  · rw [if_neg h]
    cases hd : image.decodeEntry w.index w.cursor with
    | mk entries outcome =>
        rw [hd] at hentry
        cases outcome with
        | ok reached => exact FailsOnly.ok _
        | error e => exact FailsOnly.error (hentry e rfl)

theorem walkFrom_failure_isDecode (left index : Nat) (cursor : Int) :
    ∀ e, (image.walkFrom left index cursor).failure = some e → e.IsDecode := by
  induction left generalizing index cursor with
  | zero =>
      intro e he
      cases he
  | succ left ih =>
      intro e he
      have hentry := decodeEntry_failsOnly hr index cursor
      rw [walkFrom] at he
      cases hd : image.decodeEntry index cursor with
      | mk entries outcome =>
          rw [hd] at hentry he
          cases outcome with
          | ok reached => exact ih _ _ e he
          | error e' =>
              cases he
              exact hentry _ rfl

theorem findFrom_failsOnly (location : List UInt8) (left index : Nat) (cursor : Int) :
    FailsOnly IsDecode (image.findFrom location left index cursor).outcome := by
  induction left generalizing index cursor with
  | zero => exact FailsOnly.ok _
  | succ left ih =>
      rw [findFrom, Logged.outcome_bind]
      refine (decodeEntry_failsOnly hr index cursor).bind fun reached _ => ?_
      obtain ⟨file, next⟩ := reached
      dsimp only
      by_cases h : file.record.location = location
      · rw [if_pos h]
        exact FailsOnly.ok _
      · rw [if_neg h]
        exact ih _ _

theorem findDexFile_failsOnly (location : List UInt8) :
    FailsOnly IsDecode (image.findDexFile location).outcome :=
  findFrom_failsOnly hr location _ _ _

theorem findDexFileNamed_failsOnly (location : String) :
    FailsOnly IsDecode (image.findDexFileNamed (Text.ofString location)).outcome := by
  rw [findDexFileNamed, Utf8.encode?, if_pos (Text.isScalar_ofString location)]
  exact findDexFile_failsOnly hr _

/-- Within the directory a record is taken or a record does not decode. In particular the
walk that takes it is not over before. -/
theorem dexFile_failsOnly {i : Int} (h₀ : 0 ≤ i) (hn : i < image.dexFileCount) :
    FailsOnly IsDecode (image.dexFile i).outcome := by
  obtain ⟨f, hf⟩ := image.exists_stopsAt
  obtain ⟨files, fault, href⟩ := hf.exists_reference hr
  obtain ⟨k, rfl⟩ := Int.eq_ofNat_of_zero_le h₀
  rcases Nat.lt_or_ge k files.length with hk | hk
  · rw [href.taken hk]
    exact FailsOnly.ok _
  · obtain ⟨e, _, he⟩ := href.takenBehind hk (Int.ofNat_lt.mp hn)
    rw [he]
    exact FailsOnly.error ⟨e, rfl⟩

/-! Classes. -/

theorem module_failsOnly (file : DexFile) : FailsOnly IsModule (file.module image) :=
  Dex.Module.load_failsOnly hr _

theorem classRecord_failsOnly (file : DexFile) (index : Int) :
    FailsOnly IsDecode (image.classRecord file index) := by
  unfold classRecord
  cases file.record.classOffsets[index.toNat]? with
  | none => exact FailsOnly.error ⟨_, rfl⟩
  | some offset => exact ClassRecord.decode_failsOnly hr _

theorem resolve_failsOnly (file : DexFile) (definition : Dex.ClassDef) (asked : Option Text) :
    FailsOnly IsDecode (image.resolve file definition asked).outcome := by
  rw [resolve, Logged.outcome_reporting]
  exact ((classRecord_failsOnly hr file _).bind fun _ _ => FailsOnly.pure _).withContext _ _ _

/-- A step that asks the module of a dex file fails as the module does. -/
theorem ofModule_failsOnlyModule {α : Type} (file : DexFile) {ask : Dex.Module → Decode α}
    (h : ∀ m : Dex.Module, m.window.Backed → FailsOnly IsModule (ask m)) :
    FailsOnly IsModule (do ask (← file.module image)) :=
  (module_failsOnly hr file).bind fun m hm => h m (Dex.Module.window_of_load hr hm).1

theorem ofModule_failsOnly {α : Type} (file : DexFile) {ask : Dex.Module → Decode α}
    (h : ∀ m : Dex.Module, m.window.Backed → FailsOnly IsModule (ask m)) :
    FailsOnly IsDecode (do ask (← file.module image)) :=
  (ofModule_failsOnlyModule hr file h).mono fun _ => IsModule.isDecode

theorem findClassIn_failsOnly (file : DexFile) (descriptor : Text) :
    FailsOnly IsDecode (image.findClassIn file descriptor).outcome := by
  rw [findClassIn, Logged.outcome_bind]
  have hlocate := ofModule_failsOnly hr file fun m hm =>
    Dex.Module.locate_failsOnly hm descriptor
  refine (hlocate.withContext _ _ _).bind fun found _ => ?_
  cases found with
  | none => exact FailsOnly.ok _
  | some definition =>
      rw [Logged.outcome_map]
      exact (resolve_failsOnly hr _ _ _).map _

theorem classAt_failsOnly (file : DexFile) (index : Int) :
    FailsOnly IsDecode (image.classAt file index).outcome := by
  rw [classAt, Logged.outcome_bind]
  have hdef := ofModule_failsOnly hr file fun m hm =>
    Dex.Module.classDef_failsOnly hm index
  exact (hdef.withContext _ _ _).bind fun _ _ => resolve_failsOnly hr _ _ _

/-- The search goes through the directory and not beyond. -/
theorem findClassFrom_failsOnly (descriptor : Text) (left index : Nat)
    (h : index + left ≤ image.dexFileCount) :
    FailsOnly IsDecode (image.findClassFrom descriptor left index).outcome := by
  induction left generalizing index with
  | zero => exact FailsOnly.ok _
  | succ left ih =>
      rw [findClassFrom, Logged.outcome_bind]
      refine (dexFile_failsOnly hr (by omega) (by omega)).bind fun file _ => ?_
      rw [Logged.outcome_bind]
      refine (findClassIn_failsOnly hr file descriptor).bind fun found _ => ?_
      cases found with
      | some c => exact FailsOnly.ok _
      | none => exact ih (index + 1) (by omega)

theorem findClass_failsOnly (descriptor : Text) :
    FailsOnly IsDecode (image.findClass descriptor).outcome :=
  findClassFrom_failsOnly hr descriptor _ 0 (by omega)

/-! Methods. -/

theorem bind_failsOnly (c : ResolvedClass) (x : Dex.Method) :
    FailsOnly IsDecode (image.bind c x).outcome := by
  rw [Image.bind, Logged.outcome_reporting]
  exact ((ClassRecord.codeSlot_failsOnly hr _ _).bind fun _ _ => FailsOnly.pure _).withContext
    _ _ _

theorem findIn_failsOnly (kind : String)
    (find : Dex.Module → Dex.ClassDef → Text → Text → Decode (Option Dex.Method))
    (c : ResolvedClass) (name signature : Text)
    (hfind : ∀ m : Dex.Module, m.window.Backed →
      FailsOnly IsModule (find m c.definition name signature)) :
    FailsOnly IsDecode (image.findIn kind find c name signature).outcome := by
  rw [findIn, Logged.outcome_bind]
  refine FailsOnly.bind (FailsOnly.ok ()) fun _ _ => ?_
  rw [Logged.outcome_bind]
  refine (ofModule_failsOnly hr c.file hfind).bind fun found _ => ?_
  cases found with
  | none => exact FailsOnly.bind (FailsOnly.ok ()) fun _ _ => FailsOnly.ok _
  | some x =>
      rw [Logged.outcome_map]
      exact (bind_failsOnly hr c x).map _

theorem findDirectMethod_failsOnly (c : ResolvedClass) (name signature : Text) :
    FailsOnly IsDecode (image.findDirectMethod c name signature).outcome :=
  findIn_failsOnly hr _ _ c name signature fun _ hm =>
    Dex.Module.findDirect_failsOnly hm _ _ _

theorem findVirtualMethod_failsOnly (c : ResolvedClass) (name signature : Text) :
    FailsOnly IsDecode (image.findVirtualMethod c name signature).outcome :=
  findIn_failsOnly hr _ _ c name signature fun _ hm =>
    Dex.Module.findVirtual_failsOnly hm _ _ _

theorem findMethodIn_failsOnly (c : ResolvedClass) (name signature : Text) :
    FailsOnly IsDecode (image.findMethodIn c name signature).outcome := by
  rw [findMethodIn, Logged.outcome_bind]
  refine (findDirectMethod_failsOnly hr c name signature).bind fun direct _ => ?_
  cases direct with
  | some x => exact FailsOnly.ok _
  | none =>
      dsimp only
      rw [Logged.outcome_bind]
      refine (findVirtualMethod_failsOnly hr c name signature).bind fun virtual _ => ?_
      cases virtual with
      | some x => exact FailsOnly.ok _
      | none => exact FailsOnly.bind (FailsOnly.ok ()) fun _ _ => FailsOnly.ok _

theorem findMethod_failsOnly (descriptor name signature : Text) :
    FailsOnly IsDecode (image.findMethod descriptor name signature).outcome := by
  rw [findMethod, Logged.outcome_bind]
  refine (findClass_failsOnly hr descriptor).bind fun found _ => ?_
  cases found with
  | none => exact FailsOnly.ok _
  | some c => exact findMethodIn_failsOnly hr c name signature

end

/-- What the operations on an image can fail with. A failure in decoding is never that of
an unguarded step. -/
structure FailsInDecoding (image : Image) : Prop where
  keyValueStore : FailsOnly IsDecode image.keyValueStore
  storeValue : ∀ key, FailsOnly IsDecode (image.storeValue key)
  decodeNext : ∀ cursor, FailsOnly IsDecode (image.decodeNext cursor)
  dexFiles : ∀ e, image.dexFiles.failure = some e → e.IsDecode
  advance : ∀ w, FailsOnly IsDecode (image.advance w).1.outcome
  /-- An index is refused exactly if it is out of range, and fails in decoding otherwise. -/
  dexFile : ∀ i, FailsOnly (fun e => e.IsDecode ∨ e = .noDexFile i image.dexFileCount)
    (image.dexFile i).outcome
  refused : ∀ i : Int, (∃ index count, (image.dexFile i).outcome =
    .error (.noDexFile index count)) ↔ ¬ (0 ≤ i ∧ i < image.dexFileCount)
  findDexFile : ∀ location, FailsOnly IsDecode (image.findDexFile location).outcome
  findDexFileNamed : ∀ location : String,
    FailsOnly IsDecode (image.findDexFileNamed (Text.ofString location)).outcome
  findClass : ∀ descriptor, FailsOnly IsDecode (image.findClass descriptor).outcome
  findClassIn : ∀ file descriptor, FailsOnly IsDecode (image.findClassIn file descriptor).outcome
  classAt : ∀ file index, FailsOnly IsDecode (image.classAt file index).outcome
  findDirectMethod : ∀ c name signature,
    FailsOnly IsDecode (image.findDirectMethod c name signature).outcome
  findVirtualMethod : ∀ c name signature,
    FailsOnly IsDecode (image.findVirtualMethod c name signature).outcome
  findMethodIn : ∀ c name signature,
    FailsOnly IsDecode (image.findMethodIn c name signature).outcome
  findMethod : ∀ descriptor name signature,
    FailsOnly IsDecode (image.findMethod descriptor name signature).outcome
  bind : ∀ c x, FailsOnly IsDecode (image.bind c x).outcome
  /-- A module opens or fails as a module, and so does every question about it, asked first
  or in a session after any others. -/
  load : ∀ address, FailsOnly IsModule (Dex.Module.load image.region address)
  answer : ∀ address m, Dex.Module.load image.region address = .ok m →
    ∀ made q, FailsOnly IsModule (m.answer made q)
  answers : ∀ address m, Dex.Module.load image.region address = .ok m →
    ∀ kept qs, ∀ d ∈ Dex.Session.answers m kept qs, FailsOnly IsModule d

/-- Every operation on an image that was set up answers or fails in decoding. -/
theorem setup_failsInDecoding {begin stop : Option Int} {memory : Option ByteArray}
    {asked : Option InstructionSet} (h : setup begin stop memory asked = .ok image) :
    image.FailsInDecoding := by
  have hr := backed_of_setup h
  obtain ⟨f, hf⟩ := image.exists_stopsAt
  obtain ⟨files, fault, href⟩ := hf.exists_reference hr
  exact {
    keyValueStore := keyValueStore_failsOnly image
    storeValue := storeValue_failsOnly image
    decodeNext := fun cursor => (decodeNext_failsOnly hr cursor).mono fun _ => IsLocal.isDecode
    dexFiles := walkFrom_failure_isDecode hr _ _ _
    advance := advance_failsOnly hr
    dexFile := by
      intro i
      by_cases hi : i < 0 ∨ image.dexFileCount ≤ i
      · rw [dexFile, if_pos hi]
        exact FailsOnly.error (.inr rfl)
      · exact (dexFile_failsOnly hr (by omega) (by omega)).mono fun _ => .inl
    refused := fun i => (href.outside i).trans (by omega)
    findDexFile := findDexFile_failsOnly hr
    findDexFileNamed := findDexFileNamed_failsOnly hr
    findClass := findClass_failsOnly hr
    findClassIn := findClassIn_failsOnly hr
    classAt := classAt_failsOnly hr
    findDirectMethod := findDirectMethod_failsOnly hr
    findVirtualMethod := findVirtualMethod_failsOnly hr
    findMethodIn := findMethodIn_failsOnly hr
    findMethod := findMethod_failsOnly hr
    bind := bind_failsOnly hr
    load := Dex.Module.load_failsOnly hr
    answer := fun _ _ hm => Dex.Module.answer_failsOnly (Dex.Module.window_of_load hr hm).1
    answers := fun _ _ hm =>
      Dex.Session.answers_failOnly (Dex.Module.window_of_load hr hm).1 }

theorem setup_failsInDecoding_cutStream :
    ∃ image, setup (some 4096) (some 4172) (some cutStream) none = .ok image ∧
      image.FailsInDecoding := by
  obtain ⟨image, h⟩ := setup_cutStream
  exact ⟨image, h, setup_failsInDecoding h⟩

end Image

end OatImage
