import OatImage.Proofs.ErrorEntries
import OatImage.Proofs.RecordLayout

/-!
# The two tables of a dex file

A dex file has two tables with an entry for each class: the class definitions of its module and
the class offsets of its record. One reader sizes the offsets when the record is decoded, another
one counts the definitions when the module is opened. They come to the same number, so an index
that the module accepts has a class offset, and no search for a class finds the offset missing.
-/
namespace OatImage

open Decode Fault

/-- The failure is that a class offset is missing, whichever layer met it. -/
def Fault.MissesOffset (e : Fault) : Prop := ∃ d n, e = .decode d ∧ d.cause = .noClassOffset n

/-- No failure of a step is that a class offset is missing. -/
def Decode.MissesNone {α : Type} (d : Decode α) : Prop := d.FailsOnly (¬ MissesOffset ·)

namespace Fault

theorem not_missesOffset {d : DecodeFault} (h : ∀ n, d.cause ≠ .noClassOffset n) :
    ¬ MissesOffset (.decode d) := by
  rintro ⟨_, n, hd, hcause⟩
  cases hd
  exact h n hcause

theorem broken_not_missesOffset (step : Unguarded) : ¬ MissesOffset (.broken step) := by
  rintro ⟨_, _, hd, _⟩
  cases hd

theorem not_missesOffset_holdsOfReads : HoldsOfReads (¬ MissesOffset ·) where
  decode _ _ h := not_missesOffset h
  broken := broken_not_missesOffset

end Fault

namespace Decode

variable {α : Type} {d : Decode α}

/-- What a failure is read as keeps its cause. -/
theorem MissesNone.asModule (h : d.MissesNone) : d.asModule.MissesNone := by
  cases d with
  | ok a => exact FailsOnly.ok a
  | error e =>
      cases e with
      | decode e => exact FailsOnly.error (not_missesOffset fun n hn => h _ rfl ⟨e, n, rfl, hn⟩)
      | _ => exact FailsOnly.error (h _ rfl)

theorem MissesNone.withContext (h : d.MissesNone) (index : Option Int)
    (location : Option String) (descriptor : Option Text) :
    (d.withContext index location descriptor).MissesNone := by
  cases d with
  | ok a => exact FailsOnly.ok a
  | error e =>
      cases e with
      | decode e => exact FailsOnly.error (not_missesOffset fun n hn => h _ rfl ⟨e, n, rfl, hn⟩)
      | _ => exact FailsOnly.error (h _ rfl)

end Decode

/-! Reading the image or a module of it finds no class offset missing. -/

namespace Region

variable (r : Region) (address : Int) (what : String)

theorem check_missesNone (size : Int) : (r.check address size what).MissesNone :=
  r.check_failsOnly_of not_missesOffset_holdsOfReads address what size

theorem readBytes_missesNone (size : Int) : (r.readBytes address size what).MissesNone :=
  r.readBytes_failsOnly_of not_missesOffset_holdsOfReads address what size

theorem word_missesNone (width : Nat) : (r.word width address what).MissesNone :=
  r.word_failsOnly_of not_missesOffset_holdsOfReads address what width

theorem u32s_missesNone (count : Int) : (r.u32s address count what).MissesNone :=
  (r.check_missesNone address what _).bind fun _ _ =>
    FailsOnly.ite (fun _ => FailsOnly.ok _) fun _ =>
      FailsOnly.ite (fun _ => FailsOnly.error (broken_not_missesOffset _)) fun _ =>
        FailsOnly.error (broken_not_missesOffset _)

theorem ulebFrom_missesNone (start : Int) (left : Nat) :
    (r.ulebFrom what start left address).MissesNone := by
  induction left generalizing address with
  | zero => exact FailsOnly.error (not_missesOffset nofun)
  | succ left ih =>
      have hbyte : (r.byteAt address).MissesNone := by
        unfold byteAt
        cases r.bytes[r.offset address]? with
        | some b => exact FailsOnly.ok b
        | none => exact FailsOnly.error (broken_not_missesOffset _)
      exact (r.check_missesNone address what 1).bind fun _ _ => hbyte.bind fun _ _ =>
        FailsOnly.ite (fun _ => FailsOnly.pure _) fun _ =>
          (ih (address + 1)).bind fun _ _ => FailsOnly.pure _

end Region

namespace Dex

theorem checkSignature_missesNone (r : Region) (address : Int) :
    (checkSignature r address).MissesNone :=
  FailsOnly.bind (r.readBytes_missesNone _ _ _).asModule fun _ _ =>
    FailsOnly.ite (fun _ => FailsOnly.error (not_missesOffset nofun)) fun _ =>
      FailsOnly.ite (fun _ => FailsOnly.error (not_missesOffset nofun)) fun _ => FailsOnly.pure _

theorem classDefCount_missesNone (r : Region) (address : Int) :
    (classDefCount r address).MissesNone :=
  FailsOnly.bind (checkSignature_missesNone r address) fun _ _ =>
    (r.word_missesNone _ _ 4).asModule

namespace Module

theorem ofWindow_missesNone (w : Region) (address : Int) : (ofWindow w address).MissesNone := by
  unfold ofWindow
  refine FailsOnly.bind (w.readBytes_missesNone _ _ _) fun _ _ => ?_
  split
  · exact FailsOnly.error (broken_not_missesOffset _)
  refine FailsOnly.bind (w.u32s_missesNone _ _ _).asModule fun _ _ => ?_
  split
  · refine FailsOnly.ite (fun _ => FailsOnly.error (not_missesOffset nofun)) fun _ => ?_
    refine FailsOnly.bind (w.u32s_missesNone _ _ _).asModule fun _ _ => ?_
    split
    · exact FailsOnly.pure _
    · exact FailsOnly.error (broken_not_missesOffset _)
  · exact FailsOnly.error (broken_not_missesOffset _)

theorem load_missesNone (r : Region) (address : Int) : (load r address).MissesNone := by
  have hwindow (size : Int) : (r.window address size "DEX module").MissesNone :=
    (r.check_missesNone address "DEX module" size).bind fun _ _ => FailsOnly.pure _
  exact FailsOnly.bind (checkSignature_missesNone r address) fun _ _ =>
    FailsOnly.bind (r.word_missesNone _ _ 4).asModule fun _ _ =>
      FailsOnly.bind (hwindow _).asModule fun _ _ => ofWindow_missesNone _ _

variable (m : Module)

theorem u32_missesNone (address : Int) (what : String) : (m.u32 address what).MissesNone :=
  (m.window.word_missesNone address what 4).asModule

theorem stringData_missesNone (offset : Nat) : (m.stringData offset).MissesNone := by
  refine FailsOnly.bind (m.window.ulebFrom_missesNone _ _ _ 5).asModule fun _ _ => ?_
  refine FailsOnly.ite (fun _ => FailsOnly.error (not_missesOffset nofun)) fun _ => ?_
  refine FailsOnly.bind (m.window.readBytes_missesNone _ _ _) fun bytes _ => ?_
  cases ModifiedUtf8.decode bytes with
  | ok text => exact FailsOnly.pure _
  | error flaw => exact FailsOnly.error (not_missesOffset nofun)

theorem string_missesNone (index : Int) : (m.string index).MissesNone :=
  FailsOnly.ite (fun _ => FailsOnly.error (not_missesOffset nofun)) fun _ =>
    FailsOnly.bind (m.u32_missesNone _ _) fun _ _ => m.stringData_missesNone _

theorem typeDescriptor_missesNone (index : Int) : (m.typeDescriptor index).MissesNone := by
  have hname : (m.typeName index).MissesNone :=
    FailsOnly.ite (fun _ => FailsOnly.error (not_missesOffset nofun)) fun _ =>
      m.u32_missesNone _ _
  exact FailsOnly.bind hname fun _ _ => m.string_missesNone _

theorem classDef_missesNone (index : Int) : (m.classDef index).MissesNone := by
  refine FailsOnly.ite (fun _ => FailsOnly.error (not_missesOffset nofun)) fun _ => ?_
  refine FailsOnly.bind (m.window.u32s_missesNone _ _ _).asModule fun _ _ => ?_
  split
  · exact FailsOnly.bind (m.typeDescriptor_missesNone _) fun _ _ => FailsOnly.pure _
  · exact FailsOnly.error (broken_not_missesOffset _)

theorem descriptorsFrom_missesNone (count index : Nat) :
    (m.descriptorsFrom count index).MissesNone := by
  induction count generalizing index with
  | zero => exact FailsOnly.ok _
  | succ count ih =>
      exact FailsOnly.bind (m.u32_missesNone _ _) fun _ _ =>
        FailsOnly.bind (m.typeDescriptor_missesNone _) fun _ _ =>
          FailsOnly.bind (ih (index + 1)) fun _ _ => FailsOnly.pure _

theorem locate_missesNone (descriptor : Text) : (m.locate descriptor).MissesNone := by
  refine FailsOnly.bind (m.descriptorsFrom_missesNone _ _) fun all _ => ?_
  cases all.idxOf? descriptor with
  | none => exact FailsOnly.pure _
  | some index => exact FailsOnly.bind (m.classDef_missesNone _) fun _ _ => FailsOnly.pure _

/-! The index of a class definition is one that the module accepts. -/

variable {m} {c : ClassDef}

theorem has_of_classDef {index : Int} (h : m.classDef index = .ok c) :
    c.index = index ∧ m.classDefs.has index = true := by
  unfold classDef at h
  by_cases hhas : m.classDefs.has index = true
  · rw [if_neg (by rw [hhas]; exact Bool.false_ne_true)] at h
    obtain ⟨words, _, h⟩ := bind_eq_ok.mp h
    split at h
    · obtain ⟨descriptor, _, h⟩ := bind_eq_ok.mp h
      cases h
      exact ⟨rfl, hhas⟩
    · cases h
  · rw [if_pos (by simpa using hhas)] at h
    cases h

theorem has_of_locate {descriptor : Text} (h : m.locate descriptor = .ok (some c)) :
    m.classDefs.has c.index = true := by
  obtain ⟨all, _, h⟩ := bind_eq_ok.mp h
  cases hindex : all.idxOf? descriptor with
  | none =>
      rw [hindex] at h
      cases h
  | some index =>
      rw [hindex] at h
      obtain ⟨c', hc, h⟩ := bind_eq_ok.mp h
      cases h
      obtain ⟨heq, hhas⟩ := has_of_classDef hc
      rw [heq]
      exact hhas

end Module

end Dex

theorem Image.decodeNext_missesNone (image : Image) (cursor : Int) :
    (image.decodeNext cursor).MissesNone := by
  refine FailsOnly.bind (image.region.word_missesNone _ _ 4) fun _ _ => ?_
  refine FailsOnly.bind (image.region.readBytes_missesNone _ _ _) fun _ _ => ?_
  refine FailsOnly.bind (image.region.word_missesNone _ _ 4) fun _ _ => ?_
  refine FailsOnly.bind (image.region.word_missesNone _ _ 4) fun dexOffset _ => ?_
  cases image.pointer dexOffset with
  | none => exact FailsOnly.error (not_missesOffset nofun)
  | some dexPointer =>
      exact FailsOnly.bind (Dex.classDefCount_missesNone _ _) fun _ _ =>
        FailsOnly.bind (image.region.u32s_missesNone _ _ _) fun _ _ => FailsOnly.pure _

namespace Image

variable {image : Image}

/-- The class offsets of a dex file are those of its class definitions. -/
structure HasOffsets (image : Image) (file : DexFile) : Prop where
  /-- If the module opens, it has as many class definitions as the record has class offsets. -/
  count : ∀ m, file.module image = .ok m →
    m.classDefs.count = file.record.classOffsets.length
  /-- So an index that the module accepts has a class offset, which says where the class record
  is read. -/
  offset : ∀ m, file.module image = .ok m → ∀ index, m.classDefs.has index = true → 0 ≤ index ∧
    ∃ o, file.record.classOffsets[index.toNat]? = some o ∧
      image.classRecord file index = ClassRecord.decode image.region (image.pointer o)
  /-- So does the index of a class that is located by its descriptor. -/
  located : ∀ m, file.module image = .ok m → ∀ descriptor c,
    m.locate descriptor = .ok (some c) → 0 ≤ c.index ∧
      ∃ o, file.record.classOffsets[c.index.toNat]? = some o ∧
        image.classRecord file c.index = ClassRecord.decode image.region (image.pointer o)
  findClassIn : ∀ descriptor, (image.findClassIn file descriptor).outcome.MissesNone
  classAt : ∀ index, (image.classAt file index).outcome.MissesNone

section
variable {file : DexFile}

theorem classRecord_of_getElem? {index : Int} {o : Nat}
    (h : file.record.classOffsets[index.toNat]? = some o) :
    image.classRecord file index = ClassRecord.decode image.region (image.pointer o) := by
  rw [classRecord, h]

/-- A table of class offsets that is as long as the one of the class definitions has an entry
for each index that the module accepts. -/
theorem exists_offset {m : Dex.Module}
    (hcount : m.classDefs.count = file.record.classOffsets.length) {index : Int}
    (h : m.classDefs.has index = true) :
    0 ≤ index ∧ ∃ o, file.record.classOffsets[index.toNat]? = some o := by
  simp only [Dex.Table.has, Bool.and_eq_true, decide_eq_true_eq] at h
  have hlt : index.toNat < file.record.classOffsets.length := by omega
  exact ⟨h.1, _, List.getElem?_eq_getElem hlt⟩

/-- A class whose index has a class offset is resolved without missing one. -/
theorem resolve_missesNone {definition : Dex.ClassDef} {o : Nat}
    (h : file.record.classOffsets[definition.index.toNat]? = some o) (asked : Option Text) :
    (image.resolve file definition asked).outcome.MissesNone := by
  rw [resolve, Logged.outcome_reporting, classRecord_of_getElem? h]
  have hrecord : (ClassRecord.decode image.region (image.pointer o)).MissesNone :=
    ClassRecord.decode_failsOnly_of not_missesOffset_holdsOfReads _ _
  refine MissesNone.withContext ?_ _ _ _
  exact hrecord.bind fun _ _ => FailsOnly.pure _

/-- A step that asks the module of a dex file misses no class offset if the question does not. -/
theorem ofModule_missesNone {α : Type} {ask : Dex.Module → Decode α}
    (h : ∀ m, (ask m).MissesNone) : (do ask (← file.module image) : Decode α).MissesNone :=
  FailsOnly.bind (Dex.Module.load_missesNone _ _) fun m _ => h m

theorem hasOffsets_of_count (hcount : ∀ m, file.module image = .ok m →
    m.classDefs.count = file.record.classOffsets.length) : image.HasOffsets file where
  count := hcount
  offset m hm index h := by
    obtain ⟨hnonneg, o, ho⟩ := exists_offset (hcount m hm) h
    exact ⟨hnonneg, o, ho, classRecord_of_getElem? ho⟩
  located m hm descriptor c h := by
    obtain ⟨hnonneg, o, ho⟩ := exists_offset (hcount m hm) (Dex.Module.has_of_locate h)
    exact ⟨hnonneg, o, ho, classRecord_of_getElem? ho⟩
  findClassIn descriptor := by
    rw [findClassIn, Logged.outcome_bind]
    refine FailsOnly.bind ((ofModule_missesNone fun m => m.locate_missesNone _).withContext
      none (some file.location) (some descriptor)) fun found hfound => ?_
    cases found with
    | none => exact FailsOnly.ok _
    | some definition =>
        obtain ⟨m, hm, hlocate⟩ := bind_eq_ok.mp (withContext_eq_ok.mp hfound)
        obtain ⟨_, o, ho⟩ := exists_offset (hcount m hm) (Dex.Module.has_of_locate hlocate)
        rw [Logged.outcome_map]
        exact (resolve_missesNone ho _).map _
  classAt index := by
    rw [classAt, Logged.outcome_bind]
    refine FailsOnly.bind ((ofModule_missesNone fun m => m.classDef_missesNone _).withContext
      (some index) (some file.location) none) fun definition hdefinition => ?_
    obtain ⟨m, hm, hdef⟩ := bind_eq_ok.mp (withContext_eq_ok.mp hdefinition)
    obtain ⟨heq, hhas⟩ := Dex.Module.has_of_classDef hdef
    obtain ⟨_, o, ho⟩ := exists_offset (hcount m hm) hhas
    exact resolve_missesNone (heq ▸ ho) _

end

section
variable (hr : image.region.Backed)
include hr

theorem hasOffsets_of_decodeNext {cursor next : Int} {record : Record}
    (h : image.decodeNext cursor = .ok (record, next)) (index : Nat) :
    image.HasOffsets ⟨index, record⟩ := by
  obtain ⟨location, checksum, dexOffset, classOffsets, hrecord, rfl, _⟩ :=
    (decodeNext_eq_ok_iff hr).mp h
  exact hasOffsets_of_count fun m hm => Dex.Module.classDefCount_of_load hr hm
    ((Dex.classDefCount_eq_ok_iff hr).mpr ⟨hrecord.signature, hrecord.count⟩)

/-- A dex file that is taken from the directory was decoded, and its failure is that of a record
that was not. -/
theorem dexFile_hasOffsets (index : Int) :
    (∀ file, (image.dexFile index).outcome = .ok file → image.HasOffsets file) ∧
      (image.dexFile index).outcome.MissesNone := by
  obtain ⟨f, hf⟩ := image.exists_stopsAt
  obtain ⟨files, fault, href⟩ := hf.exists_reference hr
  have hcursor {k : Nat} (hk : k ≤ files.length) :
      ∃ cursor, image.chained k = image.decodeNext cursor := by
    obtain ⟨cursor, hc⟩ := href.stopsAt.cursorAt hk
    exact ⟨cursor, chained_of_cursorAt hc⟩
  by_cases hrange : index < 0 ∨ image.dexFileCount ≤ index
  · rw [dexFile, if_pos hrange]
    refine ⟨fun file hfile => ?_, FailsOnly.error ?_⟩
    · cases hfile
    · rintro ⟨_, _, hd, _⟩
      cases hd
  obtain ⟨k, rfl⟩ := Int.eq_ofNat_of_zero_le (by omega : 0 ≤ index)
  rcases Nat.lt_or_ge k files.length with hk | hk
  · rw [href.taken hk]
    refine ⟨fun file hfile => ?_, FailsOnly.ok _⟩
    obtain ⟨⟨record, next⟩, hchained, heq⟩ := bind_eq_ok.mp (href.reached k hk)
    obtain ⟨cursor, hc⟩ := hcursor (Nat.le_of_lt hk)
    cases heq.trans hfile
    exact hasOffsets_of_decodeNext hr (hc ▸ hchained) k
  · obtain ⟨e, hfault, he⟩ := href.takenBehind hk (by omega)
    rw [he]
    refine ⟨fun file hfile => ?_, FailsOnly.error ?_⟩
    · cases hfile
    · obtain ⟨_, d, hd, _, rfl⟩ := href.stopped e hfault
      obtain ⟨cursor, hc⟩ := hcursor (Nat.le_refl _)
      exact not_missesOffset fun n hn =>
        image.decodeNext_missesNone cursor _ (hc ▸ hd) ⟨d, n, rfl, hn⟩

theorem findClassFrom_missesNone (descriptor : Text) (left index : Nat) :
    (image.findClassFrom descriptor left index).outcome.MissesNone := by
  induction left generalizing index with
  | zero => exact FailsOnly.ok _
  | succ left ih =>
      obtain ⟨hfile, hfails⟩ := dexFile_hasOffsets hr index
      rw [findClassFrom, Logged.outcome_bind]
      refine FailsOnly.bind hfails fun file htaken => ?_
      rw [Logged.outcome_bind]
      refine FailsOnly.bind ((hfile file htaken).findClassIn descriptor) fun found _ => ?_
      cases found with
      | some c => exact FailsOnly.ok _
      | none => exact ih (index + 1)

end

/-- In an image that was set up every record that decodes, whatever its position, has a class
offset for each class definition of its module, and no search for a class misses one. -/
theorem decodeNext_hasOffsets {begin stop : Option Int} {memory : Option ByteArray}
    {asked : Option InstructionSet} (h : setup begin stop memory asked = .ok image) :
    (∀ cursor record next, image.decodeNext cursor = .ok (record, next) →
      ∀ index, image.HasOffsets ⟨index, record⟩) ∧
    ∀ descriptor, (image.findClass descriptor).outcome.MissesNone :=
  ⟨fun _ _ _ hrecord => hasOffsets_of_decodeNext (backed_of_setup h) hrecord,
    fun descriptor => findClassFrom_missesNone (backed_of_setup h) descriptor _ _⟩

/-- An image with one record. Its module ends with its header, which declares one class. -/
def declaredClass : List UInt8 :=
  (plainHeader 1).encode ++ Record.encode [0x61] 0 89 [300] ++ Dex.magicBytes ++
    [0x30, 0x33, 0x35, 0] ++ List.replicate 24 0 ++ wordBytes [112, 112, Dex.endianTag] ++
    List.replicate 52 0 ++ wordBytes [1, 112] ++ List.replicate 8 0

/-- The module of the record opens and accepts the index of the class, and the record has an
offset for it. -/
theorem decodeNext_hasOffsets_declaredClass :
    ∃ image record next m,
      setup (some 4096) (some 4297) (some ⟨declaredClass.toArray⟩) none = .ok image ∧
      image.decodeNext 4168 = .ok (record, next) ∧
      DexFile.module image ⟨0, record⟩ = .ok m ∧ m.classDefs.has 0 = true ∧
      m.classDefs.count = record.classOffsets.length ∧
      (∃ o, record.classOffsets[0]? = some o) ∧
      (image.findClass (Text.ofString "LA;")).outcome.MissesNone := by
  obtain ⟨image, h, hread⟩ := exists_setup_of_any 4096 4297 ⟨declaredClass.toArray⟩ none
    (p := fun image => (image.decodeNext 4168).toOption.any fun reached =>
      (DexFile.module image ⟨0, reached.1⟩).toOption.any fun m => m.classDefs.has 0)
    (by decide) (by decide +kernel) (by decide +kernel)
  obtain ⟨⟨record, next⟩, hrecord, hopens⟩ := exists_of_any hread
  obtain ⟨m, hm, hhas⟩ := exists_of_any hopens
  obtain ⟨hrecords, hsearch⟩ := decodeNext_hasOffsets h
  have hoffsets := hrecords 4168 record next hrecord 0
  obtain ⟨_, o, ho, _⟩ := hoffsets.offset m hm 0 hhas
  exact ⟨image, record, next, m, h, hrecord, hm, hhas, hoffsets.count m hm, ⟨o, ho⟩, hsearch _⟩

end Image

end OatImage
