import OatImage.Proofs.OperationFaults

/-!
# Which failures are written

A decoding failure is written to the journal as an error where it is met in a record of the
image: in a record of the directory, a class record or a code slot. A module that does not open
and a table of a module that does not decode fail the operation that asks, and nothing is
written of them. `Reports P` says of a step that the failures with the property `P` are those
that it writes; each way of putting steps together keeps it.
-/
namespace OatImage

open Decode Fault

/-- The failure has the property if it is one of decoding. -/
def Fault.IfDecode (P : DecodeFault → Prop) (e : Fault) : Prop := ∀ d, e = .decode d → P d

theorem Fault.broken_ifDecode {P : DecodeFault → Prop} (step : Unguarded) :
    (broken step).IfDecode P := fun _ h => nomatch h

theorem Fault.IsModule.layer {e : Fault} (h : e.IsModule) : e.IfDecode (·.layer = .module) := by
  obtain ⟨d, rfl, hd⟩ := h
  intro d' hd'
  cases hd'
  exact hd

/-- The property holds of each failure with which bytes of the image are read. That a class
offset is missing is no such failure: the table that misses it has been read. -/
structure Fault.HoldsOfReads (P : Fault → Prop) : Prop where
  decode : ∀ cause address, (∀ n, cause ≠ .noClassOffset n) → P (.decode { cause, address })
  broken : ∀ step, P (.broken step)

theorem Fault.layer_holdsOfReads : HoldsOfReads (IfDecode (·.layer = .image)) where
  decode _ _ _ := by
    intro d hd
    cases hd
    rfl
  broken := broken_ifDecode

section
variable {P : Fault → Prop} (hP : HoldsOfReads P)
include hP

namespace Region

variable (r : Region) (address : Int) (what : String)

theorem check_failsOnly_of (size : Int) : FailsOnly P (r.check address size what) :=
  FailsOnly.ite (fun _ => FailsOnly.ok _) fun _ => FailsOnly.error (hP.decode _ _ nofun)

theorem readBytes_failsOnly_of (size : Int) : FailsOnly P (r.readBytes address size what) :=
  (r.check_failsOnly_of hP address what size).bind fun _ _ => FailsOnly.pure _

theorem word_failsOnly_of (width : Nat) : FailsOnly P (r.word width address what) :=
  (r.check_failsOnly_of hP address what width).bind fun _ _ =>
    FailsOnly.ite (fun _ => FailsOnly.ok _) fun _ => FailsOnly.error (hP.broken _)

end Region

theorem ClassRecord.decode_failsOnly_of (r : Region) (address : Option Int) :
    FailsOnly P (decode r address) := by
  cases address with
  | none => exact FailsOnly.error (hP.decode _ none nofun)
  | some address =>
      have hstatus : FailsOnly P (r.i16 address "OatClass status") :=
        (r.word_failsOnly_of hP _ _ 2).bind fun _ _ => FailsOnly.pure _
      refine hstatus.bind fun status _ => (r.word_failsOnly_of hP _ _ 2).bind fun code _ => ?_
      match Coverage.ofCode? code with
      | none => exact FailsOnly.error (hP.decode _ _ nofun)
      | some .none => exact FailsOnly.pure _
      | some .all => exact FailsOnly.pure _
      | some .some =>
          exact (r.word_failsOnly_of hP _ _ 4).bind fun _ _ =>
            (r.readBytes_failsOnly_of hP _ _ _).bind fun _ _ => FailsOnly.pure _

theorem ClassRecord.codeSlot_failsOnly_of (r : Region) (c : ClassRecord) (k : Nat) :
    FailsOnly P (c.codeSlot r k) := by
  unfold codeSlot
  cases c.table with
  | none => exact FailsOnly.ok _
  | some table =>
      refine (entryIndex_failsOnly c k).bind fun entry _ => ?_
      cases entry with
      | none => exact FailsOnly.pure _
      | some entry =>
          exact (r.word_failsOnly_of hP _ _ 4).bind fun _ _ => FailsOnly.pure _

/-- A class offset may be missing, too. -/
theorem Image.classRecord_failsOnly_of (hmissing : ∀ n, P (.decode { cause := .noClassOffset n }))
    (image : Image) (file : DexFile) (index : Int) :
    FailsOnly P (image.classRecord file index) := by
  unfold classRecord
  cases file.record.classOffsets[index.toNat]? with
  | none => exact FailsOnly.error (hmissing _)
  | some offset => exact ClassRecord.decode_failsOnly_of hP _ _

end

/-! The failures of a class record and of its table are those of the image. -/

theorem ClassRecord.codeSlot_layer (r : Region) (c : ClassRecord) (k : Nat) :
    FailsOnly (IfDecode (·.layer = .image)) (c.codeSlot r k) :=
  c.codeSlot_failsOnly_of layer_holdsOfReads r k

theorem Image.classRecord_layer (image : Image) (file : DexFile) (index : Int) :
    FailsOnly (IfDecode (·.layer = .image)) (image.classRecord file index) :=
  image.classRecord_failsOnly_of layer_holdsOfReads (fun _ _ hd => by cases hd; rfl) file index

/-- An error is among the entries. -/
def ErrorIn (entries : List Entry) : Prop := ∃ entry ∈ entries, entry.level = .error

@[simp] theorem not_errorIn_nil : ¬ ErrorIn [] := by
  rintro ⟨entry, hentry, _⟩
  cases hentry

@[simp] theorem errorIn_append {first second : List Entry} :
    ErrorIn (first ++ second) ↔ ErrorIn first ∨ ErrorIn second := by
  simp only [ErrorIn, List.mem_append, or_and_right, exists_or]

namespace Logged

variable {α β : Type} {P : DecodeFault → Prop} {x : Logged α}

/-- Of the decoding failures of a step, those with the property are written as errors, and
nothing else is. -/
def Reports (P : DecodeFault → Prop) (x : Logged α) : Prop :=
  ErrorIn x.entries ↔ ∃ e, x.outcome = .error (.decode e) ∧ P e

theorem Reports.not_errorIn {a : α} (h : x.Reports P) (ha : x.outcome = .ok a) :
    ¬ ErrorIn x.entries := by
  intro herror
  obtain ⟨e, he, _⟩ := h.mp herror
  rw [ha] at he
  cases he

/-- A step that writes no error may fail, but not with a failure that has the property. -/
theorem Reports.silent (hentries : ¬ ErrorIn x.entries)
    (h : FailsOnly (IfDecode fun e => ¬ P e) x.outcome) : x.Reports P := by
  refine iff_of_false hentries ?_
  rintro ⟨e, he, hP⟩
  exact h _ he e rfl hP

theorem Reports.pure (a : α) : (Pure.pure a : Logged α).Reports P :=
  .silent not_errorIn_nil (FailsOnly.ok a)

theorem Reports.ofDecode {d : Decode α} (h : FailsOnly (IfDecode fun e => ¬ P e) d) :
    (liftM d : Logged α).Reports P := .silent not_errorIn_nil h

theorem Reports.fail {e : Fault} (h : e.IfDecode fun d => ¬ P d) :
    (fail e : Logged α).Reports P := .silent not_errorIn_nil (FailsOnly.error h)

theorem Reports.debug (message : Text) : (debug message).Reports P := by
  refine .silent ?_ (FailsOnly.ok ())
  rintro ⟨entry, hentry, hlevel⟩
  cases List.mem_singleton.mp hentry
  cases hlevel

/-- A step that fails as another one does, after the same entries, reports as that one. -/
theorem Reports.of_same {y : Logged β} (h : y.Reports P) (hentries : x.entries = y.entries)
    (hfail : ∀ e, x.outcome = .error e ↔ y.outcome = .error e) : x.Reports P := by
  unfold Reports
  simp only [hentries, hfail]
  exact h

theorem Reports.reporting {d : Decode α} {entry : DecodeFault → Entry}
    {gain : DecodeFault → DecodeFault} (hlevel : ∀ e, (entry e).level = .error)
    (hgain : FailsOnly (IfDecode fun e => P (gain e)) d) :
    (Logged.reporting d entry gain).Reports P := by
  cases d with
  | ok a => exact .pure a
  | error e =>
      cases e with
      | decode e =>
          exact iff_of_true ⟨entry e, List.mem_singleton.mpr rfl, hlevel e⟩
            ⟨gain e, rfl, hgain _ rfl e rfl⟩
      | _ => exact .silent not_errorIn_nil (FailsOnly.error fun _ he => nomatch he)

theorem errorIn_bind {f : α → Logged β} :
    ErrorIn (x >>= f).entries ↔
      ErrorIn x.entries ∨ ∃ a, x.outcome = .ok a ∧ ErrorIn (f a).entries := by
  obtain ⟨entries, outcome⟩ := x
  cases outcome with
  | ok a =>
      show ErrorIn (entries ++ (f a).entries) ↔ _
      rw [errorIn_append]
      refine or_congr Iff.rfl ⟨fun h => ⟨a, rfl, h⟩, ?_⟩
      rintro ⟨_, ha, h⟩
      cases ha
      exact h
  | error e =>
      refine (or_iff_left ?_).symm
      rintro ⟨_, ha, _⟩
      cases ha

theorem Reports.bind {f : α → Logged β} (hx : x.Reports P)
    (hf : ∀ a, x.outcome = .ok a → (f a).Reports P) : (x >>= f).Reports P := by
  unfold Reports at hx hf ⊢
  rw [errorIn_bind, outcome_bind]
  cases ha : x.outcome with
  | ok a =>
      rw [or_iff_right (Reports.not_errorIn hx ha), ok_bind, ← hf a ha]
      simp only [Except.ok.injEq, exists_eq_left']
  | error e =>
      rw [hx, ha, error_bind]
      simp only [reduceCtorEq, false_and, exists_false, or_false, Except.error.injEq]

theorem Reports.map (f : α → β) (hx : x.Reports P) : (f <$> x).Reports P :=
  hx.bind fun a _ => .pure (f a)

end Logged

namespace Image

open Logged

variable {image : Image} {P : DecodeFault → Prop}

section
variable (hr : image.region.Backed)
include hr

/-! The directory. A record that does not decode has no location to be named by. -/

section
variable (hP : ∀ e : DecodeFault, e.location = none → P e)
include hP

theorem decodeEntry_reports (index : Nat) (cursor : Int) :
    (image.decodeEntry index cursor).Reports P := by
  have hnext : FailsOnly (IfDecode fun e => P (e.withContext (some (index : Int)) none none))
      (image.decodeNext cursor) := by
    refine (decodeNext_failsOnly hr cursor).mono fun e he d hd => hP _ ?_
    obtain ⟨_, rfl, _, hlocation, _⟩ := he
    cases hd
    simp only [DecodeFault.withContext, hlocation, Option.or_none]
  exact .reporting (fun _ => rfl) (hnext.bind fun _ _ => FailsOnly.pure _)

theorem advance_reports (w : Walk) : (image.advance w).1.Reports P := by
  have hentry := decodeEntry_reports hr hP w.index w.cursor
  rw [advance]
  by_cases h : (w.ended || image.dexFileCount ≤ w.index) = true
  · rw [if_pos h]
    exact .pure _
  · rw [if_neg h]
    rcases hd : image.decodeEntry w.index w.cursor with ⟨entries, outcome⟩
    rw [hd] at hentry
    cases outcome with
    | ok reached => exact hentry.of_same rfl fun _ => by simp only [reduceCtorEq]
    | error e => exact hentry.of_same rfl fun _ => by simp only [Except.error.injEq]

theorem takeAfter_reports (skipped : Nat) (w : Walk) :
    (image.takeAfter skipped w).Reports P := by
  induction skipped generalizing w with
  | zero =>
      refine (advance_reports hr hP w).bind fun found _ => ?_
      cases found with
      | some file => exact .pure file
      | none => exact .fail (broken_ifDecode _)
  | succ skipped ih =>
      refine (advance_reports hr hP w).bind fun found _ => ?_
      cases found with
      | some _ => exact ih _
      | none => exact .fail (broken_ifDecode _)

theorem dexFile_reports (index : Int) : (image.dexFile index).Reports P := by
  rw [dexFile]
  by_cases h : index < 0 ∨ image.dexFileCount ≤ index
  · rw [if_pos h]
    refine .fail fun _ he => ?_
    cases he
  · rw [if_neg h]
    exact takeAfter_reports hr hP _ _

theorem findFrom_reports (location : List UInt8) (left index : Nat) (cursor : Int) :
    (image.findFrom location left index cursor).Reports P := by
  induction left generalizing index cursor with
  | zero => exact .pure _
  | succ left ih =>
      rw [findFrom]
      refine (decodeEntry_reports hr hP index cursor).bind fun reached _ => ?_
      obtain ⟨file, next⟩ := reached
      dsimp only
      by_cases h : file.record.location = location
      · rw [if_pos h]
        exact .pure _
      · rw [if_neg h]
        exact ih _ _

theorem findDexFile_reports (location : List UInt8) : (image.findDexFile location).Reports P :=
  findFrom_reports hr hP _ _ _ _

theorem findDexFileNamed_reports (location : Text) :
    (image.findDexFileNamed location).Reports P := by
  rw [findDexFileNamed]
  cases Utf8.encode? location with
  | none =>
      refine .fail fun _ he => ?_
      cases he
  | some bytes => exact findDexFile_reports hr hP bytes

end

theorem walkFrom_reports (left index : Nat) (cursor : Int) :
    ErrorIn (image.walkFrom left index cursor).entries ↔
      ∃ e, (image.walkFrom left index cursor).failure = some (.decode e) := by
  induction left generalizing index cursor with
  | zero =>
      refine iff_of_false not_errorIn_nil ?_
      rintro ⟨e, he⟩
      cases he
  | succ left ih =>
      have hentry := decodeEntry_reports (P := fun _ => True) hr (fun _ _ => trivial) index cursor
      rw [walkFrom]
      rcases hd : image.decodeEntry index cursor with ⟨entries, outcome⟩
      rw [hd] at hentry
      cases outcome with
      | ok reached =>
          rw [errorIn_append, or_iff_right (hentry.not_errorIn rfl)]
          exact ih _ _
      | error e =>
          refine hentry.trans ?_
          simp only [Except.error.injEq, and_true, Option.some.injEq]

/-! Classes. The failures of a module gain the location of its dex file and are not written. -/

section
variable (himage : ∀ e : DecodeFault, e.layer = .image → P e)
include himage

omit hr in
theorem resolve_reports (file : DexFile) (definition : Dex.ClassDef) (asked : Option Text) :
    (image.resolve file definition asked).Reports P := by
  have hrecord := (classRecord_layer image file definition.index).mono
    fun e he d hd => himage (d.withContext (some definition.index) (some file.location) asked)
      (he d hd)
  exact .reporting (fun _ => rfl) (hrecord.bind fun _ _ => FailsOnly.pure _)

variable (hmodule : ∀ e : DecodeFault, e.layer = .module → e.location ≠ none → ¬ P e)
include hmodule

omit hr himage in
theorem located_silent {α : Type} {d : Decode α} (h : FailsOnly IsModule d) (index : Option Int)
    (location : String) (descriptor : Option Text) :
    FailsOnly (IfDecode fun e => ¬ P e) (d.withContext index (some location) descriptor) := by
  cases d with
  | ok a => exact FailsOnly.ok a
  | error e =>
      obtain ⟨fault, rfl, hlayer⟩ := h e rfl
      apply FailsOnly.error
      intro e he
      cases he
      refine hmodule _ hlayer ?_
      simp only [DecodeFault.withContext, Option.or_some, ne_eq, reduceCtorEq, not_false_eq_true]

theorem findClassIn_reports (file : DexFile) (descriptor : Text) :
    (image.findClassIn file descriptor).Reports P := by
  have hlocate := ofModule_failsOnlyModule hr file fun m hm =>
    Dex.Module.locate_failsOnly hm descriptor
  refine Reports.bind (.ofDecode (located_silent hmodule hlocate _ _ _)) fun found _ => ?_
  cases found with
  | none => exact .pure _
  | some definition => exact (resolve_reports himage _ _ _).map _

theorem classAt_reports (file : DexFile) (index : Int) :
    (image.classAt file index).Reports P := by
  have hdef := ofModule_failsOnlyModule hr file fun m hm => Dex.Module.classDef_failsOnly hm index
  exact Reports.bind (.ofDecode (located_silent hmodule hdef _ _ _)) fun _ _ =>
    resolve_reports himage _ _ _

/-- The search takes dex files, whose failures have no location, and asks their modules. -/
theorem findClassFrom_reports (hP : ∀ e : DecodeFault, e.location = none → P e)
    (descriptor : Text) (left index : Nat) :
    (image.findClassFrom descriptor left index).Reports P := by
  induction left generalizing index with
  | zero => exact .pure _
  | succ left ih =>
      rw [findClassFrom]
      refine (dexFile_reports hr hP _).bind fun file _ => ?_
      refine (findClassIn_reports hr himage hmodule file descriptor).bind fun found _ => ?_
      cases found with
      | some c => exact .pure _
      | none => exact ih _

end

theorem findClass_reports (descriptor : Text) :
    (image.findClass descriptor).Reports fun e => e.layer = .image ∨ e.location = none := by
  refine findClassFrom_reports hr (fun _ => .inl) ?_ (fun _ => .inr) _ _ _
  rintro e hlayer hlocation (himage | hnone)
  · rw [hlayer] at himage
    cases himage
  · exact hlocation hnone

/-! Methods. -/

omit hr in
theorem bind_reports (c : ResolvedClass) (x : Dex.Method) :
    (image.bind c x).Reports (·.layer = .image) := by
  have hslot := c.record.codeSlot_layer image.region x.position
  exact .reporting (fun _ => rfl) (hslot.bind fun _ _ => FailsOnly.pure _)

theorem findIn_reports (kind : String)
    (find : Dex.Module → Dex.ClassDef → Text → Text → Decode (Option Dex.Method))
    (c : ResolvedClass) (name signature : Text)
    (hfind : ∀ m : Dex.Module, m.window.Backed →
      FailsOnly IsModule (find m c.definition name signature)) :
    (image.findIn kind find c name signature).Reports (·.layer = .image) := by
  have hfound := (ofModule_failsOnlyModule hr c.file hfind).mono
    (Q := IfDecode fun e => ¬ e.layer = .image) fun e he d hd himage => by
      rw [he.layer d hd] at himage
      cases himage
  refine (Reports.debug _).bind fun _ _ => Reports.bind (.ofDecode hfound) fun found _ => ?_
  cases found with
  | none => exact (Reports.debug _).bind fun _ _ => .pure _
  | some x => exact (bind_reports c x).map _

theorem findDirectMethod_reports (c : ResolvedClass) (name signature : Text) :
    (image.findDirectMethod c name signature).Reports (·.layer = .image) :=
  findIn_reports hr _ _ c name signature fun _ hm => Dex.Module.findDirect_failsOnly hm _ _ _

theorem findVirtualMethod_reports (c : ResolvedClass) (name signature : Text) :
    (image.findVirtualMethod c name signature).Reports (·.layer = .image) :=
  findIn_reports hr _ _ c name signature fun _ hm => Dex.Module.findVirtual_failsOnly hm _ _ _

theorem findMethodIn_reports (c : ResolvedClass) (name signature : Text) :
    (image.findMethodIn c name signature).Reports (·.layer = .image) := by
  refine (findDirectMethod_reports hr c name signature).bind fun direct _ => ?_
  cases direct with
  | some x => exact .pure _
  | none =>
      refine (findVirtualMethod_reports hr c name signature).bind fun virtual _ => ?_
      cases virtual with
      | some x => exact .pure _
      | none => exact (Reports.debug _).bind fun _ _ => .pure _

/-- The class is searched for first; the failures of its own stage are those of the search. -/
theorem findMethod_reports (descriptor name signature : Text) :
    ErrorIn (image.findMethod descriptor name signature).entries ↔
      (∃ e, (image.findClass descriptor).outcome = .error (.decode e) ∧
        (e.layer = .image ∨ e.location = none)) ∨
      ∃ c e, (image.findClass descriptor).outcome = .ok (some c) ∧
        (image.findMethodIn c name signature).outcome = .error (.decode e) ∧
          e.layer = .image := by
  rw [findMethod, errorIn_bind]
  refine or_congr (findClass_reports hr descriptor) ?_
  constructor
  · rintro ⟨found, hfound, herror⟩
    cases found with
    | none => exact absurd herror not_errorIn_nil
    | some c =>
        obtain ⟨e, he, hlayer⟩ := (findMethodIn_reports hr c name signature).mp herror
        exact ⟨c, e, hfound, he, hlayer⟩
  · rintro ⟨c, e, hfound, he, hlayer⟩
    exact ⟨some c, hfound, (findMethodIn_reports hr c name signature).mpr ⟨e, he, hlayer⟩⟩

end

/-- What the operations on an image write of their decoding failures. -/
structure ReportsFailures (image : Image) : Prop where
  /-- Every failure of the directory is written. -/
  dexFiles : ErrorIn image.dexFiles.entries ↔ ∃ e, image.dexFiles.failure = some (.decode e)
  advance : ∀ w, (image.advance w).1.Reports fun _ => True
  dexFile : ∀ index, (image.dexFile index).Reports fun _ => True
  findDexFile : ∀ location, (image.findDexFile location).Reports fun _ => True
  findDexFileNamed : ∀ location, (image.findDexFileNamed location).Reports fun _ => True
  /-- Of the failures in a dex file, those of its module are not written. -/
  findClassIn : ∀ file descriptor, (image.findClassIn file descriptor).Reports (·.layer = .image)
  classAt : ∀ file index, (image.classAt file index).Reports (·.layer = .image)
  findDirectMethod : ∀ c name signature,
    (image.findDirectMethod c name signature).Reports (·.layer = .image)
  findVirtualMethod : ∀ c name signature,
    (image.findVirtualMethod c name signature).Reports (·.layer = .image)
  findMethodIn : ∀ c name signature,
    (image.findMethodIn c name signature).Reports (·.layer = .image)
  /-- A search through the directory may also fail in the directory, and only such a failure
  has no location. -/
  findClass : ∀ descriptor,
    (image.findClass descriptor).Reports fun e => e.layer = .image ∨ e.location = none
  findMethod : ∀ descriptor name signature,
    ErrorIn (image.findMethod descriptor name signature).entries ↔
      (∃ e, (image.findClass descriptor).outcome = .error (.decode e) ∧
        (e.layer = .image ∨ e.location = none)) ∨
      ∃ c e, (image.findClass descriptor).outcome = .ok (some c) ∧
        (image.findMethodIn c name signature).outcome = .error (.decode e) ∧
          e.layer = .image

/-- Every operation on an image that was set up writes the failures that it meets in records of
the image, and those only. -/
theorem setup_reportsFailures {begin stop : Option Int} {memory : Option ByteArray}
    {asked : Option InstructionSet} (h : setup begin stop memory asked = .ok image) :
    image.ReportsFailures := by
  have hr := backed_of_setup h
  have hmodule : ∀ e : DecodeFault, e.layer = .module → e.location ≠ none →
      ¬ e.layer = .image := by
    intro e hlayer _ himage
    rw [hlayer] at himage
    cases himage
  exact {
    dexFiles := walkFrom_reports hr _ _ _
    advance := advance_reports hr fun _ _ => trivial
    dexFile := dexFile_reports hr fun _ _ => trivial
    findDexFile := findDexFile_reports hr fun _ _ => trivial
    findDexFileNamed := findDexFileNamed_reports hr fun _ _ => trivial
    findClassIn := findClassIn_reports hr (fun _ => id) hmodule
    classAt := classAt_reports hr (fun _ => id) hmodule
    findDirectMethod := findDirectMethod_reports hr
    findVirtualMethod := findVirtualMethod_reports hr
    findMethodIn := findMethodIn_reports hr
    findClass := findClass_reports hr
    findMethod := findMethod_reports hr }

theorem setup_reportsFailures_cutStream :
    ∃ image, setup (some 4096) (some 4172) (some cutStream) none = .ok image ∧
      image.ReportsFailures := by
  obtain ⟨image, h⟩ := setup_cutStream
  exact ⟨image, h, setup_reportsFailures h⟩

/-- An image with one record. Its module declares one byte more than the image holds. -/
def overlongModule : ByteArray :=
  let header : Header :=
    { address := 0, magic := Header.magicBytes, version := Header.version064, checksum := 0
      instructionSetCode := 1, features := 0, dexFileCount := 1, executableOffset := 0
      trampolines := List.replicate 7 0, imagePatchDelta := 0, imageChecksum := 0
      imageDataBegin := 0, keyValueStoreSize := 0 }
  let start := Dex.magicBytes ++ [0x30, 0x33, 0x35, 0] ++ List.replicate 24 0
  let module := start ++ [113, 112, Dex.endianTag].flatMap (toBytesLE 4) ++ List.replicate 68 0
  ⟨(header.encode ++ Record.encode [0x61] 0 85 [] ++ module).toArray⟩

theorem setup_overlongModule :
    ∃ image, setup (some 4096) (some 4293) (some overlongModule) none = .ok image ∧
      image.dexFiles.failure = none ∧
      (image.findClass (Text.ofString "LA;")).outcome.toOption = none ∧
      (image.findClass (Text.ofString "LA;")).entries = [] := by
  obtain ⟨image, h, hsearch⟩ := exists_setup_of_any 4096 4293 overlongModule none
    (p := fun image => image.dexFiles.failure.isNone &&
      (image.findClass (Text.ofString "LA;")).outcome.toOption.isNone &&
      (image.findClass (Text.ofString "LA;")).entries.isEmpty)
    (by decide) (by decide +kernel) (by decide +kernel)
  simp only [Bool.and_eq_true, Option.isNone_iff_eq_none, List.isEmpty_iff, and_assoc] at hsearch
  exact ⟨image, h, hsearch⟩

/-- The directory of the image is read to its end, but the module of its dex file does not open.
A search for a class fails there in decoding, and nothing is written. -/
theorem findClass_overlongModule :
    ∃ image e, setup (some 4096) (some 4293) (some overlongModule) none = .ok image ∧
      image.dexFiles.failure = none ∧
      (image.findClass (Text.ofString "LA;")).outcome = .error (.decode e) ∧
      (image.findClass (Text.ofString "LA;")).entries = [] := by
  obtain ⟨image, h, hwalk, hfails, hentries⟩ := setup_overlongModule
  rcases (findClass_failsOnly (backed_of_setup h) (Text.ofString "LA;")).cases with
    ⟨found, hfound⟩ | ⟨e, he⟩
  · rw [hfound] at hfails
    cases hfails
  · exact ⟨image, e, h, hwalk, he, hentries⟩

end Image

end OatImage
