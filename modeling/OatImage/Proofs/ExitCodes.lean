import OatImage.Proofs.Containers
import OatImage.Proofs.Reports
import OatImage.Proofs.Starts

/-!
# What an exit code says of an image

An inspection that ends with an exit code ends with 0 or 1. It ends with 0 exactly if the file
was loaded, the header of its image is valid and every record that the header declares decodes.
The key-value store is not asked for: a store that cannot be read leaves the exit code as it is.
-/
namespace OatImage

open Decode

/-! An image that was loaded is one that was set up. -/

theorem Image.setup_asking {begin stop : Option Int} {memory : Option ByteArray}
    {asked : Option InstructionSet} {image : Image}
    (h : setup begin stop memory asked = .ok image) (isa : InstructionSet) :
    setup begin stop memory (some isa) = .ok { image with instructionSet := isa } := by
  obtain ⟨b, s, buffer, header, rfl, rfl, rfl, hrange, hmemory, hheader, rfl⟩ := setup_eq_ok h
  exact setup_of_decode hrange hmemory hheader (some isa)

namespace LoadSettings

variable {s : LoadSettings} {loaded : Loaded}

theorem setup_of_setUp {found : Unwrapped} (h : s.setUp found = .ok loaded) :
    ∃ begin stop memory asked, Image.setup begin stop memory asked = .ok loaded.image := by
  obtain ⟨base, image, himage, rfl⟩ := setUp_eq_ok h
  unfold Image.ofBuffer at himage
  dsimp only
  by_cases hmachine : s.asked = none ∧ image.instructionSet = .none
  · rw [if_pos hmachine]
    exact ⟨_, _, _, _, Image.setup_asking himage found.machine⟩
  · rw [if_neg hmachine]
    exact ⟨_, _, _, _, himage⟩

theorem setup_of_loadFile {path : String} {content : Option ByteArray}
    (h : (s.loadFile path content).outcome = .ok loaded) :
    ∃ begin stop memory asked, Image.setup begin stop memory asked = .ok loaded.image := by
  unfold loadFile at h
  cases content with
  | none => cases h
  | some data =>
      simp only [load, Logged.outcome_bind, Logged.outcome_liftM, Logged.outcome_write,
        bind_eq_ok] at h
      obtain ⟨_, _, _, _, found, _, hsetUp⟩ := h
      exact setup_of_setUp hsetUp

/-- An inspection fails only where the file is not loaded. -/
theorem inspectFile_outcome {path : String} {content : Option ByteArray} {report : Report}
    (elapsed : Double) (h : (s.loadFile path content).outcome = .ok loaded)
    (hreport : (Report.build loaded).outcome = .ok report) :
    (s.inspectFile path content elapsed).outcome =
      .ok { report with path := (FilePath.ofString path).resolved.text } := by
  simp only [inspectFile, timed, Logged.outcome_bind, h, ok_bind, hreport, Logged.outcome_write,
    Logged.outcome_pure]

theorem inspectFile_error {path : String} {content : Option ByteArray} {e : Fault}
    (elapsed : Double) (h : (s.loadFile path content).outcome = .error e) :
    (s.inspectFile path content elapsed).outcome = .error e := by
  rw [inspectFile, Logged.outcome_bind, h, error_bind]

end LoadSettings

/-! A failure that ends the walk leaves a text in the report. -/

theorem Cause.message_ne_empty (c : Cause) : c.message ≠ "" := by
  intro h
  cases c with
  | outside | longNumber | noClassOffset | noClassDef =>
      exact absurd (String.append_eq_empty_iff.mp h).2 (by decide)
  | unknownClassKind | unsupportedDexVersion | unsupportedEndianTag | malformedString =>
      exact absurd (String.append_eq_empty_iff.mp h).1 (by decide)
  | _ => exact absurd h (by decide)

theorem Notice.render_ne_nil {n : Notice} (h : n.message ≠ "") : n.render ≠ [] := by
  have hmessage : Text.ofString n.message ≠ [] := by
    rwa [Text.ofString, ne_eq, List.map_eq_nil_iff, String.toList_eq_nil_iff]
  unfold render
  cases n.parts with
  | nil => exact hmessage
  | cons first rest =>
      intro hnil
      simp only [Text.join, List.flatten_cons, List.append_eq_nil_iff] at hnil
      exact hmessage hnil.1

theorem DecodeFault.render_ne_empty (e : DecodeFault) : e.render.toScalarString ≠ "" := by
  rw [Text.toScalarString, ne_eq, String.ofList_eq_empty_iff, List.map_eq_nil_iff]
  exact Notice.render_ne_nil e.cause.message_ne_empty

/-- The header of the image is valid, and every record that it declares decodes. -/
structure Image.InOrder (image : Image) : Prop where
  valid : image.header.isValid = true
  records : ∀ k < image.dexFileCount, ∃ record next, image.chained k = .ok (record, next)

namespace Report

theorem Refuses.not_isClean {report : Report} {image : Image} (h : report.Refuses image)
    (hinvalid : image.header.isValid = false) : ¬ report.isClean = true := by
  rw [isClean, h.header]
  simp only [HeaderSummary.ofImage, hinvalid, Bool.false_and, Bool.false_eq_true,
    not_false_eq_true]

/-- A report is clean if the walk behind a valid header came to its end. -/
theorem Describes.isClean_iff {report : Report} {image : Image} (h : report.Describes image)
    (hvalid : image.header.isValid = true) :
    report.isClean = true ↔ report.files.length = image.dexFileCount := by
  rw [isClean, h.header]
  simp only [HeaderSummary.ofImage, hvalid, Bool.true_and, ← h.complete]
  cases hwalk : report.walkError with
  | none => simp only [Option.all_none]
  | some text =>
      obtain ⟨e, _, _, rfl⟩ := (h.failure text).mp hwalk
      simp [DecodeFault.render_ne_empty]

theorem Describes.records_iff {report : Report} {image : Image} (h : report.Describes image) :
    report.files.length = image.dexFileCount ↔
      ∀ k < image.dexFileCount, ∃ record next, image.chained k = .ok (record, next) := by
  constructor
  · intro hall k hk
    obtain ⟨record, next, hchained, _⟩ := h.entry k (hall ▸ hk)
    exact ⟨record, next, hchained⟩
  · intro hrecords
    apply Nat.le_antisymm h.longest.1
    by_contra hshort
    obtain ⟨e, he⟩ := h.longest.2 (Nat.lt_of_not_le hshort)
    obtain ⟨record, next, hchained⟩ := hrecords _ (Nat.lt_of_not_le hshort)
    rw [hchained] at he
    cases he

theorem exists_build_isClean {begin stop : Option Int} {memory : Option ByteArray}
    {asked : Option InstructionSet} {image : Image}
    (h : Image.setup begin stop memory asked = .ok image) (wrapping : Wrapping) (base : Value) :
    ∃ report, (build ⟨image, wrapping, base⟩).outcome = .ok report ∧
      (report.isClean = true ↔ image.InOrder) := by
  obtain ⟨report, hreport, hrefuses, hdescribes⟩ := build_describes h wrapping base
  refine ⟨report, hreport, ?_⟩
  cases hvalid : image.header.isValid with
  | false =>
      refine iff_of_false ((hrefuses hvalid).not_isClean hvalid) fun horder => ?_
      rw [horder.valid] at hvalid
      cases hvalid
  | true =>
      rw [(hdescribes hvalid).isClean_iff hvalid, (hdescribes hvalid).records_iff]
      exact ⟨fun hrecords => ⟨hvalid, hrecords⟩, Image.InOrder.records⟩

end Report

/-- An image that was loaded has a report, which is clean exactly if the image is in order. -/
theorem LoadSettings.exists_build_of_loadFile {s : LoadSettings} {path : String}
    {content : Option ByteArray} {loaded : Loaded}
    (h : (s.loadFile path content).outcome = .ok loaded) :
    ∃ report, (Report.build loaded).outcome = .ok report ∧
      (report.isClean = true ↔ loaded.image.InOrder) := by
  obtain ⟨begin, stop, memory, asked, hsetup⟩ := setup_of_loadFile h
  exact Report.exists_build_isClean hsetup loaded.wrapping loaded.base

namespace CommandLine

section
variable {ε : Type} {w : Surroundings ε} {t : Terminal ε}

/-! Exit codes of the parts of a run. -/

theorem Outcome.ofShown_exit {quiet : Bool} {parts : List Shown} {code c : Nat}
    (h : (Outcome.ofShown t quiet parts code).ending = .exit c) : c = code := by
  unfold Outcome.ofShown at h
  cases hlines : t.lines parts with
  | error e =>
      rw [hlines] at h
      cases h
  | ok lines =>
      rw [hlines] at h
      cases h
      rfl

/-- The exit code of two outcomes is that of the second one. -/
theorem Outcome.andThen_exit {first second : Outcome ε} {code : Nat}
    (h : (first.andThen second).ending = .exit code) : second.ending = .exit code := by
  unfold Outcome.andThen at h
  cases hfirst : first.ending with
  | fault f =>
      rw [hfirst] at h
      dsimp only at h
      rw [hfirst] at h
      cases h
  | exit c =>
      rw [hfirst] at h
      cases hsecond : second.ending with
      | fault f =>
          rw [hsecond] at h
          dsimp only at h
          rw [hsecond] at h
          cases h
      | exit c' =>
          rw [hsecond] at h
          exact h

theorem Session.print_exit {s : Session} {json : List String} {shown : List Shown} {code c : Nat}
    (h : (s.print w json shown code).ending = .exit c) : c = code := by
  unfold Session.print at h
  by_cases hjson : s.json = true
  · rw [if_pos hjson] at h
    cases h
    rfl
  · rw [if_neg hjson] at h
    exact Outcome.ofShown_exit h

theorem reportCode_cases (r : Report) : reportCode r = 0 ∨ reportCode r = 1 := by
  unfold reportCode
  cases r.isClean with
  | false => exact .inr rfl
  | true => exact .inl rfl

theorem reportCode_eq_zero {r : Report} : reportCode r = 0 ↔ r.isClean = true := by
  unfold reportCode
  cases r.isClean with
  | false => simp
  | true => simp

/-- An inspection of a file in a session that has started. -/
theorem Session.perform_info_exit {s : Session} {file : NamedFile} {code : Nat}
    (h : (Task.perform w s (.info file)).ending = .exit code) :
    (code = 0 ∨ code = 1) ∧ (code = 0 ↔ ∃ loaded,
      (s.loadSettings.loadFile file.path (some file.content)).outcome = .ok loaded ∧
        loaded.image.InOrder) := by
  unfold Task.perform Session.inspect Session.ofLoaded at h
  dsimp only at h
  cases hload : (s.loadSettings.loadFile file.path (some file.content)).outcome with
  | ok loaded =>
      obtain ⟨report, hreport, hclean⟩ := LoadSettings.exists_build_of_loadFile hload
      rw [LoadSettings.inspectFile_outcome w.elapsed hload hreport] at h
      obtain rfl := Session.print_exit h
      refine ⟨reportCode_cases _, reportCode_eq_zero.trans (hclean.trans ?_)⟩
      simp only [Except.ok.injEq, exists_eq_left']
  | error e =>
      have hnone :
          ¬ ∃ loaded, (.error e : Decode Loaded) = .ok loaded ∧ loaded.image.InOrder := by
        rintro ⟨_, hok, _⟩
        cases hok
      rw [LoadSettings.inspectFile_error w.elapsed hload] at h
      cases e with
      | load e =>
          obtain rfl := Outcome.ofShown_exit h
          exact ⟨.inr rfl, iff_of_false Nat.one_ne_zero hnone⟩
      | _ => cases h

/-- An inspection of a file that ends with an exit code ends with 0 or 1, and with 0 exactly if
the file is loaded, its header is valid and every record that the header declares decodes. -/
theorem run_info_exit {words : List String} {request : Request} {file : NamedFile} {code : Nat}
    (hrequest : w.reader.request w.files words = .ok request)
    (htask : w.reader.task w.files request.command request.words = .ok (.info file))
    (hexit : (run w words).ending = .exit code) :
    (code = 0 ∨ code = 1) ∧ (code = 0 ↔ ∃ session loaded,
      Session.start w.files request.choices = .ok session ∧
        (session.loadSettings.loadFile file.path (some file.content)).outcome = .ok loaded ∧
          loaded.image.InOrder) := by
  rw [run, hrequest] at hexit
  dsimp only at hexit
  unfold Request.perform at hexit
  cases hstart : Session.start w.files request.choices with
  | ok session =>
      rw [hstart, htask] at hexit
      have hperform := Session.perform_info_exit (Outcome.andThen_exit hexit)
      refine ⟨hperform.1, hperform.2.trans ?_⟩
      simp only [Except.ok.injEq, exists_and_left, exists_eq_left']
  | error stop =>
      have hnone : ¬ ∃ session loaded, (.error stop : Except Stop Session) = .ok session ∧
          (session.loadSettings.loadFile file.path (some file.content)).outcome = .ok loaded ∧
            loaded.image.InOrder := by
        rintro ⟨_, _, hok, _⟩
        cases hok
      rw [hstart] at hexit
      cases stop with
      | fault f => cases hexit
      | told quiet message =>
          obtain rfl := Outcome.ofShown_exit hexit
          exact ⟨.inr rfl, iff_of_false Nat.one_ne_zero hnone⟩

/-! A run that prints JSON ends as its task does, on a terminal that prints what is legible. -/

theorem Outcome.andThen_of_exit {first second : Outcome ε} {c code : Nat}
    (hfirst : first.ending = .exit c) (hsecond : second.ending = .exit code) :
    (first.andThen second).ending = .exit code := by
  rw [Outcome.andThen, hfirst, hsecond]

theorem greeting_exit (h : t.Prints) (quiet : Bool) :
    (Outcome.ofShown t quiet [.banner "Oatwalk" Help.version] 0).ending = .exit 0 := by
  obtain ⟨lines, hlines⟩ := h _ (legible_greeting t)
  rw [Outcome.ofShown, Terminal.lines, hlines]

theorem Request.perform_json {request : Request} {session : Session} {file : NamedFile}
    {loaded : Loaded} {report : Report} (hterminal : w.terminal.Prints)
    (hstart : Session.start w.files request.choices = .ok session) (hjson : session.json = true)
    (htask : w.reader.task w.files request.command request.words = .ok (.info file))
    (hload : (session.loadSettings.loadFile file.path (some file.content)).outcome = .ok loaded)
    (hreport : (Report.build loaded).outcome = .ok report) :
    (request.perform w).ending = .exit (reportCode report) := by
  have hperform : (Task.perform w session (.info file)).ending = .exit (reportCode report) := by
    unfold Task.perform Session.inspect Session.ofLoaded
    dsimp only
    rw [LoadSettings.inspectFile_outcome w.elapsed hload hreport]
    dsimp only
    rw [Session.print, if_pos hjson]
    rfl
  unfold Request.perform
  rw [hstart, htask]
  exact Outcome.andThen_of_exit (greeting_exit hterminal session.json) hperform

end

/-- A directory with one file. -/
def oneFile (content : ByteArray) : Files :=
  fun path => if path = "a.oat" then .file "a.oat" content else .absent

/-- What is around a run in the directory. The screen has no width. -/
def aroundFile (content : ByteArray) : Surroundings ScreenFault :=
  { reader := .splitting, terminal := Screen.terminal 0, files := oneFile content
    elapsed := .finite false 0 0 }

theorem file_oneFile (content : ByteArray) (given : List (MethodOption × String)) :
    Task.file (oneFile content) ⟨given, ["a.oat"]⟩ = .ok ⟨"a.oat", "a.oat", content⟩ := by
  simp [Task.file, fileAt, oneFile]

/-- The words are read and the file is found. -/
theorem read_aroundFile (content : ByteArray) :
    (aroundFile content).reader.request (aroundFile content).files ["--json", "info", "a.oat"] =
        .ok ⟨{ json := true }, .info, ["a.oat"]⟩ ∧
      (aroundFile content).reader.task (aroundFile content).files .info ["a.oat"] =
        .ok (.info ⟨"a.oat", "a.oat", content⟩) := by
  refine ⟨rfl, ?_⟩
  have hsplit : Task.split Task.plainSpellings ["a.oat"] = .ok ⟨[], ["a.oat"]⟩ := rfl
  show Task.read (oneFile content) .info ["a.oat"] = _
  simp only [Task.read, hsplit, file_oneFile, bind, Except.bind]
  rfl

/-- The session of a run that prints JSON with the usual settings. -/
def jsonSession : Session := ⟨Session.withChoices {} { json := true }, none, true⟩

theorem start_jsonSession (files : Files) :
    Session.start files { json := true } = .ok jsonSession := Session.start_usual _ rfl rfl

/-- An image whose store ends within its first key. The one record behind the store points at a
module that defines no class. -/
def openStore : ByteArray :=
  let header : Header :=
    { address := 0, magic := Header.magicBytes, version := Header.version064, checksum := 0
      instructionSetCode := 1, features := 0, dexFileCount := 1, executableOffset := 0
      trampolines := List.replicate 7 0, imagePatchDelta := 0, imageChecksum := 0
      imageDataBegin := 0, keyValueStoreSize := 4 }
  let head := header.encode ++ [0x61, 0x62, 0x63, 0x64] ++ Record.encode [0x61] 0 89 []
  ⟨(head ++ Dex.magicBytes ++ [0x30, 0x33, 0x35, 0] ++ List.replicate 104 0).toArray⟩

theorem loadFile_openStore :
    ∃ loaded, (jsonSession.loadSettings.loadFile "a.oat" (some openStore)).outcome =
        .ok loaded ∧
      loaded.image.InOrder ∧ loaded.image.keyValueStore.toOption = none := by
  obtain ⟨image, himage, hread⟩ := Image.exists_ofBuffer_of_any 0 openStore none
    (p := fun image => image.header.isValid && image.dexFileCount = 1 &&
      ((image.chained 0).toOption.any fun _ => true) && image.keyValueStore.toOption.isNone)
    (by decide +kernel) (by decide +kernel)
  simp only [Bool.and_eq_true, decide_eq_true_eq, Option.isNone_iff_eq_none] at hread
  obtain ⟨⟨⟨hvalid, hcount⟩, hfirst⟩, hstore⟩ := hread
  obtain ⟨⟨record, next⟩, hfirst, _⟩ := Decode.exists_of_any hfirst
  have hno : (openStore.extract 0 4).toList ≠ Elf.magicBytes := by
    rw [toList_eq]
    decide +kernel
  have hfits : (Quantity.whole 536870912).isBelow openStore.size = false := by decide +kernel
  refine ⟨_, (LoadSettings.loadFile_of_fits rfl hfits).trans
    (LoadSettings.load_of_raw hno rfl himage), ⟨hvalid, fun k hk => ?_⟩, hstore⟩
  have hone : image.dexFileCount = 1 := hcount
  obtain rfl : k = 0 := Nat.lt_one_iff.mp (hone ▸ hk)
  exact ⟨record, next, hfirst⟩

theorem run_openStore_exit :
    (run (aroundFile openStore) ["--json", "info", "a.oat"]).ending = .exit 0 := by
  obtain ⟨hrequest, htask⟩ := read_aroundFile openStore
  obtain ⟨loaded, hload, horder, _⟩ := loadFile_openStore
  obtain ⟨report, hreport, hclean⟩ := LoadSettings.exists_build_of_loadFile hload
  have hperform : (Request.perform (aroundFile openStore)
      ⟨{ json := true }, .info, ["a.oat"]⟩).ending = .exit (reportCode report) :=
    Request.perform_json Screen.terminal_prints (start_jsonSession _) rfl htask hload hreport
  rw [reportCode_eq_zero.mpr (hclean.mpr horder)] at hperform
  rw [run, hrequest]
  exact hperform

/-- The exit code is 0 although the store cannot be read. -/
theorem run_info_openStore :
    (run (aroundFile openStore) ["--json", "info", "a.oat"]).ending = .exit 0 ∧
      ∃ session loaded e,
        Session.start (oneFile openStore) { json := true } = .ok session ∧
        (session.loadSettings.loadFile "a.oat" (some openStore)).outcome = .ok loaded ∧
        loaded.image.keyValueStore = .error (.decode e) := by
  obtain ⟨loaded, hload, _, hstore⟩ := loadFile_openStore
  refine ⟨run_openStore_exit, jsonSession, loaded, ?_⟩
  rcases (Image.keyValueStore_failsOnly loaded.image).cases with ⟨store, hread⟩ | ⟨e, he⟩
  · rw [hread] at hstore
    cases hstore
  · exact ⟨e, start_jsonSession _, hload, he⟩

theorem run_info_exit_openStore :
    ∃ request file,
      (aroundFile openStore).reader.request (aroundFile openStore).files
        ["--json", "info", "a.oat"] = .ok request ∧
      (aroundFile openStore).reader.task (aroundFile openStore).files request.command
        request.words = .ok (.info file) ∧
      (run (aroundFile openStore) ["--json", "info", "a.oat"]).ending = .exit 0 ∧
      ∃ session loaded,
        Session.start (aroundFile openStore).files request.choices = .ok session ∧
        (session.loadSettings.loadFile file.path (some file.content)).outcome = .ok loaded ∧
        loaded.image.InOrder := by
  obtain ⟨hrequest, htask⟩ := read_aroundFile openStore
  exact ⟨_, _, hrequest, htask, run_openStore_exit,
    (run_info_exit hrequest htask run_openStore_exit).2.mp rfl⟩

end CommandLine

end OatImage
