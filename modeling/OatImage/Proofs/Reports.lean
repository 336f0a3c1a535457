import OatImage.Proofs.OperationFaults
import OatImage.Report

/-!
# What reports say

A report is made of every image that was set up, whatever its bytes are. The store and the
directory are read one after the other, and a failure in either stays where it is: a store that
cannot be read is left empty, and a directory that cannot be read to its end is summed up to the
record before the one that fails, with the failure beside it.
-/
namespace OatImage

open Decode

variable {image : Image} {files : List DexFile} {fault : Option DecodeFault}

/-- A dex file of the reference walk is the record that is decoded at its position. -/
theorem Image.chained_of_fileAt {k : Nat} {file : DexFile} (h : image.fileAt k = .ok file) :
    ∃ record next, image.chained k = .ok (record, next) ∧ file = ⟨k, record⟩ := by
  obtain ⟨⟨record, next⟩, hchained, hfile⟩ := bind_eq_ok.mp h
  exact ⟨record, next, hchained, (Except.ok.inj hfile).symm⟩

/-- A walk is complete exactly if it reaches as many dex files as the header declares. -/
theorem Image.Reference.fault_eq_none_iff (h : image.Reference files fault) :
    fault = none ↔ files.length = image.dexFileCount := by
  constructor
  · exact h.complete
  · intro hall
    cases hfault : fault with
    | none => rfl
    | some e => exact absurd hall (Nat.ne_of_lt (h.stopped e hfault).1)

namespace Report

/-! The two parts that may fail. -/

theorem readStore_of_ok {store : KeyValueStore} (h : image.keyValueStore = .ok store) :
    (readStore image).outcome = .ok store := by
  rw [readStore, h]
  rfl

/-- A store that cannot be read fails in decoding, so it is left empty. -/
theorem readStore_of_error {e : Fault} (h : image.keyValueStore = .error e) :
    (readStore image).outcome = .ok [] := by
  obtain ⟨d, rfl⟩ := Image.keyValueStore_failsOnly image e h
  rw [readStore, h]
  rfl

theorem readDirectory_of_reference (h : image.Reference files fault) :
    (readDirectory image).outcome =
      .ok (files.map DexFileSummary.ofDexFile, fault.map fun e => e.render.toScalarString) := by
  obtain ⟨hfiles, hfailure⟩ := h.walked
  rw [readDirectory, hfiles, hfailure]
  cases fault <;> rfl

/-- What a report says of the image behind a valid header. -/
structure Describes (report : Report) (image : Image) : Prop where
  header : report.header = HeaderSummary.ofImage image
  /-- A summary stands at the position of its record. -/
  entry : ∀ k (hk : k < report.files.length), ∃ record next,
    image.chained k = .ok (record, next) ∧
      report.files[k] = DexFileSummary.ofDexFile ⟨k, record⟩ ∧ report.files[k].index = k ∧
      report.files[k].classCount = record.classOffsets.length ∧
      report.files[k].recordSize = record.size
  /-- Of the records that the header declares, the first one without a summary does not
  decode. -/
  longest : report.files.length ≤ image.dexFileCount ∧
    (report.files.length < image.dexFileCount →
      ∃ e, image.chained report.files.length = .error (.decode e))
  complete : report.walkError = none ↔ report.files.length = image.dexFileCount
  /-- The text is that of the failure which ends the walk, at the first record without a
  summary. -/
  failure : ∀ text, report.walkError = some text ↔ ∃ e,
    image.dexFiles.failure = some (.decode e) ∧ e.index = some (report.files.length : Int) ∧
      text = e.render.toScalarString
  store : ∀ store, image.keyValueStore = .ok store → report.store = store
  unreadableStore : ∀ e, image.keyValueStore = .error e → report.store = []
  /-- The directory is read the same, whatever has become of the store. -/
  directory : (readDirectory image).outcome = .ok (report.files, report.walkError)

theorem describes_of_reference (h : image.Reference files fault) {report : Report}
    (hheader : report.header = HeaderSummary.ofImage image)
    (hfiles : report.files = files.map DexFileSummary.ofDexFile)
    (hwalkError : report.walkError = fault.map fun e => e.render.toScalarString)
    (hstore : (readStore image).outcome = .ok report.store) : report.Describes image := by
  have hlength : report.files.length = files.length := by rw [hfiles, List.length_map]
  refine ⟨hheader, ?_, ?_, ?_, ?_, ?_, ?_, ?_⟩
  · intro k hk
    obtain ⟨record, next, hchained, hfile⟩ :=
      Image.chained_of_fileAt (h.reached k (hlength ▸ hk))
    have hsummary : report.files[k] = DexFileSummary.ofDexFile ⟨k, record⟩ := by
      simp only [hfiles, List.getElem_map, hfile]
    rw [hsummary]
    exact ⟨record, next, hchained, rfl, rfl, rfl, rfl⟩
  · rw [hlength]
    refine ⟨h.count, fun hlt => ?_⟩
    obtain ⟨e, he⟩ := h.exists_fault hlt
    obtain ⟨_, d, hd, _⟩ := h.stopped e he
    exact ⟨d, hd⟩
  · rw [hwalkError, hlength, Option.map_eq_none_iff]
    exact h.fault_eq_none_iff
  · intro text
    rw [hwalkError, h.walked.2, hlength]
    constructor
    · intro htext
      obtain ⟨e, he, rfl⟩ := Option.map_eq_some_iff.mp htext
      obtain ⟨_, _, _, _, hindex⟩ := h.stopped e he
      exact ⟨e, by rw [he]; rfl, by rw [hindex], rfl⟩
    · rintro ⟨e, he, _, rfl⟩
      obtain ⟨d, hd, heq⟩ := Option.map_eq_some_iff.mp he
      cases heq
      rw [hd]
      rfl
  · intro store hread
    rw [readStore_of_ok hread] at hstore
    exact (Except.ok.inj hstore).symm
  · intro e hread
    rw [readStore_of_error hread] at hstore
    exact (Except.ok.inj hstore).symm
  · rw [readDirectory_of_reference h, hfiles, hwalkError]

/-- What a report says of an image whose header is not valid: that, and nothing of what may
stand behind the header. -/
structure Refuses (report : Report) (image : Image) : Prop where
  header : report.header = HeaderSummary.ofImage image
  files : report.files = []
  store : report.store = []
  walkError : report.walkError = some (invalidHeader image.header)

theorem exists_readStore (image : Image) : ∃ store, (readStore image).outcome = .ok store := by
  cases h : image.keyValueStore with
  | ok store => exact ⟨store, readStore_of_ok h⟩
  | error e => exact ⟨[], readStore_of_error h⟩

theorem build_of_invalid (h : image.header.isValid = false) (wrapping : Wrapping) (base : Value) :
    ∃ report, (build ⟨image, wrapping, base⟩).outcome = .ok report ∧ report.Refuses image := by
  rw [build, h]
  exact ⟨_, rfl, ⟨rfl, rfl, rfl, rfl⟩⟩

theorem build_of_reference (h : image.header.isValid = true) (href : image.Reference files fault)
    (wrapping : Wrapping) (base : Value) :
    ∃ report, (build ⟨image, wrapping, base⟩).outcome = .ok report ∧ report.Describes image := by
  obtain ⟨store, hstore⟩ := exists_readStore image
  rw [build, h]
  simp only [Bool.not_true, Bool.false_eq_true, if_false, Logged.outcome_bind, hstore, ok_bind,
    readDirectory_of_reference href]
  exact ⟨_, rfl, describes_of_reference href rfl rfl rfl hstore⟩

/-- The summaries stop where a walk does. -/
theorem Describes.stopsAt {report : Report} (h : report.Describes image) :
    image.StopsAt report.files.length := by
  refine ⟨h.longest.1, fun k hk => ?_, fun hlt => ?_⟩
  · obtain ⟨record, next, hchained, _⟩ := h.entry k hk
    exact ⟨record, next, hchained⟩
  · obtain ⟨e, he⟩ := h.longest.2 hlt
    exact ⟨.decode e, he⟩

/-- Every image that was set up has a report, and it says of the image what there is to say. -/
theorem build_describes {begin stop : Option Int} {memory : Option ByteArray}
    {asked : Option InstructionSet} (h : Image.setup begin stop memory asked = .ok image)
    (wrapping : Wrapping) (base : Value) :
    ∃ report, (build ⟨image, wrapping, base⟩).outcome = .ok report ∧
      (image.header.isValid = false → report.Refuses image) ∧
      (image.header.isValid = true → report.Describes image) := by
  cases hvalid : image.header.isValid with
  | false =>
      obtain ⟨report, hreport, hrefuses⟩ := build_of_invalid hvalid wrapping base
      exact ⟨report, hreport, fun _ => hrefuses, nofun⟩
  | true =>
      obtain ⟨f, hf⟩ := image.exists_stopsAt
      obtain ⟨files, fault, href⟩ := hf.exists_reference (Image.backed_of_setup h)
      obtain ⟨report, hreport, hdescribes⟩ := build_of_reference hvalid href wrapping base
      exact ⟨report, hreport, nofun, fun _ => hdescribes⟩

/-- The stream of records ends within the second one, and the report has the first one and the
failure. -/
theorem build_describes_cutDirectory : ∃ image report,
    Image.setup (some 4096) (some 4297) (some Image.cutDirectory) none = .ok image ∧
      image.header.isValid = true ∧
      (build ⟨image, .raw, .integer 4096⟩).outcome = .ok report ∧ report.Describes image ∧
      report.files.length = 1 ∧ report.walkError ≠ none := by
  obtain ⟨image, h⟩ := Image.exists_isCutDirectory
  obtain ⟨report, hreport, _, hdescribes⟩ := build_describes h.setup .raw (.integer 4096)
  have hd := hdescribes h.valid
  have hone : report.files.length = 1 := h.stopsAt_eq hd.stopsAt
  refine ⟨image, report, h.setup, h.valid, hreport, hd, hone, fun hnone => ?_⟩
  have hcount := hd.complete.mp hnone
  rw [hone, h.count] at hcount
  cases hcount

end Report

end OatImage
