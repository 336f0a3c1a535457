import OatImage.Proofs.LoadingOrder
import OatImage.Proofs.MethodRuns

/-!
# Base addresses that are given

The user may give the address at which an image begins. A file that is its own image begins there.
So does an image in a container, unless the address is zero: zero is what the settings hold where
no address is chosen, and the image then stays at its start symbol. Whatever is reported of an
image counts from where it begins, and so does every entry point.
-/
namespace OatImage

open Decode

/-! Where an image begins, from the base address of the settings. -/

namespace LoadSettings

variable {s : LoadSettings} {base : Int} {data : ByteArray} {loaded : Loaded}

/-- A file that is its own image begins at an address. An image in a container does, too, unless
the address is zero: then it begins at its start symbol. -/
structure BasedAt (s : LoadSettings) (data : ByteArray) (base : Int) (loaded : Loaded) : Prop where
  raw : loaded.wrapping = .raw → loaded.image.begin = base
  elf : loaded.wrapping = .elf → ∃ c first, Elf.Container.read { data } = (true, c) ∧
    c.named s.startSymbol = .ok first ∧
    loaded.image.begin = if base = 0 then (first.value : Int) else base

theorem load_basedAt (hbase : s.base.integer? = some base)
    (h : (s.load data).outcome = .ok loaded) : s.BasedAt data base loaded := by
  rw [load, Logged.outcome_bind] at h
  obtain ⟨found, hfound, h⟩ := bind_eq_ok.mp h
  rw [Logged.outcome_liftM] at h
  by_cases helf : (data.extract 0 4).toList = Elf.magicBytes
  · rcases hread : Elf.Container.read { data } with ⟨_ | _, c⟩
    · rw [unwrap_of_malformed helf hread] at hfound
      cases hfound
    · rw [unwrap_of_elf helf hread] at hfound
      obtain ⟨⟨bytes, start⟩, hload, hfound⟩ := bind_eq_ok.mp hfound
      cases hfound
      obtain ⟨first, _, hfirst, _, rfl⟩ := Elf.Container.named_of_load hload
      have hmade := (setUp_eq_ok_iff (integer_baseOver hbase first.value)).mp h
      refine ⟨fun hraw => ?_, fun _ => ⟨c, first, hread, hfirst, hmade.place⟩⟩
      cases hmade.wrapping.symm.trans hraw
  · rw [unwrap_of_raw helf] at hfound
    cases hfound
    have hmade := (setUp_eq_ok_iff hbase).mp h
    refine ⟨fun _ => hmade.place, fun hwrapping => ?_⟩
    cases hmade.wrapping.symm.trans hwrapping

theorem loadFile_basedAt {path : String} (hbase : s.base.integer? = some base)
    (h : (s.loadFile path (some data)).outcome = .ok loaded) : s.BasedAt data base loaded := by
  simp only [loadFile, Logged.outcome_bind, Logged.outcome_liftM, Logged.outcome_write,
    bind_eq_ok] at h
  obtain ⟨_, _, _, _, hload⟩ := h
  exact load_basedAt hbase hload

end LoadSettings

/-- A report begins where its image does. -/
theorem Report.base_of_build {loaded : Loaded} {report : Report}
    (h : (build loaded).outcome = .ok report) : report.base = loaded.image.begin := by
  unfold build at h
  dsimp only at h
  split at h
  · rw [Logged.outcome_bind] at h
    obtain ⟨_, _, h⟩ := bind_eq_ok.mp h
    cases h
    rfl
  · rw [Logged.outcome_bind] at h
    obtain ⟨_, _, h⟩ := bind_eq_ok.mp h
    rw [Logged.outcome_bind] at h
    obtain ⟨_, _, h⟩ := bind_eq_ok.mp h
    cases h
    rfl

namespace CommandLine

variable {files : Files} {words : List String} {address : Int}

/-! The address on its way from the words to the settings. -/

/-- The words give an address for the start of the image. -/
def GivesBase (r : Reader) (words : List String) (address : Int) : Prop :=
  ∃ word, r.given words .baseAddress = some word ∧ Address.read? word = some address

/-- The word that counts for the base address is read as an address, and a request holds what it is
read as. -/
def Reader.CallsBack (r : Reader) : Prop :=
  ∀ files words request word, r.request files words = .ok request →
    r.given words .baseAddress = some word →
      ∃ address, Choices.readBase word = .ok address ∧ request.choices.base = some address

namespace Choices

variable {s : Split GlobalOption} {c c' : Choices}

theorem readBase_eq_ok_iff {word : String} :
    readBase word = .ok address ↔ Address.read? word = some address ∧ 0 ≤ address := by
  unfold readBase
  cases Address.read? word with
  | none => exact ⟨nofun, fun h => (nomatch h.1)⟩
  | some a =>
      dsimp only
      rw [Option.some.injEq]
      by_cases hneg : a < 0
      · rw [if_pos hneg]
        exact ⟨nofun, fun ⟨heq, hle⟩ => absurd hneg (by omega)⟩
      · rw [if_neg hneg, Except.ok.injEq]
        exact ⟨fun heq => ⟨heq, by omega⟩, And.left⟩

/-- One option is for the base address, and the others leave it as it is. -/
theorem base_of_choose {option : GlobalOption} (h : choose files s c option = .ok c') :
    (option = .baseAddress ∧ ∃ a, readBase ((s.value? .baseAddress).getD "") = .ok a ∧
      c'.base = some a) ∨ (option ≠ .baseAddress ∧ c'.base = c.base) := by
  cases option with
  | baseAddress =>
      obtain ⟨a, ha, h⟩ := bind_eq_ok.mp h
      cases h
      exact .inl ⟨rfl, a, ha, rfl⟩
  | config | isa =>
      obtain ⟨_, _, h⟩ := bind_eq_ok.mp h
      cases h
      exact .inr ⟨nofun, rfl⟩
  | verbose | json =>
      cases h
      exact .inr ⟨nofun, rfl⟩
  | version | help => cases h

/-- After all options the base address is the one that is given, if one is. -/
theorem base_of_foldlM {options : List GlobalOption}
    (h : options.foldlM (choose files s) c = .ok c') :
    (.baseAddress ∉ options ∧ c'.base = c.base) ∨
      ∃ a, readBase ((s.value? .baseAddress).getD "") = .ok a ∧ c'.base = some a := by
  induction options generalizing c with
  | nil =>
      cases h
      exact .inl ⟨List.not_mem_nil, rfl⟩
  | cons option options ih =>
      rw [List.foldlM_cons] at h
      obtain ⟨middle, hfirst, hrest⟩ := bind_eq_ok.mp h
      rcases ih hrest with ⟨hnone, hsame⟩ | hset
      · rcases base_of_choose hfirst with ⟨_, a, ha, hbase⟩ | ⟨hother, hbase⟩
        · exact .inr ⟨a, ha, hsame.trans hbase⟩
        · refine .inl ⟨?_, hsame.trans hbase⟩
          rw [List.mem_cons, not_or]
          exact ⟨Ne.symm hother, hnone⟩
      · exact .inr hset

theorem mem_order_of_value? {option : GlobalOption} {word : String}
    (h : s.value? option = some word) : option ∈ s.order := by
  obtain ⟨before, after, hgiven, _⟩ := List.lookup_eq_some_iff.mp h
  have hmem : (option, word) ∈ s.given := by
    rw [← List.mem_reverse, hgiven]
    exact List.mem_append_right before List.mem_cons_self
  exact List.mem_eraseDups.mpr (List.mem_map_of_mem hmem)

theorem base_of_ofSplit {word : String} (hvalue : s.value? .baseAddress = some word)
    (h : ofSplit files s = .ok c) :
    ∃ address, readBase word = .ok address ∧ c.base = some address := by
  rcases base_of_foldlM h with ⟨hnone, _⟩ | ⟨address, hread, hbase⟩
  · refine absurd (List.mem_append_right _ ?_) hnone
    exact List.mem_filter.mpr ⟨mem_order_of_value? hvalue, rfl⟩
  · rw [hvalue, Option.getD_some] at hread
    exact ⟨address, hread, hbase⟩

end Choices

/-- A reader that splits the words reads the last word for the base address. -/
theorem Reader.splitting_callsBack : splitting.CallsBack := by
  intro files words request word hrequest hgiven
  obtain ⟨s, hsplit, hvalue⟩ := Option.bind_eq_some_iff.mp hgiven
  change Request.read files words = .ok request at hrequest
  unfold Request.read at hrequest
  split at hrequest
  · cases hrequest
  · obtain ⟨s', hsplit', hrequest⟩ := bind_eq_ok.mp hrequest
    rw [hsplit'] at hsplit
    cases hsplit
    obtain ⟨choices, hchoices, hrequest⟩ := bind_eq_ok.mp hrequest
    obtain ⟨⟨command, rest⟩, _, hrequest⟩ := bind_eq_ok.mp hrequest
    cases hrequest
    exact Choices.base_of_ofSplit hvalue hchoices

theorem GivesBase.choices {r : Reader} {request : Request} (hreader : r.CallsBack)
    (h : GivesBase r words address) (hrequest : r.request files words = .ok request) :
    request.choices.base = some address ∧ 0 ≤ address := by
  obtain ⟨word, hgiven, hword⟩ := h
  obtain ⟨a, hread, hbase⟩ := hreader files words request word hrequest hgiven
  rw [Choices.readBase_eq_ok_iff, hword] at hread
  obtain ⟨heq, hle⟩ := hread
  cases heq
  exact ⟨hbase, hle⟩

/-- An address that is chosen counts before that of the settings file. -/
theorem Session.base_of_start {c : Choices} {session : Session}
    (h : Session.start files c = .ok session) (hbase : c.base = some address) :
    session.loadSettings.base = .integer address := by
  unfold Session.start at h
  obtain ⟨settings, _, h⟩ := bind_eq_ok.mp h
  obtain ⟨_, _, h⟩ := bind_eq_ok.mp h
  obtain ⟨asked, _, h⟩ := bind_eq_ok.mp h
  cases h
  rw [Session.loadSettings, Session.withChoices, hbase]
  rfl

/-! What a run reports of the image. -/

section
variable {ε : Type} {w : Surroundings ε}

namespace Task

/-- The file of a task. -/
def source : Task → NamedFile
  | .info file => file
  | .dex file => file
  | .method file _ => file

/-- The answer of a task is about an image that begins at an address: its report says so, and the
entry point that its lookup reports is as far behind as the code offset says. -/
def Reports (w : Surroundings ε) (s : Session) (begin : Int) : Task → Prop
  | .info file => ∃ r : Report, r.base = begin ∧ perform w s (.info file) =
      s.print w (JsonText.lines .unicode 0 r.toValue) (Display.report w.terminal.escape r)
        (reportCode r)
  | .dex file => ∃ r : Report, r.base = begin ∧ perform w s (.dex file) =
      s.print w (JsonText.lines .ascii 0 r.filesValue)
        (Display.files w.terminal.escape r.files (some r.header.dexFileCount) ++
          Display.walkError w.terminal.escape r) (reportCode r)
  | .method file q => ∃ l : Lookup, l.entryPoint = l.codeOffset.map (begin + ·) ∧
      perform w s (.method file q) =
        s.print w (JsonText.lines .unicode 0 l.toValue) (Display.lookup w.terminal.escape l)
          (lookupCode l)

theorem exists_inspect_eq {s : Session} {file : NamedFile} {loaded : Loaded}
    (h : (s.loadSettings.loadFile file.path (some file.content)).outcome = .ok loaded) :
    ∃ r : Report, r.base = loaded.image.begin ∧
      ∀ finish, s.inspect w file finish = finish r := by
  obtain ⟨report, hreport, _⟩ := LoadSettings.exists_build_of_loadFile h
  have hbase : report.base = loaded.image.begin := Report.base_of_build hreport
  refine ⟨{ report with path := file.name }, hbase, fun finish => ?_⟩
  unfold Session.inspect Session.ofLoaded
  rw [LoadSettings.inspectFile_outcome w.elapsed h hreport]

theorem reports_of_loadFile {s : Session} {task : Task} {loaded : Loaded}
    (h : (s.loadSettings.loadFile task.source.path (some task.source.content)).outcome =
      .ok loaded) : task.Reports w s loaded.image.begin := by
  cases task with
  | info file | dex file =>
      obtain ⟨r, hbase, hfinish⟩ := exists_inspect_eq (w := w) h
      refine ⟨r, hbase, ?_⟩
      rw [perform]
      exact hfinish _
  | method file q =>
      obtain ⟨begin, stop, memory, asked, hsetup⟩ := LoadSettings.setup_of_loadFile h
      obtain ⟨resolution, houtcome, hends⟩ := Image.resolveMethod_ends
        (Image.backed_of_setup hsetup) q.descriptor q.name q.signature q.location
      refine ⟨_, (Lookup.isReport_of_ends hends).entryPoint, perform_method h ?_⟩
      rw [Lookup.run, Logged.outcome_bind, houtcome]
      rfl

end Task

/-- In every run whose words give an address and whose file loads, a raw image begins at the
address, and so does one in a container unless the address is zero, which leaves it at its start
symbol. The run greets and prints what is reported of that image: where it begins, and entry points
that are a code offset behind it. -/
theorem run_basedAt {request : Request} {session : Session} {task : Task} {loaded : Loaded}
    (hreader : w.reader.CallsBack) (hgiven : GivesBase w.reader words address)
    (hrequest : w.reader.request w.files words = .ok request)
    (hstart : Session.start w.files request.choices = .ok session)
    (htask : w.reader.task w.files request.command request.words = .ok task)
    (hload : (session.loadSettings.loadFile task.source.path
      (some task.source.content)).outcome = .ok loaded) :
    0 ≤ address ∧ session.loadSettings.BasedAt task.source.content address loaded ∧
      task.Reports w session loaded.image.begin ∧
      run w words =
        (Outcome.ofShown w.terminal session.json [.banner "Oatwalk" Help.version] 0).andThen
          (task.perform w session) := by
  obtain ⟨hchoice, hle⟩ := hgiven.choices hreader hrequest
  have hbase := Session.base_of_start hstart hchoice
  refine ⟨hle, LoadSettings.loadFile_basedAt (by rw [hbase]; rfl) hload,
    Task.reports_of_loadFile hload, ?_⟩
  rw [run, hrequest]
  dsimp only
  rw [Request.perform, hstart, htask]

end

/-- An inspection with an address. -/
def baseWords (word : String) : List String :=
  ["--json", "--base-address", word, "info", "a.oat"]

/-- An image in a container, whose start symbol has the value 8192. -/
def smallContainer : ByteArray := LoadSettings.smallFile ⟨true, true⟩ Image.cutStream

/-- The inspection of the container. -/
def smallTask : Task := .info ⟨"a.oat", "a.oat", smallContainer⟩

/-- The session of an inspection with an address. -/
def baseSession (address : Int) : Session :=
  ⟨Session.withChoices {} { json := true, base := some address }, none, true⟩

/-- The words give the address, and with it the image of the container begins at the other one. -/
structure LoadsSmall (word : String) (address begin : Int) (loaded : Loaded) : Prop where
  gives : GivesBase .splitting (baseWords word) address
  request : Request.read (oneFile smallContainer) (baseWords word) =
    .ok ⟨{ json := true, base := some address }, .info, ["a.oat"]⟩
  start : Session.start (oneFile smallContainer) { json := true, base := some address } =
    .ok (baseSession address)
  task : Task.read (oneFile smallContainer) .info ["a.oat"] = .ok smallTask
  loads : ((baseSession address).loadSettings.loadFile smallTask.source.path
    (some smallTask.source.content)).outcome = .ok loaded
  place : loaded.wrapping = .elf ∧ loaded.image.begin = begin

theorem exists_loadsSmall {word : String} {address begin : Int}
    (hbegin : begin = if address = 0 then 8192 else address)
    (hgives : GivesBase .splitting (baseWords word) address)
    (hrequest : Request.read (oneFile smallContainer) (baseWords word) =
      .ok ⟨{ json := true, base := some address }, .info, ["a.oat"]⟩) :
    ∃ loaded, LoadsSmall word address begin loaded := by
  obtain ⟨image, himage, _⟩ := Image.exists_ofBuffer_of_any 8192 Image.cutStream none
    (p := fun _ => true) (by decide) (by decide +kernel)
  obtain ⟨hlong, header, hheader⟩ := Image.exists_header_of_ofBuffer himage begin
  have hfits : (Quantity.whole 536870912).isBelow Image.cutStream.size = false := by decide
  have hbase := LoadSettings.integer_baseOver (s := (baseSession address).loadSettings) rfl 8192
  obtain ⟨machine, hload⟩ := LoadSettings.load_of_wraps
    (LoadSettings.smallFile_wraps ⟨true, true⟩) hlong rfl rfl rfl hfits
    (hbase.trans (congrArg some hbegin.symm)) (hheader _)
  have hsize : (Quantity.whole 536870912).isBelow smallContainer.size = false := by
    decide +kernel
  refine ⟨_, hgives, hrequest, Session.start_usual _ rfl rfl, (read_aroundFile smallContainer).2,
    (LoadSettings.loadFile_of_fits rfl hsize).trans hload, rfl, ?_⟩
  dsimp only
  split <;> rfl

/-- The address 4096 is where the image begins, and the report says so. -/
theorem run_basedAt_smallContainer : ∃ loaded, LoadsSmall "0x1000" 4096 4096 loaded ∧
    (0 : Int) ≤ 4096 ∧ loaded.image.begin = 4096 ∧
      smallTask.Reports (aroundFile smallContainer) (baseSession 4096) 4096 := by
  obtain ⟨loaded, h⟩ : ∃ loaded, LoadsSmall "0x1000" 4096 4096 loaded :=
    exists_loadsSmall (by decide) ⟨_, rfl, by decide +kernel⟩ rfl
  obtain ⟨hle, hbased, hreports, _⟩ := run_basedAt (w := aroundFile smallContainer)
    Reader.splitting_callsBack h.gives h.request h.start h.task h.loads
  obtain ⟨c, first, _, _, hbegin⟩ := hbased.elf h.place.1
  rw [if_neg (by decide)] at hbegin
  rw [hbegin] at hreports
  exact ⟨loaded, h, hle, hbegin, hreports⟩

/-- The address zero is given, and the image begins at 8192. -/
theorem begin_ne_zero_smallContainer :
    ∃ loaded, LoadsSmall "0" 0 8192 loaded ∧ loaded.image.begin ≠ 0 := by
  obtain ⟨loaded, h⟩ : ∃ loaded, LoadsSmall "0" 0 8192 loaded :=
    exists_loadsSmall (by decide) ⟨_, rfl, by decide +kernel⟩ rfl
  refine ⟨loaded, h, ?_⟩
  rw [h.place.2]
  decide

end CommandLine

end OatImage
