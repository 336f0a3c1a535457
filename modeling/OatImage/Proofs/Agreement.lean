import OatImage.Proofs.ImageFaults
import OatImage.Proofs.Walks
import Mathlib.Data.List.Basic
import Mathlib.Tactic.ByContra
import Mathlib.Tactic.Choose

/-!
# The directory and its reference walk

A reference is a list of dex files with a failure or none: what one walk from the start of
the stream reaches, and why it stops. For an image that was set up there is one, and each
operation on the directory is read off it.
-/
namespace OatImage.Image

open Decode

/-- What the reference walk comes to: the dex files that it reaches, and the failure at
which it stops short of the number in the header. That failure is the one of the record,
together with the position of the record. -/
structure Reference (image : Image) (files : List DexFile) (fault : Option DecodeFault) :
    Prop where
  count : files.length ≤ image.dexFileCount
  reached : ∀ k (hk : k < files.length), image.fileAt k = .ok files[k]
  complete : fault = none → files.length = image.dexFileCount
  stopped : ∀ e, fault = some e → files.length < image.dexFileCount ∧
    ∃ d, image.chained files.length = .error (.decode d) ∧ d.index = none ∧
      e = { d with index := some (files.length : Int) }

/-- The operations on the directory answer what a reference says. -/
structure Agrees (image : Image) (files : List DexFile) (fault : Option DecodeFault) :
    Prop where
  /-- A walk to the end yields the files and ends with the failure, if there is one. -/
  walked : image.dexFiles.files = files ∧ image.dexFiles.failure = fault.map .decode
  /-- A walk record by record yields the files, then the failure, and nothing afterwards. -/
  pulled : ∀ k (hk : k < files.length), image.pull k = .ok (some files[k])
  pulledNext : image.pull files.length = ending (fault.map .decode)
  pulledAfter : ∀ k, files.length < k → image.pull k = .ok none
  /-- The record with an index is the file there, or the failure before it. -/
  taken : ∀ k (hk : k < files.length), (image.dexFile k).outcome = .ok files[k]
  takenBehind : ∀ k : Nat, files.length ≤ k → k < image.dexFileCount →
    ∃ e, fault = some e ∧ (image.dexFile k).outcome = .error (.decode e)
  outside : ∀ i : Int, (∃ index count, (image.dexFile i).outcome =
    .error (.noDexFile index count)) ↔ i < 0 ∨ image.dexFileCount ≤ i
  /-- A search finds the first file with the location. Without one it finds nothing if the
  walk is complete, and fails with the failure of the walk if it is not. -/
  found : ∀ location file, (image.findDexFile location).outcome = .ok (some file) ↔
    ∃ k, ∃ hk : k < files.length, files[k] = file ∧ files[k].record.location = location ∧
      ∀ j (hj : j < k), files[j].record.location ≠ location
  absent : ∀ location, (image.findDexFile location).outcome = .ok none ↔
    (∀ file ∈ files, file.record.location ≠ location) ∧ fault = none
  undecided : ∀ location e, (image.findDexFile location).outcome = .error e ↔
    (∀ file ∈ files, file.record.location ≠ location) ∧ fault.map .decode = some e

variable {image : Image} {files : List DexFile} {fault : Option DecodeFault}

theorem Reference.stopsAt (h : image.Reference files fault) : image.StopsAt files.length := by
  refine ⟨h.count, fun k hk => ?_, fun hlt => ?_⟩
  · obtain ⟨⟨record, next⟩, hc, _⟩ := bind_eq_ok.mp (h.reached k hk)
    exact ⟨record, next, hc⟩
  · cases fault with
    | none => exact absurd (h.complete rfl) (Nat.ne_of_lt hlt)
    | some e =>
        obtain ⟨_, d, hd, _, _⟩ := h.stopped e rfl
        exact ⟨_, hd⟩

/-- The failure of a reference, as the walks report it. -/
theorem Reference.fault_eq {e : DecodeFault} (h : image.Reference files fault)
    (he : fault = some e) : ∃ e', image.chained files.length = .error e' ∧
      e'.withContext (some files.length) none none = .decode e := by
  obtain ⟨_, d, hd, hnone, rfl⟩ := h.stopped e he
  refine ⟨_, hd, ?_⟩
  simp only [Fault.withContext, DecodeFault.withContext, hnone, Option.none_or, Option.or_none]

theorem Reference.exists_fault (h : image.Reference files fault)
    (hlt : files.length < image.dexFileCount) : ∃ e, fault = some e := by
  cases fault with
  | none => exact absurd (h.complete rfl) (Nat.ne_of_lt hlt)
  | some e => exact ⟨e, rfl⟩

/-- Where the reference walk stops there is a reference, as a record fails in decoding
and without a position. -/
theorem StopsAt.exists_reference {f : Nat} (hr : image.region.Backed) (hf : image.StopsAt f) :
    ∃ files fault, image.Reference files fault := by
  have hfiles : ∀ k : Fin f, ∃ file, image.fileAt k = .ok file := by
    intro k
    obtain ⟨record, next, h⟩ := hf.decodes k k.isLt
    exact ⟨_, fileAt_of_chained h⟩
  choose file hfile using hfiles
  have hlen : (List.ofFn file).length = f := List.length_ofFn
  have hcount : (List.ofFn file).length ≤ image.dexFileCount := by
    rw [hlen]
    exact hf.le
  have hreached : ∀ k (hk : k < (List.ofFn file).length),
      image.fileAt k = .ok (List.ofFn file)[k] := by
    intro k hk
    rw [List.getElem_ofFn]
    exact hfile ⟨k, hlen ▸ hk⟩
  rcases Nat.lt_or_eq_of_le hf.le with hlt | heq
  · obtain ⟨e, he⟩ := hf.fails hlt
    obtain ⟨cursor, hc⟩ := hf.cursorAt (Nat.le_refl f)
    have hlocal := decodeNext_failsOnly hr cursor e (chained_of_cursorAt hc ▸ he)
    obtain ⟨d, rfl, hnone, _, _⟩ := hlocal
    refine ⟨List.ofFn file, some { d with index := some (f : Int) }, hcount, hreached,
      fun hnone => (nomatch hnone), fun e' he' => ?_⟩
    cases he'
    rw [hlen]
    exact ⟨hlt, d, he, hnone, rfl⟩
  · exact ⟨List.ofFn file, none, hcount, hreached, fun _ => hlen.trans heq,
      fun e he => (nomatch he)⟩

/-- The files of a reference are the values of the reference walk, position by position. -/
theorem Reference.map_ok (h : image.Reference files fault) :
    files.map Except.ok = (List.range files.length).map image.fileAt := by
  refine List.ext_getElem ?_ fun k hk _ => ?_
  · rw [List.length_map, List.length_map, List.length_range]
  · rw [List.length_map] at hk
    rw [List.getElem_map, List.getElem_map, List.getElem_range, h.reached k hk]

theorem Reference.walked (h : image.Reference files fault) :
    image.dexFiles.files = files ∧ image.dexFiles.failure = fault.map .decode := by
  obtain ⟨hfiles, hend, hfail⟩ := h.stopsAt.walkFrom image.dexFileCount rfl (Nat.zero_le _)
    (Nat.zero_add _)
  rw [Nat.sub_zero, ← List.range_eq_range', ← h.map_ok] at hfiles
  refine ⟨List.map_injective_iff.mpr (fun _ _ he => Except.ok.inj he) hfiles, ?_⟩
  cases hfault : fault with
  | none => exact hend (h.complete hfault)
  | some e =>
      obtain ⟨e', he', heq⟩ := h.fault_eq hfault
      exact (hfail e' (h.stopped e hfault).1 he').trans (congrArg some heq)

theorem Reference.pulledNext (h : image.Reference files fault) :
    image.pull files.length = ending (fault.map .decode) := by
  cases hfault : fault with
  | none => exact h.stopsAt.pull_end (.inr ⟨rfl, h.complete hfault⟩)
  | some e =>
      obtain ⟨e', he', heq⟩ := h.fault_eq hfault
      exact (h.stopsAt.pull_fault (h.stopped e hfault).1 he').trans (congrArg _ heq)

/-- Within the range the record with an index is taken from the walk. -/
theorem dexFile_of_lt {k : Nat} (hk : k < image.dexFileCount) :
    image.dexFile k = image.takeAfter k image.walk := by
  have hin : ¬ ((k : Int) < 0 ∨ (image.dexFileCount : Int) ≤ k) := by omega
  rw [dexFile, if_neg hin, Int.toNat_natCast]

theorem Reference.taken (h : image.Reference files fault) {k : Nat} (hk : k < files.length) :
    (image.dexFile k).outcome = .ok files[k] := by
  rw [dexFile_of_lt (Nat.lt_of_lt_of_le hk h.count), ← h.reached k hk]
  have htake := h.stopsAt.takeAfter_file (k := 0) k rfl (by omega)
  rw [Nat.zero_add] at htake
  exact htake

theorem Reference.takenBehind (h : image.Reference files fault) {k : Nat}
    (hk : files.length ≤ k) (hn : k < image.dexFileCount) :
    ∃ e, fault = some e ∧ (image.dexFile k).outcome = .error (.decode e) := by
  obtain ⟨e, he⟩ := h.exists_fault (Nat.lt_of_le_of_lt hk hn)
  obtain ⟨e', he', heq⟩ := h.fault_eq he
  refine ⟨e, he, ?_⟩
  rw [dexFile_of_lt hn, ← heq]
  exact h.stopsAt.takeAfter_fault k rfl (Nat.zero_le _) (by omega) (h.stopped e he).1 he'

/-- An index is refused exactly if it is out of range. -/
theorem Reference.outside (h : image.Reference files fault) (i : Int) :
    (∃ index count, (image.dexFile i).outcome = .error (.noDexFile index count)) ↔
      i < 0 ∨ image.dexFileCount ≤ i := by
  constructor
  · rintro ⟨index, count, hi⟩
    by_contra hin
    obtain ⟨k, rfl⟩ := Int.eq_ofNat_of_zero_le (by omega : 0 ≤ i)
    rcases Nat.lt_or_ge k files.length with hk | hk
    · rw [h.taken hk] at hi
      cases hi
    · obtain ⟨e, _, he⟩ := h.takenBehind hk (by omega)
      rw [he] at hi
      cases hi
  · intro hi
    exact ⟨i, image.dexFileCount, by rw [dexFile, if_pos hi]; rfl⟩

/-- A search is a search in the files of the reference. -/
theorem Reference.find (h : image.Reference files fault) (location : List UInt8) :
    (image.findDexFile location).outcome =
      match files.find? fun file => file.record.location = location with
      | some file => .ok (some file)
      | none => ending (fault.map .decode) := by
  obtain ⟨hfiles, hfailure⟩ := h.walked
  rw [← hfiles, ← hfailure]
  exact findFrom_eq_find location image.dexFileCount

theorem Reference.found (h : image.Reference files fault) (location : List UInt8)
    (file : DexFile) : (image.findDexFile location).outcome = .ok (some file) ↔
      ∃ k, ∃ hk : k < files.length, files[k] = file ∧ files[k].record.location = location ∧
        ∀ j (hj : j < k), files[j].record.location ≠ location := by
  have hfirst : (image.findDexFile location).outcome = .ok (some file) ↔
      (files.find? fun file => file.record.location = location) = some file := by
    rw [h.find]
    cases files.find? fun file => file.record.location = location with
    | some first => exact ⟨fun he => Except.ok.inj he, congrArg Except.ok⟩
    | none =>
        cases fault with
        | none => exact ⟨fun he => (nomatch he), fun he => (nomatch he)⟩
        | some e => exact ⟨fun he => (nomatch he), fun he => (nomatch he)⟩
  rw [hfirst, List.find?_eq_some_iff_getElem]
  constructor
  · rintro ⟨hloc, k, hk, rfl, hleast⟩
    exact ⟨k, hk, rfl, of_decide_eq_true hloc, fun j hj => by simpa using hleast j hj⟩
  · rintro ⟨k, hk, rfl, hloc, hleast⟩
    exact ⟨decide_eq_true hloc, k, hk, rfl, fun j hj => by simpa using hleast j hj⟩

/-- Without a file at the location a search ends as the walk does. -/
theorem Reference.find_of_absent (h : image.Reference files fault) {location : List UInt8}
    (habsent : ∀ file ∈ files, file.record.location ≠ location) :
    (image.findDexFile location).outcome = ending (fault.map .decode) := by
  have hnone : (files.find? fun file => file.record.location = location) = none :=
    List.find?_eq_none.mpr fun file hfile => by simpa using habsent file hfile
  rw [h.find, hnone]

/-- A search that does not end with a file has met none at the location. -/
theorem Reference.absent_of_find (h : image.Reference files fault) {location : List UInt8}
    (hfind : ∀ file, (image.findDexFile location).outcome ≠ .ok (some file)) :
    ∀ file ∈ files, file.record.location ≠ location := by
  have hnone : (files.find? fun file => file.record.location = location) = none := by
    cases hfirst : files.find? fun file => file.record.location = location with
    | none => rfl
    | some file => exact absurd (by rw [h.find, hfirst]) (hfind file)
  intro file hfile
  simpa using List.find?_eq_none.mp hnone file hfile

theorem Reference.absent (h : image.Reference files fault) (location : List UInt8) :
    (image.findDexFile location).outcome = .ok none ↔
      (∀ file ∈ files, file.record.location ≠ location) ∧ fault = none := by
  constructor
  · intro hnone
    have habsent := h.absent_of_find fun file hfile => by rw [hnone] at hfile; cases hfile
    refine ⟨habsent, ?_⟩
    rw [h.find_of_absent habsent] at hnone
    cases fault with
    | none => rfl
    | some e => cases hnone
  · rintro ⟨habsent, rfl⟩
    exact h.find_of_absent habsent

theorem Reference.undecided (h : image.Reference files fault) (location : List UInt8)
    (e : Fault) : (image.findDexFile location).outcome = .error e ↔
      (∀ file ∈ files, file.record.location ≠ location) ∧ fault.map .decode = some e := by
  constructor
  · intro herror
    have habsent := h.absent_of_find fun file hfile => by rw [herror] at hfile; cases hfile
    refine ⟨habsent, ?_⟩
    rw [h.find_of_absent habsent] at herror
    cases fault with
    | none => cases herror
    | some d =>
        cases herror
        rfl
  · rintro ⟨habsent, hfault⟩
    rw [h.find_of_absent habsent, hfault]
    rfl

theorem Reference.agrees (h : image.Reference files fault) : image.Agrees files fault where
  walked := h.walked
  pulled k hk := by
    rw [h.stopsAt.pull_file hk, h.reached k hk]
    rfl
  pulledNext := h.pulledNext
  pulledAfter k hk := h.stopsAt.pull_end (.inl hk)
  taken k hk := h.taken hk
  takenBehind k hk hn := h.takenBehind hk hn
  outside := h.outside
  found := h.found
  absent := h.absent
  undecided := h.undecided

/-- A header that declares two dex files, before a stream that ends within the first record. -/
def cutStream : ByteArray :=
  let header : Header :=
    { address := 0, magic := Header.magicBytes, version := Header.version064, checksum := 0
      instructionSetCode := 1, features := 0, dexFileCount := 2, executableOffset := 0
      trampolines := List.replicate 7 0, imagePatchDelta := 0, imageChecksum := 0
      imageDataBegin := 0, keyValueStoreSize := 0 }
  ⟨(header.encode ++ toBytesLE 4 9).toArray⟩

theorem setup_cutStream :
    ∃ image, setup (some 4096) (some 4172) (some cutStream) none = .ok image := ⟨_, rfl⟩

/-- For an image that was set up there is a reference, and every operation on the directory
answers what it says. -/
theorem directory_agrees {begin stop : Option Int} {memory : Option ByteArray}
    {asked : Option InstructionSet} (h : setup begin stop memory asked = .ok image) :
    (∃ files fault, image.Reference files fault) ∧
      ∀ files fault, image.Reference files fault → image.Agrees files fault := by
  obtain ⟨f, hf⟩ := image.exists_stopsAt
  exact ⟨hf.exists_reference (backed_of_setup h), fun _ _ href => href.agrees⟩

/-- A header that declares two dex files. The module of the first one stands in the store, and
behind its record the stream ends within the second one. -/
def cutDirectory : ByteArray :=
  let header : Header :=
    { address := 0, magic := Header.magicBytes, version := Header.version064, checksum := 0
      instructionSetCode := 1, features := 0, dexFileCount := 2, executableOffset := 0
      trampolines := List.replicate 7 0, imagePatchDelta := 0, imageChecksum := 0
      imageDataBegin := 0, keyValueStoreSize := 112 }
  let module := Dex.magicBytes ++ [0x30, 0x33, 0x35, 0] ++ List.replicate 104 0
  ⟨(header.encode ++ module ++ Record.encode [0x62] 0 72 [] ++ toBytesLE 4 9).toArray⟩

/-- The first record decodes and the second one does not. -/
structure IsCutDirectory (image : Image) : Prop where
  setup : setup (some 4096) (some 4297) (some cutDirectory) none = .ok image
  valid : image.header.isValid = true
  count : image.dexFileCount = 2
  first : ∃ reached, image.chained 0 = .ok reached
  second : ∃ e, image.chained 1 = .error e

theorem exists_isCutDirectory : ∃ image : Image, image.IsCutDirectory := by
  obtain ⟨image, hsetup, hread⟩ := exists_setup_of_any 4096 4297 cutDirectory none
    (p := fun image => image.header.isValid && image.dexFileCount == 2 &&
      (image.chained 0).toOption.isSome && (image.chained 1).toOption.isNone)
    (by decide) (by decide +kernel) (by decide +kernel)
  simp only [Bool.and_eq_true, beq_iff_eq] at hread
  obtain ⟨⟨⟨hvalid, hcount⟩, hfirst⟩, hsecond⟩ := hread
  refine ⟨image, hsetup, hvalid, hcount, ?_, ?_⟩
  · cases hchained : image.chained 0 with
    | ok reached => exact ⟨reached, rfl⟩
    | error e =>
        rw [hchained] at hfirst
        cases hfirst
  · cases hchained : image.chained 1 with
    | ok reached =>
        rw [hchained] at hsecond
        cases hsecond
    | error e => exact ⟨e, rfl⟩

/-- A walk stops behind the first record. -/
theorem IsCutDirectory.stopsAt_eq {n : Nat} (h : image.IsCutDirectory) (hn : image.StopsAt n) :
    n = 1 := by
  obtain ⟨hle, hread, hstopped⟩ := hn
  obtain ⟨reached, hfirst⟩ := h.first
  obtain ⟨e, hsecond⟩ := h.second
  rw [h.count] at hle hstopped
  match n with
  | 0 =>
      obtain ⟨e, he⟩ := hstopped (by decide)
      cases hfirst.symm.trans he
  | 1 => rfl
  | 2 =>
      obtain ⟨record, next, hok⟩ := hread 1 (by decide)
      cases hsecond.symm.trans hok
  | n + 3 => omega

/-- One dex file is found before the failure. -/
theorem directory_agrees_cutDirectory : ∃ image file e,
    setup (some 4096) (some 4297) (some cutDirectory) none = .ok image ∧
      image.Reference [file] (some e) ∧
        ∀ files fault, image.Reference files fault → image.Agrees files fault := by
  obtain ⟨image, h⟩ := exists_isCutDirectory
  obtain ⟨⟨files, fault, href⟩, hagrees⟩ := directory_agrees h.setup
  have hone := h.stopsAt_eq href.stopsAt
  obtain ⟨file, rfl⟩ := List.length_eq_one_iff.mp hone
  cases fault with
  | none =>
      have hcount := href.complete rfl
      rw [hone, h.count] at hcount
      cases hcount
  | some e => exact ⟨image, file, e, h.setup, href, hagrees⟩

end OatImage.Image
