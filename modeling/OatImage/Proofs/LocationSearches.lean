import OatImage.Proofs.ClassLookups
import OatImage.Proofs.Lookups
import OatImage.Proofs.SinglePass
import OatImage.Proofs.Utf8Strings

/-!
# Searches by location

A record is searched for by the bytes of its location, and a report shows the text of these
bytes. Where they are UTF-8 the text leads back to the record, so a lookup by the location that
a lookup reported gives the same report. A text with a lone surrogate has no UTF-8 form at all:
it is not the location of any record, and yet a search for it does not answer that there is none.
-/
namespace OatImage

open Decode

/-- What is caught depends on what a step comes to, not on its entries. -/
theorem Logged.outcome_caught_congr {α : Type} {x y : Logged α} (h : x.outcome = y.outcome) :
    x.caught.outcome = y.caught.outcome := by
  unfold caught
  rw [h]
  cases y.outcome with
  | ok a => rfl
  | error e =>
      by_cases he : e.isReportable = true
      · simp only [if_pos he]
      · simp only [if_neg he]

theorem CodePoint.exists_ofChar {c : CodePoint} (h : c.isSurrogate = false) :
    ∃ char, CodePoint.ofChar char = c := by
  have hvalid : c.val.isValidChar := by
    have hlt := c.isLt
    unfold isSurrogate at h
    unfold Nat.isValidChar
    simp only [Bool.and_eq_false_iff, decide_eq_false_iff_not] at h
    omega
  exact ⟨Char.ofNatAux c.val hvalid, rfl⟩

/-- The texts without surrogates are the strings. -/
theorem Text.isScalar_iff {t : Text} : t.isScalar = true ↔ ∃ s, t = Text.ofString s := by
  constructor
  · intro h
    induction t with
    | nil => exact ⟨"", rfl⟩
    | cons c t ih =>
        obtain ⟨hc, ht⟩ : (!c.isSurrogate) = true ∧ Text.isScalar t = true := by
          rwa [isScalar, List.all_cons, Bool.and_eq_true] at h
        obtain ⟨char, rfl⟩ := CodePoint.exists_ofChar (by simpa using hc)
        obtain ⟨s, rfl⟩ := ih ht
        refine ⟨String.ofList (char :: s.toList), ?_⟩
        rw [ofString, ofString, String.toList_ofList, List.map_cons]
  · rintro ⟨s, rfl⟩
    exact isScalar_ofString s

namespace Utf8

theorem encodeGeneral_ofString (s : String) :
    encodeGeneral (Text.ofString s) = s.toUTF8.toList := by
  rw [toList_toUTF8, encodeGeneral, Text.ofString, List.flatMap_map]
  exact congrArg s.toList.flatMap (funext utf8EncodeChar_eq).symm

theorem encode?_ofString (s : String) : encode? (Text.ofString s) = some s.toUTF8.toList := by
  rw [encode?, if_pos (Text.isScalar_ofString s), encodeGeneral_ofString]

/-- Bytes that are valid UTF-8 are the form of the text they are read as. -/
theorem toUTF8_decodeReplacing {bytes : List UInt8} (h : bytes.toByteArray.IsValidUTF8) :
    (decodeReplacing bytes).toUTF8.toList = bytes := by
  obtain ⟨chars, hchars⟩ := h
  have hbytes : bytes = chars.flatMap String.utf8EncodeChar := by
    have hdata := congrArg (fun b => b.data.toList) hchars
    rwa [List.utf8Encode, List.toList_data_toByteArray, List.toList_data_toByteArray] at hdata
  rw [toList_toUTF8, decodeReplacing, String.toList_ofList, hbytes, replacing_flatMap]

end Utf8

namespace Image

variable {image : Image} {descriptor : Text} {file : DexFile} {c : ResolvedClass}

theorem findDexFileNamed_ofString (s : String) :
    image.findDexFileNamed (Text.ofString s) = image.findDexFile s.toUTF8.toList := by
  rw [findDexFileNamed, Utf8.encode?_ofString]

/-- A text with a surrogate is refused before any record is read. -/
theorem findDexFileNamed_of_not_isScalar {location : Text} (h : location.isScalar = false) :
    image.findDexFileNamed location = Logged.fail .unencodable := by
  rw [findDexFileNamed, Utf8.encode?, h]
  rfl

theorem index_of_fileAt {k : Nat} (h : image.fileAt k = .ok file) : file.index = k := by
  obtain ⟨_, _, hfile⟩ := bind_eq_ok.mp h
  cases hfile
  rfl

/-- The records before one that decodes decode too. -/
theorem exists_chained_of_le {j k : Nat} {reached : Record × Int} (hjk : j ≤ k)
    (h : image.chained k = .ok reached) : ∃ before, image.chained j = .ok before := by
  induction hjk generalizing reached with
  | refl => exact ⟨reached, h⟩
  | step _ ih =>
      obtain ⟨before, hbefore, _⟩ := bind_eq_ok.mp h
      exact ih hbefore

/-- A dex file is the first one whose location has these bytes. -/
structure IsFirstAt (image : Image) (bytes : List UInt8) (file : DexFile) : Prop where
  inside : file.index < image.dexFileCount
  fileAt : image.fileAt file.index = .ok file
  location : file.record.location = bytes
  before : ∀ j < file.index, ∀ earlier, image.fileAt j = .ok earlier →
    earlier.record.location ≠ bytes

section
variable {files : List DexFile} {fault : Option DecodeFault}

theorem Reference.index_getElem (h : image.Reference files fault) {k : Nat}
    (hk : k < files.length) : files[k].index = k := index_of_fileAt (h.reached k hk)

/-- A record that decodes lies before the failure, if there is one. -/
theorem Reference.getElem?_of_fileAt (h : image.Reference files fault) {k : Nat}
    (hk : k < image.dexFileCount) (hfile : image.fileAt k = .ok file) : files[k]? = some file := by
  have hlt : k < files.length := by
    by_contra hge
    obtain ⟨e, he⟩ := h.exists_fault (by omega)
    obtain ⟨_, d, hd, _⟩ := h.stopped e he
    obtain ⟨⟨record, next⟩, hchained, _⟩ := bind_eq_ok.mp hfile
    obtain ⟨reached, hreached⟩ := exists_chained_of_le (Nat.le_of_not_lt hge) hchained
    cases hd.symm.trans hreached
  have hsame := (h.reached k hlt).symm.trans hfile
  rw [List.getElem?_eq_getElem hlt, Except.ok.inj hsame]

/-- The record that is taken from the directory is the one of the reference walk. -/
theorem Reference.fileAt_of_dexFile (h : image.Reference files fault) {k : Nat}
    (hk : k < image.dexFileCount) (hfile : (image.dexFile k).outcome = .ok file) :
    image.fileAt k = .ok file := by
  rcases Nat.lt_or_ge k files.length with hlt | hge
  · rw [h.taken hlt] at hfile
    cases hfile
    exact h.reached k hlt
  · obtain ⟨e, _, he⟩ := h.takenBehind hge hk
    cases he.symm.trans hfile

/-- What a search for bytes finds is the first dex file that has them. -/
theorem Reference.findDexFile_eq_some_iff (h : image.Reference files fault)
    (bytes : List UInt8) :
    (image.findDexFile bytes).outcome = .ok (some file) ↔ image.IsFirstAt bytes file := by
  rw [h.found]
  constructor
  · rintro ⟨k, hk, rfl, hlocation, hbefore⟩
    have hindex := h.index_getElem hk
    refine ⟨?_, ?_, hlocation, fun j hj earlier hearlier => ?_⟩
    · rw [hindex]
      exact Nat.lt_of_lt_of_le hk h.count
    · rw [hindex]
      exact h.reached k hk
    · rw [hindex] at hj
      cases (h.reached j (Nat.lt_trans hj hk)).symm.trans hearlier
      exact hbefore j hj
  · rintro ⟨hinside, hfile, hlocation, hbefore⟩
    obtain ⟨hk, hget⟩ := List.getElem?_eq_some_iff.mp (h.getElem?_of_fileAt hinside hfile)
    exact ⟨file.index, hk, hget, hget.symm ▸ hlocation,
      fun j hj => hbefore j hj _ (h.reached j (Nat.lt_trans hj hk))⟩

/-- A class that a search through the dex files finds is found in one of them. -/
theorem Reference.findClassFrom_eq_some (h : image.Reference files fault) (left k : Nat)
    (hleft : k + left ≤ image.dexFileCount)
    (hfound : (image.findClassFrom descriptor left k).outcome = .ok (some c)) :
    ∃ j < image.dexFileCount, ∃ file, image.fileAt j = .ok file ∧
      (image.findClassIn file descriptor).outcome = .ok (some c) := by
  induction left generalizing k with
  | zero => cases hfound
  | succ left ih =>
      rw [findClassFrom, Logged.outcome_bind] at hfound
      obtain ⟨file, hfile, hfound⟩ := bind_eq_ok.mp hfound
      rw [Logged.outcome_bind] at hfound
      obtain ⟨found, hin, hfound⟩ := bind_eq_ok.mp hfound
      cases found with
      | none => exact ih (k + 1) (by omega) hfound
      | some c' =>
          cases hfound
          exact ⟨k, by omega, file, h.fileAt_of_dexFile (by omega) hfile, hin⟩

end

/-- A class that is found in a dex file belongs to it. -/
theorem file_of_findClassIn (h : (image.findClassIn file descriptor).outcome = .ok (some c)) :
    c.file = file := by
  rw [findClassIn, Logged.outcome_bind] at h
  obtain ⟨found, _, h⟩ := bind_eq_ok.mp h
  cases found with
  | none => cases h
  | some definition =>
      rw [Logged.outcome_map, resolve, Logged.outcome_reporting] at h
      cases hrecord : image.classRecord file definition.index with
      | ok record =>
          rw [hrecord] at h
          cases h
          rfl
      | error e =>
          rw [hrecord] at h
          cases h

/-- The class of a search through all dex files is found where it was. -/
theorem Reference.findClassIn_of_findClass {files : List DexFile} {fault : Option DecodeFault}
    (h : image.Reference files fault)
    (hfound : (image.findClass descriptor).outcome = .ok (some c)) :
    c.file.index < image.dexFileCount ∧ image.fileAt c.file.index = .ok c.file ∧
      (image.findClassIn c.file descriptor).outcome = .ok (some c) := by
  obtain ⟨k, hk, file, hfile, hin⟩ :=
    h.findClassFrom_eq_some image.dexFileCount 0 (Nat.le_of_eq (Nat.zero_add _)) hfound
  obtain rfl := file_of_findClassIn hin
  obtain rfl := index_of_fileAt hfile
  exact ⟨hk, hfile, hin⟩

/-- The class is found again in the first dex file at a location. -/
theorem findClassFor_of_isFirstAt {files : List DexFile} {fault : Option DecodeFault}
    (h : image.Reference files fault) {location : String}
    (hfirst : image.IsFirstAt location.toUTF8.toList file) :
    (image.findClassFor descriptor (some (Text.ofString location))).outcome =
      (image.findClassIn file descriptor).outcome := by
  rw [findClassFor, Logged.outcome_bind, findDexFileNamed_ofString,
    (h.findDexFile_eq_some_iff _).mpr hfirst]
  rfl

/-- Lookups whose searches for the class come to the same have the same outcome. -/
theorem outcome_resolveMethod_congr {location location' : Option Text}
    (hclass : (image.findClassFor descriptor location).outcome =
      (image.findClassFor descriptor location').outcome) (name signature : Text) :
    (image.resolveMethod descriptor name signature location).outcome =
      (image.resolveMethod descriptor name signature location').outcome := by
  unfold resolveMethod
  cases image.header.isValid with
  | false => rfl
  | true =>
      simp only [Bool.not_true, Bool.false_eq_true, if_false, Logged.outcome_during]
      rw [resolveAnyway, resolveAnyway, Logged.outcome_bind, Logged.outcome_bind,
        Logged.outcome_caught_congr hclass]

/-- A module without class definitions. -/
def emptyModule : List UInt8 :=
  Dex.magicBytes ++ [0x30, 0x33, 0x35, 0] ++ List.replicate 24 0 ++
    wordBytes [112, 112, Dex.endianTag] ++ List.replicate 12 0 ++
    wordBytes (List.replicate 12 0) ++ List.replicate 8 0

/-- An image with that module at one location, and at another one a module with a class. -/
def twoLocationsImage : List UInt8 :=
  (plainHeader 2).encode ++ Record.encode [0x62] 0 106 [] ++
    Record.encode [0x61] 0 218 [382, 382] ++ emptyModule ++ twiceModule ++
    ClassRecord.encode (-2) .none []

end Image

namespace Lookup

variable {begin stop : Option Int} {memory : Option ByteArray} {asked : Option InstructionSet}
  {image : Image}

/-- The location that a lookup in all dex files reports leads to the same report, if it is valid
UTF-8 and no earlier record has it. -/
theorem runOn_of_reported (h : Image.setup begin stop memory asked = .ok image)
    {descriptor : String} {c : ResolvedClass} (hclass : image.FindsClass descriptor none c)
    (hutf8 : c.file.record.location.toByteArray.IsValidUTF8)
    (hbefore : ∀ j < c.file.index, ∀ earlier, image.fileAt j = .ok earlier →
      earlier.record.location ≠ c.file.record.location)
    (name signature : String) (logger logger' : Log.Logger) (times times' : Nat → Log.Instant) :
    image.fileAt c.file.index = .ok c.file ∧ ∃ l reported,
      (runOn logger times image descriptor name signature none).1 = .ok l ∧
      l.location = some reported ∧
      (runOn logger' times' image descriptor name signature
        (some (Text.ofString reported))).1 = .ok l := by
  obtain ⟨⟨files, fault, href⟩, _⟩ := Image.directory_agrees h
  obtain ⟨hinside, hfile, hin⟩ := href.findClassIn_of_findClass hclass.2
  have hlocation : c.file.location.toUTF8.toList = c.file.record.location :=
    Utf8.toUTF8_decodeReplacing hutf8
  have hfirst : image.IsFirstAt c.file.location.toUTF8.toList c.file := by
    rw [hlocation]
    exact ⟨hinside, hfile, rfl, hbefore⟩
  have hsame : (image.findClassFor descriptor (some (Text.ofString c.file.location))).outcome =
      (image.findClassFor descriptor none).outcome := by
    rw [Image.findClassFor_of_isFirstAt href hfirst, hin, hclass.2]
  obtain ⟨l, hl, hreport, _⟩ := runOn_isReport h descriptor name signature none logger times
  refine ⟨hfile, l, c.file.location, hl, (hreport.hasClass c hclass).1, ?_⟩
  rw [← hl, runOn_outcome, runOn_outcome, run, run, Logged.outcome_bind, Logged.outcome_bind]
  exact congrArg (· >>= _) (Image.outcome_resolveMethod_congr hsame name signature)

theorem runOn_of_reported_twoLocationsImage :
    ∃ image c, Image.setup (some 4096) (some 4482) (some ⟨Image.twoLocationsImage.toArray⟩) none =
        .ok image ∧ image.FindsClass "LA;" none c ∧ c.file.index = 1 ∧
      ∀ (logger logger' : Log.Logger) (times times' : Nat → Log.Instant),
        image.fileAt c.file.index = .ok c.file ∧ ∃ l reported,
        (runOn logger times image "LA;" "f" "()V" none).1 = .ok l ∧ l.location = some reported ∧
        (runOn logger' times' image "LA;" "f" "()V" (some (Text.ofString reported))).1 = .ok l := by
  obtain ⟨image, h, hread⟩ := Image.exists_setup_of_any 4096 4482
    ⟨Image.twoLocationsImage.toArray⟩ none
    (p := fun image => image.header.isValid && image.dexFileCount = 2 &&
      Dex.Module.LiesAt image.region 4202 Image.emptyModule &&
      Dex.Module.LiesAt image.region 4314 Image.twiceModule &&
      ((image.fileAt 0).toOption.any fun file =>
        file.record.location = [0x62] && file.record.dexPointer = 4202) &&
      (image.fileAt 1).toOption.any fun file => file.index = 1 &&
        file.record.location = [0x61] && file.record.dexPointer = 4314 &&
          (image.classRecord file 0).toOption.any fun _ => true)
    (by decide) (by decide +kernel) (by decide +kernel)
  simp only [Bool.and_eq_true, decide_eq_true_eq] at hread
  obtain ⟨⟨⟨⟨⟨hvalid, hcount⟩, hempty⟩, htwice⟩, hfirst⟩, hsecond⟩ := hread
  obtain ⟨first, hfirst, hread⟩ := exists_of_any hfirst
  simp only [Bool.and_eq_true, decide_eq_true_eq] at hread
  obtain ⟨hother, hpointer⟩ := hread
  obtain ⟨file, hfile, hread⟩ := exists_of_any hsecond
  simp only [Bool.and_eq_true, decide_eq_true_eq] at hread
  obtain ⟨⟨⟨hindex, hlocation⟩, hpointer'⟩, hrecord⟩ := hread
  obtain ⟨record, hrecord, _⟩ := exists_of_any hrecord
  obtain ⟨m, hload, _, hnone⟩ := hempty.exists_load
    (p := fun m => decide (m.locate (Text.ofString "LA;") = .ok none)) (by decide +kernel)
  obtain ⟨m', hload', _, hread'⟩ := htwice.exists_load
    (p := fun m => Image.ReadsTwice m) (by decide +kernel)
  obtain ⟨_, hlocate, _⟩ := of_decide_eq_true hread'
  -- the first dex file does not define the class, so the second one decides the search
  have hlacks : image.Lacks (Text.ofString "LA;") 1 := by
    intro j hj
    obtain rfl : j = 0 := by omega
    have hm : first.module image = .ok m := by rw [DexFile.module, hpointer, hload]
    exact ⟨first, hfirst, Image.outcome_findClassIn_of_absent hm (of_decide_eq_true hnone)⟩
  have hm' : file.module image = .ok m' := by rw [DexFile.module, hpointer', hload']
  have hin := Image.outcome_findClassIn_of_located hm' hlocate hrecord
  have hfound : (image.findClass (Text.ofString "LA;")).outcome =
      .ok (some ⟨file, Image.twiceClass, record⟩) := by
    rw [Image.findClass_of_decided (by omega) hlacks hfile (by rw [hin]; nofun), hin]
  have hutf8 : file.record.location.toByteArray.IsValidUTF8 := by
    rw [hlocation]
    exact ⟨['a'], rfl⟩
  refine ⟨image, _, h, ⟨hvalid, hfound⟩, hindex, fun logger logger' times times' =>
    runOn_of_reported h ⟨hvalid, hfound⟩ hutf8 (fun j hj earlier hearlier => ?_) "f" "()V" logger
      logger' times times'⟩
  -- the record at the other location is the only earlier one
  obtain rfl : j = 0 := Nat.lt_one_iff.mp (hindex ▸ hj)
  cases hfirst.symm.trans hearlier
  rw [hother, hlocation]
  decide

end Lookup

namespace Image

variable {image : Image}

/-- An image whose declared records all decode. -/
def Decodes (image : Image) : Prop := ∀ k < image.dexFileCount, ∃ file, image.fileAt k = .ok file

theorem Reference.fault_eq_none {files : List DexFile} {fault : Option DecodeFault}
    (h : image.Reference files fault) (hall : image.Decodes) : fault = none := by
  cases hfault : fault with
  | none => rfl
  | some e =>
      obtain ⟨hlt, d, hd, _⟩ := h.stopped e hfault
      obtain ⟨file, hfile⟩ := hall files.length hlt
      obtain ⟨_, hchained, _⟩ := bind_eq_ok.mp hfile
      cases hd.symm.trans hchained

/-- What a search for a string comes to: the first dex file whose location is its UTF-8 form, or
that there is none. -/
structure AnswersString (image : Image) (s : String) : Prop where
  answers : ∃ found, (image.findDexFileNamed (Text.ofString s)).outcome = .ok found
  found : ∀ file, (image.findDexFileNamed (Text.ofString s)).outcome = .ok (some file) ↔
    image.IsFirstAt s.toUTF8.toList file
  absent : (image.findDexFileNamed (Text.ofString s)).outcome = .ok none ↔
    ∀ k < image.dexFileCount, ∀ file, image.fileAt k = .ok file →
      file.record.location ≠ s.toUTF8.toList
  lookups : ∀ (descriptor name signature : String) (logger : Log.Logger)
    (times : Nat → Log.Instant), ∃ l,
    (Lookup.runOn logger times image descriptor name signature
      (some (Text.ofString s))).1 = .ok l

/-- A text is refused: the search for it fails, and so does every lookup with it that reads the
directory. -/
structure Refuses (image : Image) (location : Text) : Prop where
  fails : (image.findDexFileNamed location).outcome = .error .unencodable
  lookups : ∀ (descriptor name signature : String) (logger : Log.Logger)
    (times : Nat → Log.Instant),
    if image.header.isValid then
      (Lookup.runOn logger times image descriptor name signature (some location)).1 =
        .error .unencodable
    else ∃ l,
      (Lookup.runOn logger times image descriptor name signature (some location)).1 = .ok l

theorem Reference.answersString {files : List DexFile} (h : image.Reference files none)
    {begin stop : Option Int} {memory : Option ByteArray} {asked : Option InstructionSet}
    (hsetup : setup begin stop memory asked = .ok image) (s : String) :
    image.AnswersString s where
  answers := by
    rw [findDexFileNamed_ofString, h.find]
    cases files.find? fun file => file.record.location = s.toUTF8.toList with
    | some file => exact ⟨some file, rfl⟩
    | none => exact ⟨none, rfl⟩
  found file := by
    rw [findDexFileNamed_ofString]
    exact h.findDexFile_eq_some_iff _
  absent := by
    have hcount : files.length = image.dexFileCount := h.complete rfl
    rw [findDexFileNamed_ofString, h.absent, and_iff_left rfl, ← hcount]
    constructor
    · intro hnone k hk file hfile
      cases (h.reached k hk).symm.trans hfile
      exact hnone _ (List.getElem_mem hk)
    · intro hnone file hfile
      obtain ⟨k, hk, rfl⟩ := List.getElem_of_mem hfile
      exact hnone k hk _ (h.reached k hk)
  lookups descriptor name signature logger times := by
    obtain ⟨l, hl, _⟩ :=
      Lookup.runOn_isReport hsetup descriptor name signature (some s) logger times
    exact ⟨l, hl⟩

/-- The failure is none that a report shows, so it ends every lookup that reads the directory. -/
theorem refuses_of_not_isScalar {location : Text} (h : location.isScalar = false) :
    image.Refuses location where
  fails := by rw [findDexFileNamed_of_not_isScalar h, Logged.outcome_fail]
  lookups descriptor name signature logger times := by
    rw [Lookup.runOn_outcome, Lookup.run, Logged.outcome_bind, resolveMethod]
    cases image.header.isValid with
    | false => exact ⟨_, rfl⟩
    | true =>
        have hclass : image.findClassFor descriptor (some location) = Logged.fail .unencodable := by
          rw [findClassFor, findDexFileNamed_of_not_isScalar h]
          rfl
        rw [resolveAnyway, hclass]
        rfl

/-- Where all records decode, a search for a string ends with a dex file or without one. A text
that is no string is at no location either, and yet the search for it fails. -/
theorem answersString_or_refuses {begin stop : Option Int} {memory : Option ByteArray}
    {asked : Option InstructionSet} (h : setup begin stop memory asked = .ok image)
    (hall : image.Decodes) (location : Text) :
    (∃ s, location = Text.ofString s ∧ image.AnswersString s) ∨
      (location.isScalar = false ∧ image.Refuses location) := by
  obtain ⟨⟨files, fault, href⟩, _⟩ := directory_agrees h
  obtain rfl := href.fault_eq_none hall
  cases hscalar : location.isScalar with
  | true =>
      obtain ⟨s, rfl⟩ := Text.isScalar_iff.mp hscalar
      exact .inl ⟨s, rfl, href.answersString h s⟩
  | false => exact .inr ⟨rfl, refuses_of_not_isScalar hscalar⟩

theorem answersString_or_refuses_twoLocationsImage :
    ∃ image, setup (some 4096) (some 4482) (some ⟨twoLocationsImage.toArray⟩) none =
        .ok image ∧ image.Decodes ∧ image.header.isValid = true ∧
      ∀ location, (∃ s, location = Text.ofString s ∧ image.AnswersString s) ∨
        (location.isScalar = false ∧ image.Refuses location) := by
  obtain ⟨image, h, hread⟩ := exists_setup_of_any 4096 4482 ⟨twoLocationsImage.toArray⟩ none
    (p := fun image => image.header.isValid && image.dexFileCount = 2 &&
      (List.range 2).all fun k => (image.fileAt k).toOption.any fun _ => true)
    (by decide) (by decide +kernel) (by decide +kernel)
  simp only [Bool.and_eq_true, decide_eq_true_eq] at hread
  obtain ⟨⟨hvalid, hcount⟩, hread⟩ := hread
  have hall : image.Decodes := by
    intro k hk
    rw [hcount] at hk
    obtain ⟨file, hfile, _⟩ := exists_of_any (List.all_eq_true.mp hread k (List.mem_range.mpr hk))
    exact ⟨file, hfile⟩
  exact ⟨image, h, hall, hvalid, answersString_or_refuses h hall⟩

end Image

end OatImage
