import OatImage.ResolvedMethod
import OatImage.Proofs.Agreement
import OatImage.Proofs.RecordReading

/-!
# Searches in an image of known content

In an image that content was laid out in, every search answers with what the content says:
the directory with the dex files, the search for a class with the first one of the descriptor,
and the search for a method with its position and its code. None of them fails.
-/
namespace OatImage

open Decode Layout
open Content hiding Class

namespace Image

variable {image : Image}

/-! The directory. -/

/-- The record with a position decodes to that of the file there. -/
theorem chained_of_recordsAt (hr : image.region.Backed) {files : List File} {o k : Nat}
    (h : RecordsAt image.region.contents o files)
    (hc : image.cursorAt k = .ok (image.begin + o)) (j : Nat) (f : File)
    (hj : files[j]? = some f) :
    ∃ record next, image.chained (k + j) = .ok (record, next) ∧ record.Shows image.region f := by
  induction h generalizing k j with
  | nil => cases hj
  | cons hlocation hchecksum hfile hat _ ih =>
      obtain ⟨record, hdecode, hshows⟩ :=
        decodeNext_of_at hr hlocation hchecksum hfile hat
      have hchained := (chained_of_cursorAt hc).trans hdecode
      cases j with
      | zero =>
          cases hj
          exact ⟨record, _, hchained, hshows⟩
      | succ j =>
          obtain ⟨record', next, hrest⟩ := ih (cursorAt_succ hchained) j hj
          exact ⟨record', next, by rwa [show k + (j + 1) = k + 1 + j by omega]⟩

/-- The image has the content of the files, read off the directory. -/
structure HasFiles (image : Image) (files : List File) : Prop where
  backed : image.region.Backed
  nonneg : 0 ≤ image.begin
  count : image.dexFileCount = files.length
  file : ∀ (k : Nat) (f : File), files[k]? = some f →
    ∃ record : Record, (image.dexFile k).outcome = .ok ⟨k, record⟩ ∧
      record.Shows image.region f

theorem hasFiles_of_recordsAt (hr : image.region.Backed) (hnonneg : 0 ≤ image.begin)
    {files : List File} {o : Nat} (h : RecordsAt image.region.contents o files)
    (hstart : image.recordsStart = image.begin + o) (hcount : image.dexFileCount = files.length) :
    image.HasFiles files := by
  have hchained := chained_of_recordsAt hr h (k := 0) (congrArg Except.ok hstart)
  have hstops : image.StopsAt files.length := by
    refine ⟨Nat.le_of_eq hcount.symm, fun k hk => ?_, fun hlt => by omega⟩
    obtain ⟨record, next, hok, _⟩ := hchained k _ (List.getElem?_eq_getElem hk)
    exact ⟨record, next, by rwa [Nat.zero_add] at hok⟩
  refine ⟨hr, hnonneg, hcount, fun k f hk => ?_⟩
  have hlt : k < files.length := (List.getElem?_eq_some_iff.mp hk).choose
  obtain ⟨record, next, hok, hshows⟩ := hchained k f hk
  rw [Nat.zero_add] at hok
  refine ⟨record, ?_, hshows⟩
  have htake := hstops.takeAfter_file (k := 0) k rfl (by omega)
  rw [Nat.zero_add, fileAt_of_chained hok] at htake
  rw [dexFile_of_lt (hcount ▸ hlt)]
  exact htake

/-! Classes. -/

/-- The class that was found is the one with an index in a file, with its record and the
methods of its class data. -/
structure Holds (image : Image) (x : ResolvedClass) (f : File) (index : Nat) (c : Content.Class) :
    Prop where
  location : x.file.record.location = f.location
  index : x.definition.index = index
  record : x.record.Shows image.region c
  methods : ∃ m data, x.file.module image = .ok m ∧ m.classData x.definition = .ok data ∧
    Dex.Lists m true 0 data.direct c.direct ∧
    Dex.Lists m false c.direct.length data.virtual c.virtual

/-- The index of a class selects its record. -/
theorem classRecord_of_fileAt (hr : image.region.Backed) {f : File} {file : DexFile}
    {dexOffset : Nat} (hfile : FileAt image.region.contents f dexOffset file.record.classOffsets)
    {index : Nat} {c : Content.Class} (hget : f.classes[index]? = some c) :
    ∃ record, image.classRecord file index = .ok record ∧ record.Shows image.region c := by
  have hlt : index < file.record.classOffsets.length := by
    rw [hfile.count]
    exact (List.getElem?_eq_some_iff.mp hget).choose
  have hoffset := List.getElem?_eq_getElem hlt
  have hpointer : image.pointer file.record.classOffsets[index] =
      some (image.begin + file.record.classOffsets[index]) := by
    have hne := (hfile.classPointers _ (List.getElem_mem hlt)).2
    rw [pointer, if_neg (by omega)]
  obtain ⟨record, hdecode, hshows⟩ := ClassRecord.shows_of_classRecordAt hr
    (hfile.classRecords index _ c hoffset hget) rfl
  refine ⟨record, ?_, hshows⟩
  rw [classRecord, Int.toNat_natCast, hoffset]
  dsimp only
  rw [hpointer]
  exact hdecode

theorem findClassIn_of_shows (hr : image.region.Backed) (hnonneg : 0 ≤ image.begin) {f : File}
    {record : Record} (h : record.Shows image.region f) (k : Nat) (descriptor : Text) :
    ∃ found, (image.findClassIn ⟨k, record⟩ descriptor).outcome = .ok found ∧
      (found = none → ∀ c ∈ f.classes, c.descriptor ≠ descriptor) ∧
      ∀ x, found = some x → ∃ index c, f.Defines descriptor index c ∧ image.Holds x f index c := by
  obtain ⟨dexOffset, hpointer, hfile⟩ := h.file
  obtain ⟨part, t, hpart, hmodule⟩ := hfile.module
  obtain ⟨m, hload, hreads⟩ := Dex.load_of_isModule hr hpart hmodule rfl hnonneg
  have hm : DexFile.module image ⟨k, record⟩ = .ok m := by
    rw [DexFile.module, hpointer]
    exact hload
  obtain ⟨found, hlocate, hnone, hsome⟩ := hreads.locate hmodule descriptor
  simp only [findClassIn, Logged.outcome_bind, Logged.outcome_liftM, hm, ok_bind, hlocate,
    withContext_ok]
  cases found with
  | none => exact ⟨none, rfl, fun _ => hnone rfl, fun x hx => (nomatch hx)⟩
  | some definition =>
      obtain ⟨index, c, hget, hdescriptor, hindex, hdata⟩ := hsome definition rfl
      obtain ⟨shown, hrecord, hshown⟩ : ∃ shown, image.classRecord ⟨k, record⟩ index = .ok shown ∧
          shown.Shows image.region c := classRecord_of_fileAt hr hfile hget
      obtain ⟨data, hclassData, hlists⟩ := hreads.classData hdata
      refine ⟨some ⟨⟨k, record⟩, definition, shown⟩, ?_, fun hx => (nomatch hx), fun x hx => ?_⟩
      · rw [Logged.outcome_map, resolve, Logged.outcome_reporting, hindex, hrecord]
        rfl
      · cases hx
        exact ⟨index, c, ⟨hget, hdescriptor⟩, h.location, hindex, hshown, m, data, hm, hclassData,
          hlists⟩

/-- A search through the rest of the directory finds the class of the first file there. -/
theorem findClassFrom_of_shows (hr : image.region.Backed) (hnonneg : 0 ≤ image.begin)
    (descriptor : Text) {files : List File} {k : Nat}
    (hfiles : ∀ (j : Nat) (f : File), files[j]? = some f → ∃ record : Record,
      (image.dexFile (k + j : Nat)).outcome = .ok ⟨k + j, record⟩ ∧
        record.Shows image.region f) :
    ∃ found, (image.findClassFrom descriptor files.length k).outcome = .ok found ∧
      (found = none → ∀ f ∈ files, ∀ c ∈ f.classes, c.descriptor ≠ descriptor) ∧
      ∀ x, found = some x → ∃ f index c, DefinesFirst files descriptor f index c ∧
        image.Holds x f index c := by
  induction files generalizing k with
  | nil =>
      refine ⟨none, rfl, fun _ f hf => absurd hf List.not_mem_nil, fun x hx => ?_⟩
      cases hx
  | cons f rest ih =>
      obtain ⟨record, hfile, hshows⟩ := hfiles 0 f rfl
      rw [Nat.add_zero] at hfile
      obtain ⟨first, hfirst, hnone, hsome⟩ :=
        findClassIn_of_shows hr hnonneg hshows k descriptor
      rw [List.length_cons, findClassFrom, Logged.outcome_bind, hfile, ok_bind,
        Logged.outcome_bind, hfirst, ok_bind]
      cases first with
      | some x =>
          refine ⟨some x, rfl, fun hx => absurd hx (Option.some_ne_none x), fun y hy => ?_⟩
          cases hy
          obtain ⟨index, c, hdefines, hholds⟩ := hsome x rfl
          refine ⟨f, index, c, ⟨List.find?_cons_of_pos ?_, hdefines⟩, hholds⟩
          exact decide_eq_true ⟨c, List.mem_of_getElem? hdefines.1, hdefines.2⟩
      | none =>
          obtain ⟨found, hfound, hnone', hsome'⟩ := ih (k := k + 1) fun j g hj => by
            rw [Nat.add_assoc, Nat.add_comm 1 j]
            exact hfiles (j + 1) g hj
          refine ⟨found, hfound, fun hx g hg => ?_, fun y hy => ?_⟩
          · rcases List.mem_cons.mp hg with rfl | hg
            · exact hnone rfl
            · exact hnone' hx g hg
          · obtain ⟨g, index, c, ⟨hfind, hdefines⟩, hholds⟩ := hsome' y hy
            refine ⟨g, index, c, ⟨?_, hdefines⟩, hholds⟩
            rw [List.find?_cons_of_neg, hfind]
            simpa using hnone rfl

theorem HasFiles.findClass {files : List File} (h : image.HasFiles files) (descriptor : Text) :
    ∃ found, (image.findClass descriptor).outcome = .ok found ∧
      (found = none → ¬ ∃ f index c, DefinesFirst files descriptor f index c) ∧
      ∀ x, found = some x → ∃ f index c, DefinesFirst files descriptor f index c ∧
        image.Holds x f index c := by
  have hall : ∀ (j : Nat) (f : File), files[j]? = some f → ∃ record : Record,
      (image.dexFile (0 + j : Nat)).outcome = .ok ⟨0 + j, record⟩ ∧
        record.Shows image.region f := by
    intro j f hj
    rw [Nat.zero_add]
    exact h.file j f hj
  obtain ⟨found, hfound, hnone, hsome⟩ :=
    findClassFrom_of_shows h.backed h.nonneg descriptor hall
  refine ⟨found, by rw [Image.findClass, h.count, hfound], fun hx => ?_, hsome⟩
  rintro ⟨f, index, c, hfirst, hget, hdescriptor⟩
  exact hnone hx f (List.mem_of_find?_eq_some hfirst) c (List.mem_of_getElem? hget) hdescriptor

/-! Methods. -/

/-- The method that was found is the one with a position in a class, with its code. -/
structure HoldsMethod (y : ResolvedMethod) (c : Content.Class) (position : Nat) (m : Method) :
    Prop where
  place : y.method.position = position
  isDirect : y.method.isDirect = decide (position < c.direct.length)
  flags : y.method.accessFlags = m.flags
  slot : y.slot.map CodeSlot.codeOffset = c.code.offset? position

/-- A search through one list of a class finds the method there, with its code. -/
theorem findIn_of_lists {kind : String}
    {find : Dex.Module → Dex.ClassDef → Text → Text → Decode (Option Dex.Method)}
    {x : ResolvedClass} {c : Content.Class} {name signature : Text} {m : Dex.Module}
    {isDirect : Bool} {start : Nat} {methods : List Dex.Method} {cs : List Method}
    (hm : x.file.module image = .ok m)
    (hfind : find m x.definition name signature = m.search name signature methods)
    (hlists : Dex.Lists m isDirect start methods cs) (hrecord : x.record.Shows image.region c)
    (hrange : start + cs.length ≤ c.methods.length)
    (hdirect : ∀ k < cs.length, isDirect = decide (start + k < c.direct.length)) :
    ∃ found, (image.findIn kind find x name signature).outcome = .ok found ∧
      (found = none → ∀ d ∈ cs, ¬ (d.name = name ∧ d.signature = signature)) ∧
      ∀ y, found = some y → ∃ k d, cs[k]? = some d ∧ d.name = name ∧ d.signature = signature ∧
        HoldsMethod y c (start + k) d := by
  obtain ⟨found, hsearch, hnone, hsome⟩ := hlists.search name signature
  rw [← hfind] at hsearch
  simp only [findIn, Logged.outcome_bind, Logged.outcome_liftM, hm, ok_bind, hsearch]
  cases found with
  | none => exact ⟨none, rfl, fun _ => hnone rfl, fun y hy => (nomatch hy)⟩
  | some y =>
      obtain ⟨k, d, hget, hname, hsignature, hposition, hisDirect, hflags⟩ := hsome y rfl
      have hk : k < cs.length := (List.getElem?_eq_some_iff.mp hget).choose
      obtain ⟨slot, hslot, hoffset⟩ := hrecord.slots (start + k) (by omega)
      refine ⟨some ⟨x, y, slot⟩, ?_, fun hx => (nomatch hx), fun z hz => ?_⟩
      · show (some <$> image.bind x y).outcome = _
        rw [Logged.outcome_map, Image.bind, Logged.outcome_reporting, hposition, hslot]
        rfl
      · cases hz
        exact ⟨k, d, hget, hname, hsignature, hposition, hisDirect.trans (hdirect k hk), hflags,
          hoffset⟩

theorem Holds.findMethodIn {x : ResolvedClass} {f : File} {index : Nat} {c : Content.Class}
    (h : image.Holds x f index c) (name signature : Text) :
    ∃ found, (image.findMethodIn x name signature).outcome = .ok found ∧
      (found = none → ¬ ∃ position m, c.Declares name signature position m) ∧
      ∀ y, found = some y → ∃ position m, c.Declares name signature position m ∧
        HoldsMethod y c position m := by
  obtain ⟨m, data, hm, hdata, hdirect, hvirtual⟩ := h.methods
  have hlen : c.methods.length = c.direct.length + c.virtual.length := List.length_append
  obtain ⟨first, hfirst, hfirstNone, hfirstSome⟩ : ∃ found,
      (image.findDirectMethod x name signature).outcome = .ok found ∧ _ ∧ _ :=
    findIn_of_lists hm (by rw [Dex.Module.findDirect, hdata]; rfl) hdirect h.record (by omega)
      fun k hk => (decide_eq_true (by omega)).symm
  obtain ⟨second, hsecond, hsecondNone, hsecondSome⟩ : ∃ found,
      (image.findVirtualMethod x name signature).outcome = .ok found ∧ _ ∧ _ :=
    findIn_of_lists hm (by rw [Dex.Module.findVirtual, hdata]; rfl) hvirtual h.record (by omega)
      fun k hk => (decide_eq_false (by omega)).symm
  rw [Image.findMethodIn, Logged.outcome_bind, hfirst, ok_bind]
  cases first with
  | some y =>
      refine ⟨some y, rfl, fun hy => (nomatch hy), fun z hz => ?_⟩
      cases hz
      obtain ⟨k, d, hget, hname, hsignature, hholds⟩ := hfirstSome y rfl
      rw [Nat.zero_add] at hholds
      have hk : k < c.direct.length := (List.getElem?_eq_some_iff.mp hget).choose
      exact ⟨k, d, ⟨(List.getElem?_append_left hk).trans hget, hname, hsignature⟩, hholds⟩
  | none =>
      dsimp only
      rw [Logged.outcome_bind, hsecond, ok_bind]
      cases second with
      | some y =>
          refine ⟨some y, rfl, fun hy => (nomatch hy), fun z hz => ?_⟩
          cases hz
          obtain ⟨k, d, hget, hname, hsignature, hholds⟩ := hsecondSome y rfl
          refine ⟨c.direct.length + k, d, ⟨?_, hname, hsignature⟩, hholds⟩
          rw [Content.Class.methods, List.getElem?_append_right (Nat.le_add_right _ _),
            Nat.add_sub_cancel_left, hget]
      | none =>
          refine ⟨none, rfl, fun _ => ?_, fun y hy => (nomatch hy)⟩
          rintro ⟨position, d, hget, hmatch⟩
          rcases List.mem_append.mp (List.mem_of_getElem? hget) with hd | hd
          · exact hfirstNone rfl d hd hmatch
          · exact hsecondNone rfl d hd hmatch

/-! Setting up. -/

/-- An image that was laid out in the first bytes of a memory is set up, with its content. -/
theorem setup_of_isImage {begin stop : Int} {memory : ByteArray} {header : Header}
    {files : List File} (asked : Option InstructionSet) (hbegin : 0 ≤ begin)
    (hmemory : stop - begin ≤ memory.size)
    (h : IsImage (memory.data.toList.take (stop - begin).toNat) header files) :
    ∃ image, setup (some begin) (some stop) (some memory) asked = .ok image ∧
      image.HasFiles files ∧ image.begin = begin ∧ image.header.isValid = true ∧
      image.instructionSet =
        asked.getD (InstructionSet.ofCode header.instructionSetCode) := by
  have hstop : ¬ stop ≤ begin := by
    intro hle
    have hlen := h.header.length_le
    have hsize : 0 < header.size := by
      rw [Header.size, Header.layoutSize]
      omega
    rw [(Header.fits_of_fitsHeader h.fits).length_encode, List.length_take] at hlen
    omega
  have hr : (Region.ofBuffer memory begin stop).Backed :=
    Region.ofBuffer_backed (by omega) hmemory
  have hcontents := Region.contents_ofBuffer memory begin stop
  have hfirst : (Region.ofBuffer memory begin stop).begin = begin := rfl
  rw [setup, if_neg hstop]
  dsimp only
  rw [if_neg (by omega)]
  -- of the region only its start and its bytes matter
  generalize Region.ofBuffer memory begin stop = r at hr hcontents hfirst
  subst hfirst
  rw [← hcontents] at h
  rw [Header.decode_of_at hr h.fits h.header]
  refine ⟨ofHeader r { header with address := r.begin } asked, rfl,
    hasFiles_of_recordsAt (o := header.size + header.keyValueStoreSize) ?_ ?_ ?_ ?_ ?_, rfl,
    h.fits.valid, rfl⟩
  · exact hr
  · exact hbegin
  · exact h.records
  · show r.begin + (header.size : Int) + header.keyValueStoreSize =
      r.begin + ((header.size + header.keyValueStoreSize : Nat) : Int)
    omega
  · exact h.count

end Image

end OatImage
