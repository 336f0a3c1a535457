import OatImage.Proofs.ContentSearches
import OatImage.Proofs.Lookups

/-!
# Lookups in an image of known content

The report of a lookup in an image that content was laid out in follows from the content: a
method is found if the first dex file with its class declares it, and what the report says of
the class, of the method and of its code is what the content says. No lookup fails.
-/
namespace OatImage

open Layout
open Content hiding Class

namespace Image

variable {image : Image} {files : List File} {descriptor name signature : Text} {f : File}
  {index position : Nat} {c : Content.Class} {m : Method}

/-! What the searches of a lookup find is what the content has. -/

theorem HasFiles.findsClass (h : image.HasFiles files) (hvalid : image.header.isValid = true)
    (hfiles : ∀ f ∈ files, f.IsDistinct) (hc : DefinesFirst files descriptor f index c) :
    ∃ x, image.FindsClass descriptor none x ∧ image.Holds x f index c := by
  obtain ⟨found, hfound, hnone, hsome⟩ := h.findClass descriptor
  cases found with
  | none => exact absurd ⟨f, index, c, hc⟩ (hnone rfl)
  | some x =>
      obtain ⟨f', index', c', hfirst, hholds⟩ := hsome x rfl
      obtain ⟨rfl, rfl, rfl⟩ := hfirst.unique hfiles hc
      exact ⟨x, ⟨hvalid, hfound⟩, hholds⟩

theorem HasFiles.defines_of_findsClass (h : image.HasFiles files) {x : ResolvedClass}
    (hx : image.FindsClass descriptor none x) :
    ∃ f index c, DefinesFirst files descriptor f index c ∧ image.Holds x f index c := by
  obtain ⟨found, hfound, _, hsome⟩ := h.findClass descriptor
  cases hfound.symm.trans hx.2
  exact hsome x rfl

theorem HasFiles.findsMethod (h : image.HasFiles files) (hvalid : image.header.isValid = true)
    (hfiles : ∀ f ∈ files, f.IsDistinct) (hc : DefinesFirst files descriptor f index c)
    (hm : c.Declares name signature position m) :
    ∃ x y, image.FindsMethod descriptor name signature none x y ∧
      HoldsMethod y c position m := by
  obtain ⟨x, hx, hholds⟩ := h.findsClass hvalid hfiles hc
  obtain ⟨found, hfound, hnone, hsome⟩ := hholds.findMethodIn name signature
  cases found with
  | none => exact absurd ⟨position, m, hm⟩ (hnone rfl)
  | some y =>
      have hdistinct : c.IsDistinct :=
        (hfiles f (List.mem_of_find?_eq_some hc.1)).2 c (List.mem_of_getElem? hc.2.1)
      obtain ⟨position', m', hm', hy⟩ := hsome y rfl
      obtain ⟨rfl, rfl⟩ := hm'.unique hdistinct hm
      exact ⟨x, y, ⟨hx, hfound⟩, hy⟩

theorem HasFiles.declares_of_findsMethod (h : image.HasFiles files) {x : ResolvedClass}
    {y : ResolvedMethod} (hy : image.FindsMethod descriptor name signature none x y) :
    ∃ f index c position m, DefinesFirst files descriptor f index c ∧
      c.Declares name signature position m := by
  obtain ⟨f, index, c, hc, hholds⟩ := h.defines_of_findsClass hy.1
  obtain ⟨found, hfound, _, hsome⟩ := hholds.findMethodIn name signature
  cases hfound.symm.trans hy.2
  obtain ⟨position, m, hm, _⟩ := hsome y rfl
  exact ⟨f, index, c, position, m, hc, hm⟩

/-- No search of a lookup fails, so the lookup does not. -/
theorem HasFiles.status_ne_failure (h : image.HasFiles files)
    (hvalid : image.header.isValid = true) {resolution : Resolution}
    (hends : image.Ends descriptor name signature none resolution) {asked : Lookup}
    (hasked : asked.status ≠ .failure) :
    (Lookup.ofResolution image asked resolution).status ≠ .failure := by
  cases hends with
  | invalidHeader hheader => cases hvalid.symm.trans hheader
  | noClass _ _ => exact hasked
  | classFailed e _ hfails =>
      obtain ⟨found, hfound, _⟩ := h.findClass descriptor
      cases hfound.symm.trans hfails
  | noMethod x _ _ _ => exact hasked
  | methodFailed x e _ hclass hfails =>
      obtain ⟨f, index, c, _, hholds⟩ := h.defines_of_findsClass ⟨hvalid, hclass⟩
      obtain ⟨found, hfound, _⟩ := hholds.findMethodIn name signature
      cases hfound.symm.trans hfails
  | found y _ _ _ => exact nofun

end Image

namespace Lookup

/-- The report names a class as the content has it. -/
def NamesClass (l : Lookup) (f : File) (index : Nat) (c : Content.Class) : Prop :=
  l.location = some (Utf8.decodeReplacing f.location) ∧ l.classIndex = some (index : Int) ∧
    l.classStatus = some c.status ∧ l.classKind = some c.code.coverage.reportName

/-- The report names a method as the content has it, and where its code lies in an image that
begins at an address. -/
def NamesMethod (l : Lookup) (begin : Int) (isa : InstructionSet) (c : Content.Class)
    (position : Nat) (m : Method) : Prop :=
  l.methodKind = some (if position < c.direct.length then "direct" else "virtual") ∧
    l.position = some (position : Int) ∧ l.accessFlags = some (m.flags : Int) ∧
    l.modifiers = m.modifiers ∧ l.compiled = (c.code.offset? position).isSome ∧
    l.codeOffset = (c.code.offset? position).map (fun offset : Nat => (offset : Int)) ∧
    l.entryPoint = (c.code.offset? position).map (fun offset : Nat => begin + offset) ∧
    l.codePointer =
      (c.code.offset? position).map fun offset : Nat => isa.codePointer (begin + offset)

/-- The report of a lookup that does not fail says what the content says, and no more. -/
structure Follows (l : Lookup) (files : List File) (begin : Int) (isa : InstructionSet)
    (descriptor name signature : Text) : Prop where
  succeeds : l.status ≠ .failure ∧ l.error = none
  found : l.status = .found ↔ ∃ f index c position m,
    DefinesFirst files descriptor f index c ∧ c.Declares name signature position m
  namesClass : ∀ f index c, DefinesFirst files descriptor f index c → l.NamesClass f index c
  namesNoClass : (¬ ∃ f index c, DefinesFirst files descriptor f index c) → l.HasNoClass
  namesMethod : ∀ f index c position m, DefinesFirst files descriptor f index c →
    c.Declares name signature position m → l.NamesMethod begin isa c position m
  namesNoMethod : l.status ≠ .found → l.HasNoMethod

theorem HasClass.namesClass {l : Lookup} {image : Image} {x : ResolvedClass} {f : File}
    {index : Nat} {c : Content.Class} (h : l.HasClass x) (hx : image.Holds x f index c) :
    l.NamesClass f index c := by
  obtain ⟨hlocation, hindex, hstatus, hkind⟩ := h
  refine ⟨?_, ?_, ?_, ?_⟩
  · rw [hlocation, DexFile.location, Record.locationText, hx.location]
  · rw [hindex, ResolvedClass.index, hx.index]
  · rw [hstatus, hx.record.status]
  · rw [hkind, hx.record.coverage]

theorem HasMethod.namesMethod {l : Lookup} {image : Image} {y : ResolvedMethod} {c : Content.Class}
    {position : Nat} {m : Method} (h : l.HasMethod image y)
    (hy : Image.HoldsMethod y c position m) :
    l.NamesMethod image.begin image.instructionSet c position m := by
  obtain ⟨hkind, hposition, hflags, hmodifiers, hcompiled, hoffset, hentry, hpointer⟩ := h
  refine ⟨?_, ?_, ?_, ?_, ?_, ?_, ?_, ?_⟩
  · rw [hkind, Dex.Method.kind, hy.isDirect]
    simp only [decide_eq_true_eq]
  · rw [hposition, hy.place]
  · rw [hflags, hy.flags]
  · rw [hmodifiers, Dex.Method.modifiers, hy.flags, Method.modifiers]
  · rw [hcompiled, ← hy.slot, Option.isSome_map]
  · rw [hoffset, ← hy.slot, Option.map_map]
    rfl
  · rw [hentry, ← hy.slot, Option.map_map]
    rfl
  · rw [hpointer, ResolvedMethod.codePointer, ResolvedMethod.entryPoint, ← hy.slot,
      Option.map_map, Option.map_map]
    rfl

/-- A report of what the searches find follows from the content. -/
theorem IsReport.follows {image : Image} {files : List File} (h : image.HasFiles files)
    (hvalid : image.header.isValid = true) (hfiles : ∀ f ∈ files, f.IsDistinct)
    {descriptor name signature : String} {l : Lookup}
    (hl : IsReport image descriptor name signature none l) (hstatus : l.status ≠ .failure) :
    l.Follows files image.begin image.instructionSet descriptor name signature where
  succeeds := by
    refine ⟨hstatus, ?_⟩
    by_contra herror
    exact hstatus (hl.failure.mpr herror)
  found := by
    rw [hl.found]
    constructor
    · rintro ⟨x, y, hy⟩
      exact h.declares_of_findsMethod hy
    · rintro ⟨f, index, c, position, m, hc, hm⟩
      obtain ⟨x, y, hy, _⟩ := h.findsMethod hvalid hfiles hc hm
      exact ⟨x, y, hy⟩
  namesClass := by
    intro f index c hc
    obtain ⟨x, hx, hholds⟩ := h.findsClass hvalid hfiles hc
    exact (hl.hasClass x hx).namesClass hholds
  namesNoClass := by
    intro hnone
    refine hl.hasNoClass ?_
    rintro ⟨x, hx⟩
    obtain ⟨f, index, c, hc, _⟩ := h.defines_of_findsClass hx
    exact hnone ⟨f, index, c, hc⟩
  namesMethod := by
    intro f index c position m hc hm
    obtain ⟨x, y, hy, hholds⟩ := h.findsMethod hvalid hfiles hc hm
    exact (hl.hasMethod x y hy).namesMethod hholds
  namesNoMethod := hl.hasNoMethod

/-- In every image that content was laid out in, a lookup on any logger ends with the report
that follows from the content. -/
theorem runOn_follows {begin stop : Int} {memory : ByteArray} {header : Header}
    {files : List File} (asked : Option InstructionSet) (hbegin : 0 ≤ begin)
    (hmemory : stop - begin ≤ memory.size) (hfiles : ∀ f ∈ files, f.IsDistinct)
    (h : IsImage (memory.data.toList.take (stop - begin).toNat) header files) :
    ∃ image, Image.setup (some begin) (some stop) (some memory) asked = .ok image ∧
      ∀ (descriptor name signature : String) (logger : Log.Logger)
        (times : Nat → Log.Instant), ∃ l,
        (runOn logger times image descriptor name signature none).1 = .ok l ∧
        l.Follows files begin
          (asked.getD (InstructionSet.ofCode header.instructionSetCode))
          descriptor name signature := by
  obtain ⟨image, hsetup, hhas, hfirst, hvalid, hset⟩ :=
    Image.setup_of_isImage asked hbegin hmemory h
  refine ⟨image, hsetup, fun descriptor name signature logger times => ?_⟩
  obtain ⟨resolution, houtcome, hends⟩ :=
    Image.resolveMethod_ends hhas.backed descriptor name signature none
  have hfollows := (isReport_of_ends hends).follows hhas hvalid hfiles
    (hhas.status_ne_failure hvalid hends nofun)
  rw [hfirst, hset] at hfollows
  refine ⟨_, ?_, hfollows⟩
  rw [runOn_outcome, run, Logged.outcome_bind]
  show ((image.resolveMethod descriptor name signature ((none : Option String).map
    Text.ofString)).outcome >>= _) = _
  rw [houtcome]
  rfl

def twoMethodsText (points : List Nat) : Text := points.map CodePoint.ofNat

/-- A dex file with one class, of whose two methods only the virtual one was compiled. -/
def twoMethodsFile : File :=
  { location := [0x61]
    classes := [{
      descriptor := twoMethodsText [0x4C, 0x41, 0x3B]
      direct := [⟨twoMethodsText [0x66], [], twoMethodsText [0x56], 1⟩]
      virtual := [⟨twoMethodsText [0x67], [], twoMethodsText [0x56], 1⟩]
      status := -2
      code := .some [none, some 0x101] }] }

def twoMethodsTables : Tables :=
  { strings := ⟨4, 112⟩, types := ⟨2, 128⟩, prototypes := ⟨1, 136⟩, fields := ⟨0, 0⟩
    methods := ⟨2, 148⟩, classDefs := ⟨1, 164⟩ }

/-- A module with the class of that file. -/
def twoMethodsModule : List UInt8 :=
  Dex.magicBytes ++ [0x30, 0x33, 0x35, 0] ++ List.replicate 24 0 ++
    wordBytes [220, 112, Dex.endianTag] ++ List.replicate 12 0 ++
    wordBytes twoMethodsTables.words ++ List.replicate 8 0 ++
    wordBytes [196, 201, 204, 207] ++ wordBytes [0, 1] ++ wordBytes [1, 1, 0] ++
    wordBytes [0, 2, 0, 3] ++ wordBytes [0, 1, 0, 0, 0, 0, 210, 0] ++
    [3, 0x4C, 0x41, 0x3B, 0, 1, 0x56, 0, 1, 0x66, 0, 1, 0x67, 0] ++
    [0, 0, 1, 1, 0, 1, 0, 1, 1, 0]

def twoMethodsHeader : Header :=
  { address := 0, magic := Header.magicBytes, version := Header.version064, checksum := 0
    instructionSetCode := 1, features := 0, dexFileCount := 1, executableOffset := 0
    trampolines := List.replicate 7 0, imagePatchDelta := -4096, imageChecksum := 0
    imageDataBegin := 0, keyValueStoreSize := 0 }

/-- An image with that file: the header, its record, the module and the record of the class. -/
def twoMethodsImage : List UInt8 :=
  twoMethodsHeader.encode ++ Record.encode [0x61] 0 89 [309] ++ twoMethodsModule ++
    ClassRecord.encode (-2) .some [2] ++ wordBytes [0x101]

section
set_option maxRecDepth 2000

theorem twoMethodsModule_types :
    TypeAt twoMethodsModule twoMethodsTables 0 (twoMethodsText [0x4C, 0x41, 0x3B]) ∧
      TypeAt twoMethodsModule twoMethodsTables 1 (twoMethodsText [0x56]) := by
  refine ⟨⟨by decide, 0, ⟨by decide, by decide⟩, by decide, 196, (3 : UInt8).toNat, [3],
    ?_⟩, by decide, 1, ⟨by decide, by decide⟩, by decide, 201, (1 : UInt8).toNat, [1], ?_⟩
  · exact ⟨⟨by decide, by decide⟩, .last (by decide), by decide,
      ⟨by decide, by decide, trivial⟩, by decide⟩
  · exact ⟨⟨by decide, by decide⟩, .last (by decide), by decide, trivial,
      by decide⟩

theorem twoMethodsModule_prototype :
    PrototypeAt twoMethodsModule twoMethodsTables 0 [] (twoMethodsText [0x56]) :=
  ⟨by decide, 1, 1, 0, ⟨by decide, by decide⟩, twoMethodsModule_types.2, .inl ⟨rfl, rfl⟩⟩

theorem twoMethodsModule_methods :
    MethodAt twoMethodsModule twoMethodsTables 0
        ⟨twoMethodsText [0x66], [], twoMethodsText [0x56], 1⟩ ∧
      MethodAt twoMethodsModule twoMethodsTables 1
        ⟨twoMethodsText [0x67], [], twoMethodsText [0x56], 1⟩ := by
  constructor
  · refine ⟨by decide, 0, 0, 2, ⟨by decide, by decide⟩, ⟨by decide, by decide⟩,
      ⟨by decide, by decide⟩, ⟨by decide, 204, (1 : UInt8).toNat, [1], ?_⟩,
      twoMethodsModule_prototype⟩
    exact ⟨⟨by decide, by decide⟩, .last (by decide), by decide, trivial,
      by decide⟩
  · refine ⟨by decide, 0, 0, 3, ⟨by decide, by decide⟩, ⟨by decide, by decide⟩,
      ⟨by decide, by decide⟩, ⟨by decide, 207, (1 : UInt8).toNat, [1], ?_⟩,
      twoMethodsModule_prototype⟩
    exact ⟨⟨by decide, by decide⟩, .last (by decide), by decide, trivial,
      by decide⟩

theorem twoMethodsModule_isModule :
    IsModule twoMethodsModule twoMethodsFile.classes twoMethodsTables where
  signature := ⟨_, List.mem_cons_self, by decide⟩
  size := by decide
  sizes := ⟨112, by decide, by decide⟩
  tables := ⟨by decide, by decide⟩
  count := rfl
  classDefs := by
    intro index c hc
    cases index with
    | succ index => cases hc
    | zero =>
        cases hc
        have hforms : AreForms (([0, 0, 1, 1, 0, 1, 0, 1, 1, 0] : List UInt8).map UInt8.toNat)
            [0, 0, 1, 1, 0, 1, 0, 1, 1, 0] := AreForms.of_lt (by decide)
        refine ⟨0, 1, 0, 0, 0, 0, 210, 0, ⟨by decide, by decide⟩,
          twoMethodsModule_types.1, .inr ⟨by decide, 0, 0, [], [⟨0, 1, 0⟩], [⟨1, 1, 0⟩],
          [0, 0, 1, 1, 0, 1, 0, 1, 1, 0], rfl, hforms, by decide, ?_, ?_⟩⟩
        · exact .cons twoMethodsModule_methods.1 rfl .nil
        · exact .cons twoMethodsModule_methods.2 rfl .nil

theorem twoMethodsImage_classRecordAt :
    ∀ c ∈ twoMethodsFile.classes, ClassRecordAt twoMethodsImage 309 c := by
  intro c hc
  cases List.mem_singleton.mp hc
  refine ⟨by decide, rfl, by decide, [2], by decide, fun k o hk => ?_, by decide⟩
  match k, hk with
  | 0, hk =>
      cases hk
      rfl
  | 1, hk =>
      cases hk
      rfl

theorem twoMethodsImage_fileAt : FileAt twoMethodsImage twoMethodsFile 89 [309] where
  dexPointer := by decide
  module := ⟨twoMethodsModule, twoMethodsTables, by decide, twoMethodsModule_isModule⟩
  count := rfl
  classPointers := by decide
  classRecords := by
    intro index o c ho hc
    cases index with
    | succ index => cases ho
    | zero =>
        cases ho
        exact twoMethodsImage_classRecordAt c (List.mem_of_getElem? hc)

theorem twoMethodsImage_isImage : IsImage twoMethodsImage twoMethodsHeader [twoMethodsFile] where
  fits := ⟨by decide, by decide, by decide, by decide⟩
  header := by decide
  count := rfl
  records := @RecordsAt.cons twoMethodsImage 72 0 89 [309] twoMethodsFile [] (by decide)
    (by decide) twoMethodsImage_fileAt (by decide) .nil

end

theorem runOn_follows_twoMethodsImage :
    (∀ f ∈ [twoMethodsFile], f.IsDistinct) ∧
      IsImage ((⟨twoMethodsImage.toArray⟩ : ByteArray).data.toList.take
        ((4418 : Int) - 4096).toNat) twoMethodsHeader [twoMethodsFile] ∧
      ∃ image, Image.setup (some 4096) (some 4418) (some ⟨twoMethodsImage.toArray⟩) none =
          .ok image ∧
        ∀ (descriptor name signature : String) (logger : Log.Logger)
          (times : Nat → Log.Instant), ∃ l,
          (runOn logger times image descriptor name signature none).1 = .ok l ∧
          l.Follows [twoMethodsFile] 4096 .arm descriptor name signature := by
  have hmemory : (4418 : Int) - 4096 ≤ (⟨twoMethodsImage.toArray⟩ : ByteArray).size := by
    decide +kernel
  have hdistinct : ∀ f ∈ [twoMethodsFile], f.IsDistinct := by decide
  have hall : (⟨twoMethodsImage.toArray⟩ : ByteArray).data.toList.take
      ((4418 : Int) - 4096).toNat = twoMethodsImage := List.take_of_length_le (by decide +kernel)
  have himage := twoMethodsImage_isImage
  rw [← hall] at himage
  exact ⟨hdistinct, himage, runOn_follows none (by decide) hmemory hdistinct himage⟩

end Lookup

end OatImage
