import OatImage.Proofs.Narrations
import OatImage.Proofs.OperationFaults
import Mathlib.Data.Int.Bitwise

/-!
# Reports of lookups

A lookup ends in one of six ways, and each says what the search for the class and the search
for the method came to. A failure of either is one in decoding, which a report can show, so
the lookup itself does not fail. The fields of the report are read off the way it ended.
-/
namespace OatImage

open Decode Fault

/-- A failure in decoding becomes part of the answer. -/
theorem Logged.outcome_caught {α : Type} {x : Logged α} (h : FailsOnly IsDecode x.outcome) :
    x.caught.outcome = .ok x.outcome := by
  rcases h.cases with ⟨a, ha⟩ | ⟨e, he⟩
  · rw [caught, ha]
  · rw [caught, he]
    rfl

/-- On a set whose entry points carry the Thumb bit that bit is cleared, and no other one. -/
theorem InstructionSet.testBit_codePointer {isa : InstructionSet} (h : isa.isTagged = true)
    (address : Int) (i : Nat) :
    (isa.codePointer address).testBit i = (i != 0 && address.testBit i) := by
  have heven : isa.codePointer address = Int.bit false (Int.div2 address) := by
    rw [codePointer, if_pos h, Int.bit_val, Int.div2_val]
    have hdiv := Int.emod_add_mul_ediv address 2
    simp only [cond_false]
    omega
  rw [heven]
  cases i with
  | zero => exact Int.testBit_bit_zero false _
  | succ i =>
      rw [Int.testBit_bit_succ, ← Int.testBit_bit_succ i (Int.bodd address), Int.bit_decomp]
      rfl

namespace Image

variable {image : Image}

/-- A method that was found belongs to the class that was searched. -/
theorem owner_of_findIn {kind : String}
    {find : Dex.Module → Dex.ClassDef → Text → Text → Decode (Option Dex.Method)}
    {c : ResolvedClass} {name signature : Text} {x : ResolvedMethod}
    (h : (image.findIn kind find c name signature).outcome = .ok (some x)) : x.owner = c := by
  rw [findIn, Logged.outcome_bind] at h
  obtain ⟨_, _, h⟩ := bind_eq_ok.mp h
  rw [Logged.outcome_bind] at h
  obtain ⟨found, _, h⟩ := bind_eq_ok.mp h
  cases found with
  | none =>
      rw [Logged.outcome_bind] at h
      obtain ⟨_, _, h⟩ := bind_eq_ok.mp h
      cases h
  | some m =>
      rw [Logged.outcome_map, Image.bind, Logged.outcome_reporting] at h
      cases hslot : c.record.codeSlot image.region m.position with
      | ok slot =>
          rw [hslot] at h
          cases h
          rfl
      | error e =>
          rw [hslot] at h
          cases h

theorem owner_of_findMethodIn {c : ResolvedClass} {name signature : Text} {x : ResolvedMethod}
    (h : (image.findMethodIn c name signature).outcome = .ok (some x)) : x.owner = c := by
  rw [findMethodIn, Logged.outcome_bind] at h
  obtain ⟨direct, hdirect, h⟩ := bind_eq_ok.mp h
  cases direct with
  | some y =>
      cases h
      exact owner_of_findIn hdirect
  | none =>
      dsimp only at h
      rw [Logged.outcome_bind] at h
      obtain ⟨virtual, hvirtual, h⟩ := bind_eq_ok.mp h
      cases virtual with
      | some y =>
          cases h
          exact owner_of_findIn hvirtual
      | none =>
          rw [Logged.outcome_bind] at h
          obtain ⟨_, _, h⟩ := bind_eq_ok.mp h
          cases h

/-- The ways in which a lookup ends, each with what was found before. -/
inductive Ends (image : Image) (descriptor name signature : Text) (location : Option Text) :
    Resolution → Prop
  | invalidHeader (hheader : image.header.isValid = false) :
      Ends image descriptor name signature location .invalidHeader
  | noClass (hheader : image.header.isValid = true)
      (hclass : (image.findClassFor descriptor location).outcome = .ok none) :
      Ends image descriptor name signature location .noClass
  | classFailed (e : Fault) (hheader : image.header.isValid = true)
      (hclass : (image.findClassFor descriptor location).outcome = .error e) :
      Ends image descriptor name signature location (.classFailed e)
  | noMethod (c : ResolvedClass) (hheader : image.header.isValid = true)
      (hclass : (image.findClassFor descriptor location).outcome = .ok (some c))
      (hmethod : (image.findMethodIn c name signature).outcome = .ok none) :
      Ends image descriptor name signature location (.noMethod c)
  | methodFailed (c : ResolvedClass) (e : Fault) (hheader : image.header.isValid = true)
      (hclass : (image.findClassFor descriptor location).outcome = .ok (some c))
      (hmethod : (image.findMethodIn c name signature).outcome = .error e) :
      Ends image descriptor name signature location (.methodFailed c e)
  | found (x : ResolvedMethod) (hheader : image.header.isValid = true)
      (hclass : (image.findClassFor descriptor location).outcome = .ok (some x.owner))
      (hmethod : (image.findMethodIn x.owner name signature).outcome = .ok (some x)) :
      Ends image descriptor name signature location (.found x)

theorem findClassFor_failsOnly (hr : image.region.Backed) (descriptor : Text)
    (location : Option String) :
    FailsOnly IsDecode
      (image.findClassFor descriptor (location.map Text.ofString)).outcome := by
  cases location with
  | none => exact findClass_failsOnly hr descriptor
  | some location =>
      unfold findClassFor
      dsimp only [Option.map_some]
      rw [Logged.outcome_bind]
      refine (findDexFileNamed_failsOnly hr location).bind fun found _ => ?_
      cases found with
      | none => exact FailsOnly.ok _
      | some file => exact findClassIn_failsOnly hr file descriptor

/-- Every lookup ends, in one of the ways. -/
theorem resolveMethod_ends (hr : image.region.Backed) (descriptor name signature : Text)
    (location : Option String) : ∃ resolution,
      (image.resolveMethod descriptor name signature (location.map Text.ofString)).outcome =
        .ok resolution ∧
      image.Ends descriptor name signature (location.map Text.ofString) resolution := by
  unfold resolveMethod
  by_cases hheader : image.header.isValid = true
  · have hclassFails := findClassFor_failsOnly hr descriptor location
    rw [hheader]
    simp only [Bool.not_true, Bool.false_eq_true, if_false, Logged.outcome_during]
    rw [resolveAnyway, Logged.outcome_bind, Logged.outcome_caught hclassFails]
    cases hclass : (image.findClassFor descriptor (location.map Text.ofString)).outcome with
    | error e => exact ⟨_, rfl, .classFailed e hheader hclass⟩
    | ok found =>
        cases found with
        | none => exact ⟨_, rfl, .noClass hheader hclass⟩
        | some c =>
            show ∃ resolution, (image.resolveIn c name signature).outcome = .ok resolution ∧ _
            rw [resolveIn, Logged.outcome_bind,
              Logged.outcome_caught (findMethodIn_failsOnly hr c name signature)]
            cases hmethod : (image.findMethodIn c name signature).outcome with
            | error e => exact ⟨_, rfl, .methodFailed c e hheader hclass hmethod⟩
            | ok found =>
                cases found with
                | none => exact ⟨_, rfl, .noMethod c hheader hclass hmethod⟩
                | some x =>
                    have howner := owner_of_findMethodIn hmethod
                    subst howner
                    exact ⟨_, rfl, .found x hheader hclass hmethod⟩
  · rw [Bool.not_eq_true] at hheader
    rw [hheader]
    exact ⟨_, rfl, .invalidHeader hheader⟩

/-- The header is valid and the search for the class finds one. -/
def FindsClass (image : Image) (descriptor : Text) (location : Option Text)
    (c : ResolvedClass) : Prop :=
  image.header.isValid = true ∧
    (image.findClassFor descriptor location).outcome = .ok (some c)

/-- In the class that is found the search for the method finds one. -/
def FindsMethod (image : Image) (descriptor name signature : Text) (location : Option Text)
    (c : ResolvedClass) (x : ResolvedMethod) : Prop :=
  image.FindsClass descriptor location c ∧
    (image.findMethodIn c name signature).outcome = .ok (some x)

end Image

namespace Resolution

/-- The class that was found. -/
def class? : Resolution → Option ResolvedClass
  | .noMethod c => some c
  | .methodFailed c _ => some c
  | .found x => some x.owner
  | _ => none

/-- The method that was found. -/
def method? : Resolution → Option ResolvedMethod
  | .found x => some x
  | _ => none

end Resolution

namespace Image

variable {image : Image} {descriptor name signature : Text} {location : Option Text}
  {resolution : Resolution}

theorem Ends.class?_eq_some
    (h : image.Ends descriptor name signature location resolution) (c : ResolvedClass) :
    resolution.class? = some c ↔ image.FindsClass descriptor location c := by
  constructor
  · intro hc
    cases h with
    | noMethod c' hheader hclass _ =>
        cases hc
        exact ⟨hheader, hclass⟩
    | methodFailed c' e hheader hclass _ =>
        cases hc
        exact ⟨hheader, hclass⟩
    | found x hheader hclass _ =>
        cases hc
        exact ⟨hheader, hclass⟩
    | invalidHeader => cases hc
    | noClass => cases hc
    | classFailed => cases hc
  · rintro ⟨hvalid, hfound⟩
    cases h with
    | invalidHeader hheader => cases hvalid.symm.trans hheader
    | noClass _ hclass => cases hclass.symm.trans hfound
    | classFailed e _ hclass => cases hclass.symm.trans hfound
    | noMethod c' _ hclass _ =>
        cases hclass.symm.trans hfound
        rfl
    | methodFailed c' e _ hclass _ =>
        cases hclass.symm.trans hfound
        rfl
    | found x _ hclass _ =>
        cases hclass.symm.trans hfound
        rfl

theorem Ends.method?_eq_some
    (h : image.Ends descriptor name signature location resolution) (x : ResolvedMethod) :
    resolution.method? = some x ↔
      ∃ c, image.FindsMethod descriptor name signature location c x := by
  constructor
  · intro hx
    cases h with
    | found x' hheader hclass hmethod =>
        cases hx
        exact ⟨_, ⟨hheader, hclass⟩, hmethod⟩
    | invalidHeader => cases hx
    | noClass => cases hx
    | classFailed => cases hx
    | noMethod => cases hx
    | methodFailed => cases hx
  · rintro ⟨c, hclass, hmethod⟩
    have hc := (h.class?_eq_some c).mpr hclass
    cases h with
    | invalidHeader => cases hc
    | noClass => cases hc
    | classFailed => cases hc
    | noMethod c' _ _ hnone =>
        cases hc
        cases hnone.symm.trans hmethod
    | methodFailed c' e _ _ hfail =>
        cases hc
        cases hfail.symm.trans hmethod
    | found x' _ _ hfound =>
        cases hc
        cases hfound.symm.trans hmethod
        rfl

theorem Ends.isFailed_of_invalidHeader
    (h : image.Ends descriptor name signature location resolution) (asked : Lookup)
    (hheader : image.header.isValid = false) :
    (Lookup.ofResolution image asked resolution).status = .failure := by
  cases h with
  | invalidHeader => rfl
  | noClass hvalid => cases hheader.symm.trans hvalid
  | classFailed e hvalid => cases hheader.symm.trans hvalid
  | noMethod c hvalid => cases hheader.symm.trans hvalid
  | methodFailed c e hvalid => cases hheader.symm.trans hvalid
  | found x hvalid => cases hheader.symm.trans hvalid

end Image

namespace Lookup

/-- Nothing is known of a class. -/
def HasNoClass (l : Lookup) : Prop :=
  l.location = none ∧ l.classIndex = none ∧ l.classStatus = none ∧ l.classKind = none

/-- What is known of a class is what its record says. -/
def HasClass (l : Lookup) (c : ResolvedClass) : Prop :=
  l.location = some c.file.location ∧ l.classIndex = some c.index ∧
    l.classStatus = some c.record.status ∧ l.classKind = some c.record.coverage.reportName

/-- Nothing is known of a method, and in particular not of its code. -/
def HasNoMethod (l : Lookup) : Prop :=
  l.methodKind = none ∧ l.position = none ∧ l.accessFlags = none ∧ l.modifiers = [] ∧
    l.compiled = false ∧ l.codeOffset = none ∧ l.entryPoint = none ∧ l.codePointer = none

/-- What is known of a method is what its module and its code slot say. -/
def HasMethod (l : Lookup) (image : Image) (x : ResolvedMethod) : Prop :=
  l.methodKind = some x.method.kind ∧ l.position = some (x.method.position : Int) ∧
    l.accessFlags = some (x.method.accessFlags : Int) ∧ l.modifiers = x.method.modifiers ∧
    l.compiled = x.slot.isSome ∧ l.codeOffset = x.slot.map (fun s => (s.codeOffset : Int)) ∧
    l.entryPoint = x.entryPoint image ∧ l.codePointer = x.codePointer image

section
variable (image : Image) (descriptor name signature : String) (resolution : Resolution)

theorem ofResolution_class :
    let l := ofResolution image { descriptor, method := name, signature } resolution
    match resolution.class? with
    | none => l.HasNoClass
    | some c => l.HasClass c := by
  cases resolution with
  | invalidHeader => exact ⟨rfl, rfl, rfl, rfl⟩
  | noClass => exact ⟨rfl, rfl, rfl, rfl⟩
  | classFailed e => exact ⟨rfl, rfl, rfl, rfl⟩
  | noMethod c => exact ⟨rfl, rfl, rfl, rfl⟩
  | methodFailed c e => exact ⟨rfl, rfl, rfl, rfl⟩
  | found x => exact ⟨rfl, rfl, rfl, rfl⟩

theorem ofResolution_method :
    let l := ofResolution image { descriptor, method := name, signature } resolution
    match resolution.method? with
    | none => l.status ≠ .found ∧ l.HasNoMethod
    | some x => l.status = .found ∧ l.HasMethod image x := by
  cases resolution with
  | invalidHeader => exact ⟨nofun, rfl, rfl, rfl, rfl, rfl, rfl, rfl, rfl⟩
  | noClass => exact ⟨nofun, rfl, rfl, rfl, rfl, rfl, rfl, rfl, rfl⟩
  | classFailed e => exact ⟨nofun, rfl, rfl, rfl, rfl, rfl, rfl, rfl, rfl⟩
  | noMethod c => exact ⟨nofun, rfl, rfl, rfl, rfl, rfl, rfl, rfl, rfl⟩
  | methodFailed c e => exact ⟨nofun, rfl, rfl, rfl, rfl, rfl, rfl, rfl, rfl⟩
  | found x => exact ⟨rfl, rfl, rfl, rfl, rfl, rfl, rfl, rfl, rfl⟩

/-- A report has an error text exactly if the lookup failed. -/
theorem ofResolution_failure :
    let l := ofResolution image { descriptor, method := name, signature } resolution
    l.status = .failure ↔ l.error ≠ none := by
  cases resolution with
  | invalidHeader => exact ⟨fun _ => nofun, fun _ => rfl⟩
  | noClass => exact ⟨nofun, fun h => absurd rfl h⟩
  | classFailed e => exact ⟨fun _ => nofun, fun _ => rfl⟩
  | noMethod c => exact ⟨nofun, fun h => absurd rfl h⟩
  | methodFailed c e => exact ⟨fun _ => nofun, fun _ => rfl⟩
  | found x => exact ⟨nofun, fun h => absurd rfl h⟩

theorem ofResolution_asked :
    let l := ofResolution image { descriptor, method := name, signature } resolution
    l.descriptor = descriptor ∧ l.method = name ∧ l.signature = signature := by
  cases resolution with
  | invalidHeader => exact ⟨rfl, rfl, rfl⟩
  | noClass => exact ⟨rfl, rfl, rfl⟩
  | classFailed e => exact ⟨rfl, rfl, rfl⟩
  | noMethod c => exact ⟨rfl, rfl, rfl⟩
  | methodFailed c e => exact ⟨rfl, rfl, rfl⟩
  | found x => exact ⟨rfl, rfl, rfl⟩

end

/-- What the report of a lookup says, field by field, of the searches for the class and for
the method. -/
structure IsReport (image : Image) (descriptor name signature : String)
    (location : Option Text) (l : Lookup) : Prop where
  asked : l.descriptor = descriptor ∧ l.method = name ∧ l.signature = signature
  failure : l.status = .failure ↔ l.error ≠ none
  invalidHeader : image.header.isValid = false →
    l.status = .failure ∧ l.HasNoClass ∧ l.HasNoMethod
  found : l.status = .found ↔
    ∃ c x, image.FindsMethod descriptor name signature location c x
  /-- The fields of a class are set exactly if a class is found, whatever comes of the search
  for the method. -/
  hasClass : ∀ c, image.FindsClass descriptor location c → l.HasClass c
  hasNoClass : (¬ ∃ c, image.FindsClass descriptor location c) → l.HasNoClass
  /-- The fields of a method are set exactly if the method is found. -/
  hasMethod : ∀ c x, image.FindsMethod descriptor name signature location c x →
    l.HasMethod image x
  hasNoMethod : l.status ≠ .found → l.HasNoMethod
  /-- The fields of compiled code are set all together, and only for a method. -/
  compiled : (l.compiled = true ↔ l.codeOffset ≠ none) ∧
    (l.compiled = true ↔ l.entryPoint ≠ none) ∧ (l.compiled = true ↔ l.codePointer ≠ none) ∧
    (l.compiled = true → l.status = .found)
  entryPoint : l.entryPoint = l.codeOffset.map (image.begin + ·)
  /-- The machine code starts at the entry point, without the Thumb bit on the sets that
  have one. -/
  codePointer : ∀ p, l.codePointer = some p → ∃ a, l.entryPoint = some a ∧
    (image.instructionSet = .arm ∨ image.instructionSet = .thumb2 →
      ∀ i, p.testBit i = (i != 0 && a.testBit i)) ∧
    (¬ (image.instructionSet = .arm ∨ image.instructionSet = .thumb2) → p = a)

/-- The code fields of a report that has no method. -/
theorem HasNoMethod.compiled {l : Lookup} (h : l.HasNoMethod) :
    (l.compiled = true ↔ l.codeOffset ≠ none) ∧ (l.compiled = true ↔ l.entryPoint ≠ none) ∧
      (l.compiled = true ↔ l.codePointer ≠ none) ∧ (l.compiled = true → l.status = .found) := by
  obtain ⟨_, _, _, _, hcompiled, hoffset, hentry, hpointer⟩ := h
  rw [hcompiled, hoffset, hentry, hpointer]
  exact ⟨⟨nofun, absurd rfl⟩, ⟨nofun, absurd rfl⟩, ⟨nofun, absurd rfl⟩, nofun⟩

theorem HasNoMethod.entryPoint {l : Lookup} (h : l.HasNoMethod) {begin : Int} :
    l.entryPoint = l.codeOffset.map (begin + ·) := by
  obtain ⟨_, _, _, _, _, hoffset, hentry, _⟩ := h
  rw [hoffset, hentry]
  rfl

theorem HasNoMethod.codePointer_ne {l : Lookup} (h : l.HasNoMethod) {p : Int} :
    l.codePointer ≠ some p := by
  obtain ⟨_, _, _, _, _, _, _, hpointer⟩ := h
  rw [hpointer]
  exact nofun

/-- The code fields of a report that has a method. -/
theorem HasMethod.compiled {l : Lookup} {image : Image} {x : ResolvedMethod}
    (h : l.HasMethod image x) : (l.compiled = true ↔ l.codeOffset ≠ none) ∧
      (l.compiled = true ↔ l.entryPoint ≠ none) ∧
      (l.compiled = true ↔ l.codePointer ≠ none) := by
  obtain ⟨_, _, _, _, hcompiled, hoffset, hentry, hpointer⟩ := h
  rw [hcompiled, hoffset, hentry, hpointer]
  unfold ResolvedMethod.codePointer ResolvedMethod.entryPoint
  cases x.slot with
  | none => exact ⟨⟨nofun, absurd rfl⟩, ⟨nofun, absurd rfl⟩, ⟨nofun, absurd rfl⟩⟩
  | some slot =>
      exact ⟨⟨fun _ => nofun, fun _ => rfl⟩, ⟨fun _ => nofun, fun _ => rfl⟩,
        ⟨fun _ => nofun, fun _ => rfl⟩⟩

theorem HasMethod.entryPoint {l : Lookup} {image : Image} {x : ResolvedMethod}
    (h : l.HasMethod image x) : l.entryPoint = l.codeOffset.map (image.begin + ·) := by
  obtain ⟨_, _, _, _, _, hoffset, hentry, _⟩ := h
  rw [hoffset, hentry, ResolvedMethod.entryPoint, Option.map_map]
  rfl

theorem isTagged_iff (isa : InstructionSet) :
    isa.isTagged = true ↔ isa = .arm ∨ isa = .thumb2 := by
  cases isa <;> decide

theorem HasMethod.codePointer {l : Lookup} {image : Image} {x : ResolvedMethod}
    (h : l.HasMethod image x) {p : Int} (hp : l.codePointer = some p) :
    ∃ a, l.entryPoint = some a ∧
      (image.instructionSet = .arm ∨ image.instructionSet = .thumb2 →
        ∀ i, p.testBit i = (i != 0 && a.testBit i)) ∧
      (¬ (image.instructionSet = .arm ∨ image.instructionSet = .thumb2) → p = a) := by
  obtain ⟨_, _, _, _, _, _, hentry, hpointer⟩ := h
  rw [hpointer, ResolvedMethod.codePointer] at hp
  obtain ⟨a, ha, rfl⟩ := Option.map_eq_some_iff.mp hp
  refine ⟨a, hentry.trans ha, fun htag => ?_, fun htag => ?_⟩
  · exact InstructionSet.testBit_codePointer ((isTagged_iff _).mpr htag) a
  · rw [Image.codePointer, InstructionSet.codePointer, if_neg (mt (isTagged_iff _).mp htag)]

section
variable {image : Image} {descriptor name signature : String} {location : Option Text}
  {resolution : Resolution}
  (h : image.Ends descriptor name signature location resolution)
include h

theorem hasClass_of_ends {c : ResolvedClass} (hc : image.FindsClass descriptor location c) :
    (ofResolution image { descriptor, method := name, signature } resolution).HasClass c := by
  have hclass := ofResolution_class image descriptor name signature resolution
  rw [(h.class?_eq_some c).mpr hc] at hclass
  exact hclass

theorem hasNoClass_of_ends (hnone : ¬ ∃ c, image.FindsClass descriptor location c) :
    (ofResolution image { descriptor, method := name, signature } resolution).HasNoClass := by
  have hclass := ofResolution_class image descriptor name signature resolution
  cases hc : resolution.class? with
  | none =>
      rw [hc] at hclass
      exact hclass
  | some c => exact absurd ⟨c, (h.class?_eq_some c).mp hc⟩ hnone

theorem hasMethod_of_ends {c : ResolvedClass} {x : ResolvedMethod}
    (hx : image.FindsMethod descriptor name signature location c x) :
    (ofResolution image { descriptor, method := name, signature } resolution).status = .found ∧
      (ofResolution image { descriptor, method := name, signature } resolution).HasMethod
        image x := by
  have hmethod := ofResolution_method image descriptor name signature resolution
  rw [(h.method?_eq_some x).mpr ⟨c, hx⟩] at hmethod
  exact hmethod

theorem hasNoMethod_of_ends
    (hnone : ¬ ∃ c x, image.FindsMethod descriptor name signature location c x) :
    (ofResolution image { descriptor, method := name, signature } resolution).status ≠ .found ∧
      (ofResolution image { descriptor, method := name, signature } resolution).HasNoMethod := by
  have hmethod := ofResolution_method image descriptor name signature resolution
  cases hx : resolution.method? with
  | none =>
      rw [hx] at hmethod
      exact hmethod
  | some x =>
      obtain ⟨c, hfinds⟩ := (h.method?_eq_some x).mp hx
      exact absurd ⟨c, x, hfinds⟩ hnone

theorem isReport_of_ends :
    IsReport image descriptor name signature location
      (ofResolution image { descriptor, method := name, signature } resolution) := by
  have hfailure := ofResolution_failure image descriptor name signature resolution
  have hasked := ofResolution_asked image descriptor name signature resolution
  have hinvalid := h.isFailed_of_invalidHeader { descriptor, method := name, signature }
  have hclass := fun c => hasClass_of_ends h (c := c)
  have hnoClass := hasNoClass_of_ends h
  have hmethod := fun c x => hasMethod_of_ends h (c := c) (x := x)
  have hnoMethod := hasNoMethod_of_ends h
  -- from here on the report is what these facts say of it
  generalize ofResolution image { descriptor, method := name, signature } resolution = l at *
  have hinvalidClass : image.header.isValid = false →
      ¬ ∃ c, image.FindsClass descriptor location c := by
    rintro hheader ⟨c, hvalid, _⟩
    cases hheader.symm.trans hvalid
  by_cases hfinds : ∃ c x, image.FindsMethod descriptor name signature location c x
  · obtain ⟨c, x, hx⟩ := hfinds
    obtain ⟨hfound, hhas⟩ := hmethod c x hx
    obtain ⟨hoffset, hentry, hpointer⟩ := hhas.compiled
    exact
      { asked := hasked
        failure := hfailure
        invalidHeader := fun hheader => absurd ⟨c, hx.1⟩ (hinvalidClass hheader)
        found := ⟨fun _ => ⟨c, x, hx⟩, fun _ => hfound⟩
        hasClass := hclass
        hasNoClass := hnoClass
        hasMethod := fun c x hx => (hmethod c x hx).2
        hasNoMethod := fun hstatus => absurd hfound hstatus
        compiled := ⟨hoffset, hentry, hpointer, fun _ => hfound⟩
        entryPoint := hhas.entryPoint
        codePointer := fun _ hp => hhas.codePointer hp }
  · obtain ⟨hstatus, hno⟩ := hnoMethod hfinds
    exact
      { asked := hasked
        failure := hfailure
        invalidHeader := fun hheader =>
          ⟨hinvalid hheader, hnoClass (hinvalidClass hheader), hno⟩
        found := ⟨fun hfound => absurd hfound hstatus, fun hx => absurd hx hfinds⟩
        hasClass := hclass
        hasNoClass := hnoClass
        hasMethod := fun c x hx => absurd ⟨c, x, hx⟩ hfinds
        hasNoMethod := fun _ => hno
        compiled := hno.compiled
        entryPoint := hno.entryPoint
        codePointer := fun _ hp => absurd hp hno.codePointer_ne }

end

/-- Every lookup in an image that was set up ends with a report, and leaves the logger in
the operation in which it found it. -/
theorem runOn_isReport {begin stop : Option Int} {memory : Option ByteArray}
    {isa : Option InstructionSet} {image : Image}
    (h : Image.setup begin stop memory isa = .ok image)
    (descriptor name signature : String) (location : Option String) (logger : Log.Logger)
    (times : Nat → Log.Instant) :
    ∃ l, (runOn logger times image descriptor name signature
        (location.map Text.ofString)).1 = .ok l ∧
      IsReport image descriptor name signature (location.map Text.ofString) l ∧
      (runOn logger times image descriptor name signature
        (location.map Text.ofString)).2.operation = logger.operation := by
  have hr := Image.backed_of_setup h
  obtain ⟨resolution, houtcome, hends⟩ :=
    Image.resolveMethod_ends hr descriptor name signature location
  refine ⟨_, ?_, isReport_of_ends hends, (runOn_operation logger).1⟩
  rw [runOn_outcome, run, Logged.outcome_bind, houtcome]
  rfl

theorem runOn_isReport_cutStream :
    ∃ image, Image.setup (some 4096) (some 4172) (some Image.cutStream) none = .ok image ∧
      ∀ (logger : Log.Logger) (times : Nat → Log.Instant), ∃ l,
        (runOn logger times image "LA;" "f" "()V" ((some "a").map Text.ofString)).1 = .ok l ∧
          IsReport image "LA;" "f" "()V" ((some "a").map Text.ofString) l ∧
          (runOn logger times image "LA;" "f" "()V"
            ((some "a").map Text.ofString)).2.operation = logger.operation := by
  obtain ⟨image, h⟩ := Image.setup_cutStream
  exact ⟨image, h, fun logger times =>
    runOn_isReport h "LA;" "f" "()V" (some "a") logger times⟩

end Lookup

end OatImage
