import OatImage.Proofs.ClassDataReading
import OatImage.Proofs.ErrorEntries
import OatImage.Proofs.Resolution

/-!
# Searches for methods

A search asks one method after the other whether it is the wanted one. The answer to that needs
its name, and its signature if the name is the wanted one, so a method matches, is passed over or
stops the search because it cannot be read. What a search of a whole list gives follows from the
first method that is not passed over. The search for a method of a class is one search through
the direct and the virtual methods, and what it finds has the slot of its own position, be it
that of a compiled method or none.
-/
namespace OatImage

namespace Dex.Module

open Decode

variable (m : Module) (name signature : Text)

/-- The method has the name and the signature. -/
def Matches (x : Method) : Prop :=
  m.methodName x.index = .ok name ∧ m.methodSignature x.index = .ok signature

/-- The method is another one: its name is read, and if that is the name, its signature is read
and is another one. -/
def Passes (x : Method) : Prop :=
  ∃ itsName, m.methodName x.index = .ok itsName ∧
    (itsName = name → ∃ itsSignature, m.methodSignature x.index = .ok itsSignature ∧
      itsSignature ≠ signature)

/-- Whether the method matches cannot be told: its name is not read, or it has the name and its
signature is not read. -/
def Blocks (x : Method) : Prop :=
  (∃ e, m.methodName x.index = .error e) ∨
    (m.methodName x.index = .ok name ∧ ∃ e, m.methodSignature x.index = .error e)

/-- Asks a method whether it is the wanted one. -/
def isWanted (x : Method) : Decode Bool := do
  let itsName ← m.methodName x.index
  if itsName = name then
    let itsSignature ← m.methodSignature x.index
    .ok (decide (itsSignature = signature))
  else .ok false

variable {m name signature} {x : Method} {xs ys : List Method}

/-- What a method answers says which of the three it is. -/
theorem isWanted_iff :
    (m.isWanted name signature x = .ok true ↔ m.Matches name signature x) ∧
    (m.isWanted name signature x = .ok false ↔ m.Passes name signature x) ∧
    ((∃ e, m.isWanted name signature x = .error e) ↔ m.Blocks name x) := by
  unfold isWanted Matches Passes Blocks
  cases m.methodName x.index with
  | error e => simp
  | ok itsName =>
      by_cases hname : itsName = name
      · subst hname
        cases m.methodSignature x.index with
        | error e => simp
        | ok itsSignature => simp
      · simp [hname]

theorem Matches.not_passes (h : m.Matches name signature x) : ¬ m.Passes name signature x := by
  intro hpasses
  have htrue := isWanted_iff.1.mpr h
  rw [isWanted_iff.2.1.mpr hpasses] at htrue
  cases htrue

theorem Passes.not_matches (h : m.Passes name signature x) : ¬ m.Matches name signature x :=
  fun hmatches => hmatches.not_passes h

theorem Blocks.not_matches (h : m.Blocks name x) : ¬ m.Matches name signature x := by
  intro hmatches
  obtain ⟨e, he⟩ : ∃ e, m.isWanted name signature x = .error e := isWanted_iff.2.2.mpr h
  rw [isWanted_iff.1.mpr hmatches] at he
  cases he

theorem Blocks.not_passes (h : m.Blocks name x) : ¬ m.Passes name signature x := by
  intro hpasses
  obtain ⟨e, he⟩ : ∃ e, m.isWanted name signature x = .error e := isWanted_iff.2.2.mpr h
  rw [isWanted_iff.2.1.mpr hpasses] at he
  cases he

theorem search_cons : m.search name signature (x :: xs) = (do
    if ← m.isWanted name signature x then .ok (some x) else m.search name signature xs) := by
  rw [search, isWanted]
  cases m.methodName x.index with
  | error e => rfl
  | ok itsName =>
      simp only [ok_bind]
      by_cases hname : itsName = name
      · rw [if_pos hname, if_pos hname]
        cases m.methodSignature x.index with
        | error e => rfl
        | ok itsSignature =>
            simp only [ok_bind, decide_eq_true_eq]
            rfl
      · rw [if_neg hname, if_neg hname]
        rfl

/-- The first search goes on where the second begins. -/
theorem search_append : m.search name signature (xs ++ ys) = (do
    match ← m.search name signature xs with
    | some x => .ok (some x)
    | none => m.search name signature ys) := by
  induction xs with
  | nil => rfl
  | cons x xs ih =>
      rw [List.cons_append, search_cons, search_cons]
      cases m.isWanted name signature x with
      | error e => rfl
      | ok wanted =>
          cases wanted with
          | true => rfl
          | false => exact ih

/-- The method is the first one of a list that matches, and each before it is passed over. -/
def IsFirst (m : Module) (name signature : Text) (xs : List Method) (x : Method) : Prop :=
  ∃ before after, xs = before ++ x :: after ∧ m.Matches name signature x ∧
    ∀ y ∈ before, m.Passes name signature y

/-- A method of a list stops the search, and none before it matches. -/
def IsBlocked (m : Module) (name signature : Text) (xs : List Method) : Prop :=
  ∃ before x after, xs = before ++ x :: after ∧ m.Blocks name x ∧
    ∀ y ∈ before, ¬ m.Matches name signature y

theorem isFirst_cons {y : Method} : m.IsFirst name signature (y :: xs) x ↔
    (y = x ∧ m.Matches name signature x) ∨
      (m.Passes name signature y ∧ m.IsFirst name signature xs x) := by
  constructor
  · rintro ⟨before, after, heq, hmatches, hpass⟩
    cases before with
    | nil =>
        cases heq
        exact .inl ⟨rfl, hmatches⟩
    | cons z before =>
        cases heq
        obtain ⟨hfirst, hrest⟩ := List.forall_mem_cons.mp hpass
        exact .inr ⟨hfirst, before, after, rfl, hmatches, hrest⟩
  · rintro (⟨rfl, hmatches⟩ | ⟨hfirst, before, after, rfl, hmatches, hpass⟩)
    · exact ⟨[], xs, rfl, hmatches, nofun⟩
    · exact ⟨y :: before, after, rfl, hmatches, List.forall_mem_cons.mpr ⟨hfirst, hpass⟩⟩

theorem isBlocked_cons {y : Method} : m.IsBlocked name signature (y :: xs) ↔
    m.Blocks name y ∨ (¬ m.Matches name signature y ∧ m.IsBlocked name signature xs) := by
  constructor
  · rintro ⟨before, x, after, heq, hblocks, hother⟩
    cases before with
    | nil =>
        cases heq
        exact .inl hblocks
    | cons z before =>
        cases heq
        obtain ⟨hfirst, hrest⟩ := List.forall_mem_cons.mp hother
        exact .inr ⟨hfirst, before, x, after, rfl, hblocks, hrest⟩
  · rintro (hblocks | ⟨hfirst, before, x, after, rfl, hblocks, hother⟩)
    · exact ⟨[], y, xs, rfl, hblocks, nofun⟩
    · exact ⟨y :: before, x, after, rfl, hblocks, List.forall_mem_cons.mpr ⟨hfirst, hother⟩⟩

/-- One method is asked, and unless it is passed over the search is over. -/
theorem search_cases (y : Method) (xs : List Method) :
    (m.Matches name signature y ∧ m.search name signature (y :: xs) = .ok (some y)) ∨
    (m.Passes name signature y ∧
      m.search name signature (y :: xs) = m.search name signature xs) ∨
    (m.Blocks name y ∧ ∃ e, m.search name signature (y :: xs) = .error e) := by
  rw [search_cons]
  cases hwanted : m.isWanted name signature y with
  | error e => exact .inr (.inr ⟨isWanted_iff.2.2.mp ⟨e, hwanted⟩, e, rfl⟩)
  | ok wanted =>
      cases wanted with
      | true => exact .inl ⟨isWanted_iff.1.mp hwanted, rfl⟩
      | false => exact .inr (.inl ⟨isWanted_iff.2.1.mp hwanted, rfl⟩)

theorem search_eq_some_iff :
    m.search name signature xs = .ok (some x) ↔ m.IsFirst name signature xs x := by
  induction xs with
  | nil => exact ⟨nofun, fun ⟨_, _, h, _⟩ => absurd h (by simp)⟩
  | cons y xs ih =>
      rw [isFirst_cons]
      rcases search_cases y xs with ⟨hy, h⟩ | ⟨hy, h⟩ | ⟨hy, e, h⟩
      · rw [h, Except.ok.injEq, Option.some.injEq]
        exact ⟨fun heq => .inl ⟨heq, heq ▸ hy⟩, fun h => h.elim And.left fun h =>
          absurd h.1 hy.not_passes⟩
      · rw [h, ih]
        exact ⟨fun hx => .inr ⟨hy, hx⟩, fun h => h.elim (fun ⟨heq, hx⟩ =>
          absurd hx (heq ▸ hy.not_matches)) And.right⟩
      · rw [h]
        refine ⟨nofun, fun h => ?_⟩
        rcases h with ⟨rfl, hx⟩ | ⟨hpasses, _⟩
        · exact absurd hx hy.not_matches
        · exact absurd hpasses hy.not_passes

theorem search_eq_none_iff :
    m.search name signature xs = .ok none ↔ ∀ y ∈ xs, m.Passes name signature y := by
  induction xs with
  | nil => exact ⟨nofun, fun _ => rfl⟩
  | cons y xs ih =>
      rw [List.forall_mem_cons]
      rcases search_cases y xs with ⟨hy, h⟩ | ⟨hy, h⟩ | ⟨hy, e, h⟩
      · rw [h]
        exact ⟨nofun, fun hpass => absurd hpass.1 hy.not_passes⟩
      · rw [h, ih]
        exact (and_iff_right hy).symm
      · rw [h]
        exact ⟨nofun, fun hpass => absurd hpass.1 hy.not_passes⟩

theorem search_error_iff :
    (∃ e, m.search name signature xs = .error e) ↔ m.IsBlocked name signature xs := by
  induction xs with
  | nil => exact ⟨fun ⟨_, h⟩ => (nomatch h), fun ⟨_, _, _, h, _⟩ => absurd h (by simp)⟩
  | cons y xs ih =>
      rw [isBlocked_cons]
      rcases search_cases y xs with ⟨hy, h⟩ | ⟨hy, h⟩ | ⟨hy, e, h⟩
      · rw [h]
        refine ⟨fun ⟨_, h⟩ => (nomatch h), fun h => h.elim (fun hblocks => ?_) fun hrest => ?_⟩
        · exact absurd hy hblocks.not_matches
        · exact absurd hy hrest.1
      · rw [h, ih]
        refine ⟨fun hrest => .inr ⟨hy.not_matches, hrest⟩, fun h => h.elim (fun hblocks => ?_)
          And.right⟩
        exact absurd hy hblocks.not_passes
      · exact iff_of_true ⟨e, h⟩ (.inl hy)

end Dex.Module

namespace Image

open Decode Dex.Module

variable {image : Image} {m : Dex.Module} {c : ResolvedClass} {data : Dex.ClassData}
  {name signature : Text}

/-- A method that is found belongs to the class, is the first match of the list, and has the slot
of its position among all methods of the class. No slot is a method left to the interpreter. -/
structure IsFound (image : Image) (m : Dex.Module) (c : ResolvedClass) (data : Dex.ClassData)
    (methods : List Dex.Method) (name signature : Text) (x : ResolvedMethod) : Prop where
  owner : x.owner = c
  first : m.IsFirst name signature methods x.method
  position : data.methods[x.method.position]? = some x.method
  slot : c.record.codeSlot image.region x.method.position = .ok x.slot

/-- What a search through a list of methods of the class ends with. -/
structure Finds (image : Image) (m : Dex.Module) (c : ResolvedClass) (data : Dex.ClassData)
    (methods : List Dex.Method) (name signature : Text)
    (outcome : Decode (Option ResolvedMethod)) : Prop where
  found : ∀ x, outcome = .ok (some x) ↔ image.IsFound m c data methods name signature x
  absent : outcome = .ok none ↔ ∀ y ∈ methods, m.Passes name signature y
  /-- The search itself fails, as one of the module. -/
  blocked : (∃ e, outcome = .error e ∧ e.IsModule) ↔ m.IsBlocked name signature methods
  /-- The search does not fail, but the slot of its method does. -/
  unread : (∃ e, outcome = .error e ∧ ¬ e.IsModule) ↔
    ∃ y, m.IsFirst name signature methods y ∧
      ∃ e, c.record.codeSlot image.region y.position = .error e

/-- What a search has found, with its slot. -/
def bound (image : Image) (c : ResolvedClass) : Option Dex.Method → Decode (Option ResolvedMethod)
  | none => .ok none
  | some x => some <$> (image.bind c x).outcome

theorem outcome_bind_eq (x : Dex.Method) : (image.bind c x).outcome =
    Decode.withContext (some (x.position : Int)) (some c.file.location) (some c.descriptor)
      ((fun slot => ⟨c, x, slot⟩) <$> c.record.codeSlot image.region x.position) := by
  rw [bind, Logged.outcome_reporting]
  cases c.record.codeSlot image.region x.position <;> rfl

theorem bound_eq_some_iff {x : Dex.Method} {y : ResolvedMethod} :
    image.bound c (some x) = .ok (some y) ↔ y.owner = c ∧ y.method = x ∧
      c.record.codeSlot image.region x.position = .ok y.slot := by
  rw [bound, outcome_bind_eq]
  cases c.record.codeSlot image.region x.position with
  | error e => exact ⟨nofun, fun ⟨_, _, h⟩ => (nomatch h)⟩
  | ok slot =>
      show Except.ok (some (⟨c, x, slot⟩ : ResolvedMethod)) = .ok (some y) ↔ _
      constructor
      · intro h
        cases h
        exact ⟨rfl, rfl, rfl⟩
      · rintro ⟨rfl, rfl, h⟩
        cases h
        rfl

theorem bound_error_iff {x : Dex.Method} : (∃ e, image.bound c (some x) = .error e) ↔
    ∃ e, c.record.codeSlot image.region x.position = .error e := by
  rw [bound, outcome_bind_eq]
  cases c.record.codeSlot image.region x.position with
  | error e => exact iff_of_true ⟨_, rfl⟩ ⟨e, rfl⟩
  | ok slot => exact iff_of_false (fun ⟨_, h⟩ => (nomatch h)) fun ⟨_, h⟩ => (nomatch h)

theorem bound_some_ne_none {x : Dex.Method} : image.bound c (some x) ≠ .ok none := by
  rw [bound]
  cases (image.bind c x).outcome <;> exact nofun

/-- A slot that is not read is a failure of the image, not of the module. -/
theorem bound_failsOnly (found : Option Dex.Method) :
    FailsOnly (fun e => ¬ e.IsModule) (image.bound c found) := by
  cases found with
  | none => exact FailsOnly.ok none
  | some x =>
      have hlayer := c.record.codeSlot_layer image.region x.position
      rw [bound, outcome_bind_eq]
      cases h : c.record.codeSlot image.region x.position with
      | ok slot => exact FailsOnly.ok _
      | error e =>
          refine FailsOnly.error ?_
          rintro ⟨d, hd, hmodule⟩
          cases e with
          | decode f =>
              cases hd
              have himage : f.layer = .image := hlayer _ h f rfl
              cases himage.symm.trans hmodule
          | _ => cases hd

/-- The first match among some of the methods of a class has its place among all of them. -/
theorem getElem?_position_of_isFirst
    (hpositions : ∀ (k : Nat) x, data.methods[k]? = some x → x.position = k)
    {methods : List Dex.Method} (hsub : ∀ x ∈ methods, x ∈ data.methods) {x : Dex.Method}
    (hfirst : m.IsFirst name signature methods x) : data.methods[x.position]? = some x := by
  obtain ⟨before, after, heq, _, _⟩ := hfirst
  have hmem : x ∈ methods := heq ▸ List.mem_append_right before List.mem_cons_self
  obtain ⟨k, hk⟩ := List.getElem?_of_mem (hsub x hmem)
  rwa [hpositions k x hk]

theorem finds_of_search (hback : m.window.Backed)
    (hpositions : ∀ (k : Nat) x, data.methods[k]? = some x → x.position = k)
    {methods : List Dex.Method} (hsub : ∀ x ∈ methods, x ∈ data.methods) :
    image.Finds m c data methods name signature
      (m.search name signature methods >>= image.bound c) := by
  have hmodule := search_failsOnly hback name signature methods
  constructor
  case found =>
    intro x
    rw [bind_eq_ok]
    constructor
    · rintro ⟨found, hsearch, hbound⟩
      cases found with
      | none => cases hbound
      | some y =>
          obtain ⟨howner, rfl, hslot⟩ := bound_eq_some_iff.mp hbound
          have hfirst := search_eq_some_iff.mp hsearch
          exact ⟨howner, hfirst, getElem?_position_of_isFirst hpositions hsub hfirst, hslot⟩
    · intro h
      exact ⟨some x.method, search_eq_some_iff.mpr h.first,
        bound_eq_some_iff.mpr ⟨h.owner, rfl, h.slot⟩⟩
  case absent =>
    rw [bind_eq_ok, ← search_eq_none_iff]
    constructor
    · rintro ⟨found, hsearch, hbound⟩
      cases found with
      | none => exact hsearch
      | some y => exact absurd hbound bound_some_ne_none
    · exact fun hsearch => ⟨none, hsearch, rfl⟩
  case blocked =>
    rw [← search_error_iff]
    constructor
    · rintro ⟨e, he, hlayer⟩
      rcases bind_eq_error.mp he with h | ⟨found, _, h⟩
      · exact ⟨e, h⟩
      · exact absurd hlayer (bound_failsOnly found e h)
    · rintro ⟨e, he⟩
      exact ⟨e, bind_eq_error.mpr (.inl he), hmodule e he⟩
  case unread =>
    constructor
    · rintro ⟨e, he, hother⟩
      rcases bind_eq_error.mp he with h | ⟨found, hsearch, h⟩
      · exact absurd (hmodule e h) hother
      · cases found with
        | none => cases h
        | some y => exact ⟨y, search_eq_some_iff.mp hsearch, bound_error_iff.mp ⟨e, h⟩⟩
    · rintro ⟨y, hfirst, hslot⟩
      obtain ⟨e, he⟩ := bound_error_iff.mpr hslot
      exact ⟨e, bind_eq_error.mpr (.inr ⟨_, search_eq_some_iff.mpr hfirst, he⟩),
        bound_failsOnly (some y) e he⟩

/-! The operations search and bind. -/

/-- The virtual methods are searched if no direct one was found. -/
theorem outcome_findMethodIn : (image.findMethodIn c name signature).outcome = (do
    match ← (image.findDirectMethod c name signature).outcome with
    | some x => .ok (some x)
    | none => (image.findVirtualMethod c name signature).outcome) := by
  rw [findMethodIn, Logged.outcome_bind]
  refine congrArg _ (funext fun direct => ?_)
  cases direct with
  | some x => rfl
  | none =>
      dsimp only
      rw [Logged.outcome_bind]
      cases (image.findVirtualMethod c name signature).outcome with
      | error e => rfl
      | ok found => cases found <;> rfl

section
variable (hm : c.file.module image = .ok m)
include hm

theorem outcome_findIn {kind : String}
    {find : Dex.Module → Dex.ClassDef → Text → Text → Decode (Option Dex.Method)}
    {methods : List Dex.Method}
    (hfind : find m c.definition name signature = m.search name signature methods) :
    (image.findIn kind find c name signature).outcome =
      m.search name signature methods >>= image.bound c := by
  rw [findIn, searchLine, Logged.debug, Logged.outcome_bind, Logged.outcome_write, ok_bind,
    Logged.outcome_bind, Logged.outcome_liftM, hm, ok_bind, hfind]
  refine congrArg _ (funext fun found => ?_)
  cases found with
  | none => rfl
  | some x => exact Logged.outcome_map _ _

variable (hdata : m.classData c.definition = .ok data)
include hdata

theorem outcome_findDirectMethod : (image.findDirectMethod c name signature).outcome =
    m.search name signature data.direct >>= image.bound c :=
  outcome_findIn hm (by rw [findDirect, hdata]; rfl)

theorem outcome_findVirtualMethod : (image.findVirtualMethod c name signature).outcome =
    m.search name signature data.virtual >>= image.bound c :=
  outcome_findIn hm (by rw [findVirtual, hdata]; rfl)

/-- A method of a class is searched in both lists as in one. -/
theorem outcome_findMethodIn_methods : (image.findMethodIn c name signature).outcome =
    m.search name signature data.methods >>= image.bound c := by
  rw [outcome_findMethodIn, outcome_findDirectMethod hm hdata, outcome_findVirtualMethod hm hdata,
    Dex.ClassData.methods, search_append]
  cases m.search name signature data.direct with
  | error e => rfl
  | ok found =>
      cases found with
      | none => rfl
      | some x =>
          simp only [ok_bind]
          cases hbound : image.bound c (some x) with
          | error e => rfl
          | ok y =>
              cases y with
              | none => exact absurd hbound bound_some_ne_none
              | some y => rfl

end

/-- The searches of a class find the first match. -/
structure SearchesFirst (image : Image) (m : Dex.Module) (c : ResolvedClass)
    (data : Dex.ClassData) (name signature : Text) : Prop where
  direct : image.Finds m c data data.direct name signature
    (image.findDirectMethod c name signature).outcome
  virtual : image.Finds m c data data.virtual name signature
    (image.findVirtualMethod c name signature).outcome
  either : image.Finds m c data data.methods name signature
    (image.findMethodIn c name signature).outcome
  /-- What is found, or fails, among the direct methods is the result for both. -/
  preferred : (image.findDirectMethod c name signature).outcome ≠ .ok none →
    (image.findMethodIn c name signature).outcome =
      (image.findDirectMethod c name signature).outcome
  otherwise : (image.findDirectMethod c name signature).outcome = .ok none →
    (image.findMethodIn c name signature).outcome =
      (image.findVirtualMethod c name signature).outcome

/-- In every class whose class data decodes, a search for any name and signature finds the first
match with the slot of its position, and whether there is none, or one that cannot be told, is
decided by the methods before. -/
theorem findMethodIn_searchesFirst (hm : c.file.module image = .ok m)
    (hdata : m.classData c.definition = .ok data) (name signature : Text) :
    image.SearchesFirst m c data name signature := by
  obtain ⟨hback, hbegin, _⟩ := backed_of_load hm
  have hpositions (k : Nat) (x : Dex.Method) (hx : data.methods[k]? = some x) : x.position = k :=
    positions_of_classData hback hbegin hdata hx
  refine ⟨?_, ?_, ?_, fun hsome => ?_, fun hnone => ?_⟩
  · rw [outcome_findDirectMethod hm hdata]
    exact finds_of_search hback hpositions fun x hx => List.mem_append_left _ hx
  · rw [outcome_findVirtualMethod hm hdata]
    exact finds_of_search hback hpositions fun x hx => List.mem_append_right _ hx
  · rw [outcome_findMethodIn_methods hm hdata]
    exact finds_of_search hback hpositions fun x hx => hx
  · rw [outcome_findMethodIn]
    cases h : (image.findDirectMethod c name signature).outcome with
    | error e => rfl
    | ok found =>
        cases found with
        | some x => rfl
        | none => exact absurd h hsome
  · rw [outcome_findMethodIn, hnone]
    rfl

/-- A method that the content of a class declares is found, with its code. -/
theorem exists_found_of_declares {f : Content.File} {index : Nat} {content : Content.Class}
    (h : image.Holds c f index content) (hdistinct : content.IsDistinct) {position : Nat}
    {declared : Content.Method} (hdeclares : content.Declares name signature position declared) :
    ∃ x, (image.findMethodIn c name signature).outcome = .ok (some x) ∧
      x.slot.map CodeSlot.codeOffset = content.code.offset? position := by
  obtain ⟨found, hfound, hnone, hsome⟩ := h.findMethodIn name signature
  cases found with
  | none => exact absurd ⟨position, declared, hdeclares⟩ (hnone rfl)
  | some x =>
      obtain ⟨position', _, hdeclares', hholds⟩ := hsome x rfl
      obtain ⟨rfl, rfl⟩ := hdeclares.unique hdistinct hdeclares'
      exact ⟨x, hfound, hholds.slot⟩

/-- The class of the image with two methods is found. -/
theorem twoMethodsImage_holds :
    ∃ image c, setup (some 4096) (some 4418) (some ⟨Lookup.twoMethodsImage.toArray⟩) none =
      .ok image ∧ ∃ content ∈ Lookup.twoMethodsFile.classes, ∃ f index,
        image.Holds c f index content := by
  have hmemory : (4418 : Int) - 4096 ≤ (⟨Lookup.twoMethodsImage.toArray⟩ : ByteArray).size := by
    decide +kernel
  have hall : (⟨Lookup.twoMethodsImage.toArray⟩ : ByteArray).data.toList.take
      ((4418 : Int) - 4096).toNat = Lookup.twoMethodsImage :=
    List.take_of_length_le (by decide +kernel)
  have himage := Lookup.twoMethodsImage_isImage
  rw [← hall] at himage
  obtain ⟨image, h, hhas, _⟩ := setup_of_isImage none (by decide) hmemory himage
  obtain ⟨found, _, hnone, hsome⟩ := hhas.findClass (Lookup.twoMethodsText [0x4C, 0x41, 0x3B])
  cases found with
  | none => exact absurd ⟨Lookup.twoMethodsFile, 0, _, by decide, rfl, rfl⟩ (hnone rfl)
  | some c =>
      obtain ⟨f, index, content, hfirst, hholds⟩ := hsome c rfl
      have hf := List.mem_singleton.mp (List.mem_of_find?_eq_some hfirst.1)
      exact ⟨image, c, h, content, hf ▸ List.mem_of_getElem? hfirst.2.1, f, index, hholds⟩

/-- The direct method of the class was not compiled, and the virtual one was. Both are found. -/
theorem findMethodIn_searchesFirst_twoMethodsImage :
    ∃ image m c data, setup (some 4096) (some 4418) (some ⟨Lookup.twoMethodsImage.toArray⟩) none =
        .ok image ∧ c.file.module image = .ok m ∧ m.classData c.definition = .ok data ∧
      (∃ x, image.IsFound m c data data.methods (Lookup.twoMethodsText [0x66])
        (Text.ofString "()V") x ∧ x.slot.map CodeSlot.codeOffset = none) ∧
      ∃ y, image.IsFound m c data data.methods (Lookup.twoMethodsText [0x67])
        (Text.ofString "()V") y ∧ y.slot.map CodeSlot.codeOffset = some 0x101 := by
  obtain ⟨image, c, h, content, hcontent, f, index, hholds⟩ := twoMethodsImage_holds
  obtain ⟨m, data, hm, hdata, _⟩ := hholds.methods
  have hdistinct : Lookup.twoMethodsFile.IsDistinct := by decide
  obtain ⟨⟨_, hf⟩, ⟨_, hg⟩, hcode, hcode'⟩ :
      (∃ d, content.Declares (Lookup.twoMethodsText [0x66]) (Text.ofString "()V") 0 d) ∧
      (∃ d, content.Declares (Lookup.twoMethodsText [0x67]) (Text.ofString "()V") 1 d) ∧
      content.code.offset? 0 = none ∧ content.code.offset? 1 = some 0x101 := by
    cases List.mem_singleton.mp hcontent
    exact ⟨⟨_, rfl, rfl, by decide⟩, ⟨_, rfl, rfl, by decide⟩, rfl, rfl⟩
  obtain ⟨x, hx, hslot⟩ := exists_found_of_declares hholds (hdistinct.2 content hcontent) hf
  obtain ⟨y, hy, hslot'⟩ := exists_found_of_declares hholds (hdistinct.2 content hcontent) hg
  refine ⟨image, m, c, data, h, hm, hdata, ⟨x, ?_, hslot.trans hcode⟩, y, ?_, hslot'.trans hcode'⟩
  · exact ((findMethodIn_searchesFirst hm hdata _ _).either.found x).mp hx
  · exact ((findMethodIn_searchesFirst hm hdata _ _).either.found y).mp hy

end Image

end OatImage
