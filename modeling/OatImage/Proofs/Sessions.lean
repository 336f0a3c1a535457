import OatImage.Proofs.Outcomes
import OatImage.Dex.Session

/-!
# Sessions answer as their module does

What a session has kept is of its module if the module gives the same for each of it. A step
computes an outcome if it ends with that outcome on everything that is of the module, and if
what is kept after it is of the module again and has the same class objects, also where the step
fails part of the way. Every question computes the answer of the module, so what was asked before
does not show: the answers are those of a session that has kept nothing but the definitions of its
class objects.
-/
namespace OatImage.Dex

open Decode

variable {α β : Type} {m : Module}

/-- The module gives what is kept. -/
structure Kept.IsOf (k : Kept) (m : Module) : Prop where
  strings : ∀ index text, k.strings.lookup index = some text → m.string index = .ok text
  descriptors : ∀ all, k.descriptors = some all → m.descriptors = .ok all
  objects : ∀ object ∈ k.objects, ∀ data, object.data = some data →
    m.classData object.definition = .ok data

theorem Kept.isOf_fresh (m : Module) (made : List ClassDef) : (Kept.fresh made).IsOf m where
  strings _ _ h := nomatch h
  descriptors _ h := nomatch h
  objects object hobject data hdata := by
    obtain ⟨c, _, rfl⟩ := List.mem_map.mp hobject
    cases hdata

@[simp] theorem Kept.made_fresh (made : List ClassDef) : (Kept.fresh made).made = made := by
  rw [Kept.made, Kept.fresh, List.map_map]
  exact List.map_id made

/-- A lookup behind a new entry finds the entry under its key and the older ones under others. -/
theorem lookup_cons_eq_some {κ ν : Type} [BEq κ] [LawfulBEq κ] {entries : List (κ × ν)}
    {key k : κ} {value v : ν} (h : List.lookup k ((key, value) :: entries) = some v) :
    (k = key ∧ v = value) ∨ List.lookup k entries = some v := by
  rw [List.lookup_cons] at h
  cases hk : k == key with
  | true =>
      rw [hk] at h
      exact .inl ⟨eq_of_beq hk, (Option.some.inj h).symm⟩
  | false =>
      rw [hk] at h
      exact .inr h

namespace Kept.IsOf

variable {k : Kept} (hk : k.IsOf m)
include hk

theorem keepString {index : Int} {text : Text} (h : m.string index = .ok text) :
    IsOf { k with strings := (index, text) :: k.strings } m :=
  { hk with
    strings := by
      intro i t hi
      rcases lookup_cons_eq_some hi with ⟨rfl, rfl⟩ | hold
      · exact h
      · exact hk.strings i t hold }

theorem keepDescriptors {all : List Text} (h : m.descriptors = .ok all) :
    IsOf { k with descriptors := some all } m :=
  { hk with
    descriptors := by
      intro all' hall
      cases hall
      exact h }

/-- A new class object has no methods yet. -/
theorem make (c : ClassDef) : IsOf { k with objects := k.objects ++ [{ definition := c }] } m :=
  { hk with
    objects := by
      intro object hobject data hdata
      rcases List.mem_append.mp hobject with hold | hnew
      · exact hk.objects object hold data hdata
      · rw [List.mem_singleton.mp hnew] at hdata
        cases hdata }

theorem keepClassData {object : ClassObject} {data : ClassData} (place : Nat)
    (h : m.classData object.definition = .ok data) :
    IsOf { k with objects := k.objects.set place { object with data := some data } } m :=
  { hk with
    objects := by
      intro object' hobject data' hdata
      rcases List.mem_or_eq_of_mem_set hobject with hold | rfl
      · exact hk.objects object' hold data' hdata
      · cases hdata
        exact h }

end Kept.IsOf

namespace Session

/-- What is kept is of the module, and the class objects have the given definitions. -/
structure Holds (m : Module) (made : List ClassDef) (k : Kept) : Prop where
  isOf : k.IsOf m
  made : k.made = made

/-- On whatever is kept of the module, with class objects of the given definitions, the step ends
with the outcome. What is kept after it is of the module and has the same class objects. -/
def Computes (m : Module) (made : List ClassDef) (x : Session α) (d : Decode α) : Prop :=
  ∀ k : Kept, Holds m made k → (x.run.run k).1 = d ∧ Holds m made (x.run.run k).2

variable {made : List ClassDef}

theorem Computes.pure (a : α) : Computes m made (Pure.pure a) (.ok a) :=
  fun _ hk => ⟨rfl, hk⟩

theorem Computes.read (d : Decode α) : Computes m made (read d) d :=
  fun _ hk => ⟨rfl, hk⟩

/-! One step after another. Where the first fails, what it kept is left as it is. -/

theorem run_bind_of_ok {x : Session α} (f : α → Session β) {k : Kept} {a : α}
    (hx : (x.run.run k).1 = .ok a) :
    (x >>= f).run.run k = (f a).run.run (x.run.run k).2 := by
  rw [ExceptT.run_bind, StateT.run_bind]
  revert hx
  rcases x.run.run k with ⟨outcome, after⟩
  rintro rfl
  rfl

theorem run_bind_of_error {x : Session α} (f : α → Session β) {k : Kept} {e : Fault}
    (hx : (x.run.run k).1 = .error e) :
    (x >>= f).run.run k = (.error e, (x.run.run k).2) := by
  rw [ExceptT.run_bind, StateT.run_bind]
  revert hx
  rcases x.run.run k with ⟨outcome, after⟩
  rintro rfl
  rfl

theorem Computes.bind {x : Session α} {f : α → Session β} {d : Decode α} {g : α → Decode β}
    (hx : Computes m made x d) (hf : ∀ a, d = .ok a → Computes m made (f a) (g a)) :
    Computes m made (x >>= f) (d >>= g) := by
  intro k hk
  obtain ⟨houtcome, hafter⟩ := hx k hk
  cases d with
  | ok a =>
      rw [run_bind_of_ok f houtcome]
      exact hf a rfl _ hafter
  | error e =>
      rw [run_bind_of_error f houtcome]
      exact ⟨rfl, hafter⟩

/-- A step that begins with a look at what is kept. -/
theorem Computes.get_bind {f : Kept → Session β} {d : Decode β}
    (hf : ∀ k : Kept, Holds m made k → Computes m made (f k) d) :
    Computes m made (get >>= f) d :=
  fun k hk => hf k hk k hk

/-- A step that keeps what it has computed. -/
theorem Computes.keep {x : Session α} {d : Decode α} {f : α → Kept → Kept}
    (hx : Computes m made x d)
    (hf : ∀ a, d = .ok a → ∀ k : Kept, Holds m made k → Holds m made (f a k)) :
    Computes m made (do
      let a ← x
      modify (f a)
      Pure.pure a) d := by
  have hd : d >>= Pure.pure = d := by cases d <;> rfl
  rw [← hd]
  refine hx.bind fun a ha => ?_
  intro k hk
  exact ⟨rfl, hf a ha k hk⟩

theorem Computes.ite {c : Prop} [Decidable c] {x y : Session α} {d e : Decode α}
    (hx : c → Computes m made x d) (hy : ¬ c → Computes m made y e) :
    Computes m made (if c then x else y) (if c then d else e) := by
  by_cases hc : c
  · rw [if_pos hc, if_pos hc]
    exact hx hc
  · rw [if_neg hc, if_neg hc]
    exact hy hc

/-! Each step of a session computes the answer of the module. -/

variable (m made)

theorem string_computes (index : Int) : Computes m made (string m index) (m.string index) := by
  apply Computes.get_bind
  intro k hk
  cases hlookup : List.lookup index k.strings with
  | some text =>
      rw [hk.isOf.strings index text hlookup]
      exact Computes.pure text
  | none =>
      exact (Computes.read (m.string index)).keep
        fun text h k hk => ⟨hk.isOf.keepString h, hk.made⟩

theorem typeDescriptor_computes (index : Int) :
    Computes m made (typeDescriptor m index) (m.typeDescriptor index) :=
  (Computes.read (m.typeName index)).bind fun name _ => string_computes m made name

theorem methodName_computes (index : Int) :
    Computes m made (methodName m index) (m.methodName index) :=
  (Computes.read (m.methodId index)).bind fun id _ => string_computes m made id.name

theorem typeList_computes (count : Nat) (address : Int) :
    Computes m made (typeList m count address) (m.typeList count address) := by
  induction count generalizing address with
  | zero => exact Computes.pure []
  | succ count ih =>
      refine (Computes.read (m.u16 address "type_list")).bind fun index _ => ?_
      refine (typeDescriptor_computes m made index).bind fun first _ => ?_
      exact (ih (address + 2)).bind fun rest _ => Computes.pure (first :: rest)

theorem parameters_computes (p : Module.Prototype) :
    Computes m made (parameters m p) (m.parameters p) := by
  refine Computes.ite (fun _ => Computes.pure []) fun _ => ?_
  refine (Computes.read (m.u32 (m.addressOf p.parameters) "type_list")).bind fun count _ => ?_
  exact typeList_computes m made count _

theorem methodSignature_computes (index : Int) :
    Computes m made (methodSignature m index) (m.methodSignature index) := by
  refine (Computes.read (m.methodId index)).bind fun id _ => ?_
  refine (Computes.read (m.prototype id.prototype)).bind fun p _ => ?_
  refine (parameters_computes m made p).bind fun parameters _ => ?_
  exact (typeDescriptor_computes m made p.result).bind fun result _ => Computes.pure _

theorem classDef_computes (index : Int) :
    Computes m made (classDef m index) (m.classDef index) := by
  refine Computes.ite (fun _ => Computes.read _) fun _ => ?_
  refine (Computes.read (m.u32s (m.classDefAddress index) 8 "class_def")).bind fun words _ => ?_
  match words with
  | [typeIndex, _, _, _, _, _, _, _] =>
      exact (typeDescriptor_computes m made typeIndex).bind fun descriptor _ => Computes.pure _
  | [] | [_] | [_, _] | [_, _, _] | [_, _, _, _] | [_, _, _, _, _] | [_, _, _, _, _, _]
  | [_, _, _, _, _, _, _] | _ :: _ :: _ :: _ :: _ :: _ :: _ :: _ :: _ :: _ =>
      exact Computes.read _

/-- A class object keeps both lists of methods at once, after both were read. -/
theorem classData_computes {place : Nat} {object : ClassObject} {k : Kept}
    (hk : Holds m made k) (hobject : k.objects[place]? = some object) :
    Computes m made (classData m place object) (m.classData object.definition) := by
  unfold classData
  cases hdata : object.data with
  | some data =>
      rw [hk.isOf.objects object (List.mem_of_getElem? hobject) data hdata]
      exact Computes.pure data
  | none =>
      have hplace : made[place]? = some object.definition := by
        rw [← hk.made, Kept.made, List.getElem?_map, hobject]
        rfl
      refine (Computes.read (m.classData object.definition)).keep fun data h k hk => ?_
      refine ⟨hk.isOf.keepClassData place h, ?_⟩
      -- the definition at the place is the one that it was
      obtain ⟨hlt, hget⟩ := List.getElem?_eq_some_iff.mp hplace
      rw [Kept.made, List.map_set, ← Kept.made, hk.made, ← hget, List.set_getElem_self]

theorem descriptorsFrom_computes (count index : Nat) :
    Computes m made (descriptorsFrom m count index) (m.descriptorsFrom count index) := by
  induction count generalizing index with
  | zero => exact Computes.pure []
  | succ count ih =>
      refine (Computes.read (m.u32 (m.classDefAddress index) "class_def")).bind fun type _ => ?_
      refine (typeDescriptor_computes m made type).bind fun first _ => ?_
      exact (ih (index + 1)).bind fun rest _ => Computes.pure (first :: rest)

/-- The descriptors are kept only if all of them were readable. The strings that were read
before one was not are kept all the same. -/
theorem descriptors_computes : Computes m made (descriptors m) m.descriptors := by
  apply Computes.get_bind
  intro k hk
  cases hkept : k.descriptors with
  | some all =>
      rw [hk.isOf.descriptors all hkept]
      exact Computes.pure all
  | none =>
      exact (descriptorsFrom_computes m made m.classDefs.count 0).keep
        fun all h k hk => ⟨hk.isOf.keepDescriptors h, hk.made⟩

theorem locate_computes (descriptor : Text) :
    Computes m made (locate m descriptor) (m.locate descriptor) := by
  refine (descriptors_computes m made).bind fun all _ => ?_
  cases all.idxOf? descriptor with
  | none => exact Computes.pure none
  | some index => exact (classDef_computes m made index).bind fun c _ => Computes.pure (some c)

theorem search_computes (name signature : Text) (ms : List Method) :
    Computes m made (search m name signature ms) (m.search name signature ms) := by
  induction ms with
  | nil => exact Computes.pure none
  | cons first rest ih =>
      refine (methodName_computes m made first.index).bind fun itsName _ => ?_
      refine Computes.ite (fun _ => ?_) fun _ => ih
      refine (methodSignature_computes m made first.index).bind fun itsSignature _ => ?_
      exact Computes.ite (fun _ => Computes.pure (some first)) fun _ => ih

/-- As `Computes`, for a question: what it makes is the one more class object that there is after
the answer. -/
def Answers (m : Module) (made : List ClassDef) (x : Session Answer) (d : Decode Answer) : Prop :=
  ∀ k : Kept, Holds m made k → (x.run.run k).1 = d ∧ Holds m (madeAfter made d) (x.run.run k).2

variable {m made}

theorem Answers.pure {answer : Answer} (h : madeAfter made (.ok answer) = made) :
    Answers m made (Pure.pure answer) (.ok answer) := by
  intro k hk
  rw [h]
  exact ⟨rfl, hk⟩

theorem Answers.make (c : ClassDef) {answer : Answer}
    (h : madeAfter made (.ok answer) = made ++ [c]) :
    Answers m made (do make c; Pure.pure answer) (.ok answer) := by
  intro k hk
  refine ⟨rfl, hk.isOf.make c, ?_⟩
  rw [h, ← hk.made]
  exact List.map_append

/-- A step before a question makes nothing, and a failure of it is the answer. -/
theorem Answers.bind {x : Session α} {d : Decode α} {f : α → Session Answer}
    {g : α → Decode Answer} (hx : Computes m made x d)
    (hf : ∀ a, Answers m made (f a) (g a)) : Answers m made (x >>= f) (d >>= g) := by
  intro k hk
  obtain ⟨houtcome, hafter⟩ := hx k hk
  cases d with
  | ok a =>
      rw [run_bind_of_ok f houtcome]
      exact hf a _ hafter
  | error e =>
      rw [run_bind_of_error f houtcome]
      exact ⟨rfl, hafter⟩

theorem run_ofObject (place : Nat) (f : ClassData → Session Answer) (k : Kept) :
    (ofObject m place f).run.run k = ExceptT.run (match k.objects[place]? with
      | none => (Pure.pure .noObject : Session Answer)
      | some object => classData m place object >>= f) k := rfl

/-- A question about a class object is one about its definition. -/
theorem ofObject_answers (place : Nat) {f : ClassData → Session Answer}
    {g : ClassData → Decode Answer} (hf : ∀ data, Answers m made (f data) (g data)) :
    Answers m made (ofObject m place f) (m.ofObject made place g) := by
  intro k hk
  have hplace : made[place]? = (k.objects[place]?).map ClassObject.definition := by
    rw [← hk.made, Kept.made, List.getElem?_map]
  rw [run_ofObject, Module.ofObject, hplace]
  cases hobject : k.objects[place]? with
  | none => exact Answers.pure rfl k hk
  | some object => exact Answers.bind (classData_computes m made hk hobject) hf k hk

variable (m made)

theorem find_answers (place : Nat) (name signature : Text) (list : ClassData → List Method) :
    Answers m made
      (ofObject m place fun data => do
        Pure.pure (Answer.found (← search m name signature (list data))))
      (m.ofObject made place fun data => do
        Pure.pure (Answer.found (← m.search name signature (list data)))) :=
  ofObject_answers place fun data =>
    Answers.bind (search_computes m made name signature (list data)) fun _ => Answers.pure rfl

/-- A question gets the answer of the module. -/
theorem answer_answers (q : Question) : Answers m made (answer m q) (m.answer made q) := by
  cases q with
  | locate descriptor =>
      refine Answers.bind (locate_computes m made descriptor) fun located => ?_
      cases located with
      | none => exact Answers.pure rfl
      | some c => exact Answers.make c rfl
  | classDef index =>
      exact Answers.bind (classDef_computes m made index) fun c => Answers.make c rfl
  | string index => exact Answers.bind (string_computes m made index) fun _ => Answers.pure rfl
  | typeDescriptor index =>
      exact Answers.bind (typeDescriptor_computes m made index) fun _ => Answers.pure rfl
  | methodName index =>
      exact Answers.bind (methodName_computes m made index) fun _ => Answers.pure rfl
  | methodSignature index =>
      exact Answers.bind (methodSignature_computes m made index) fun _ => Answers.pure rfl
  | directMethods place => exact ofObject_answers place fun _ => Answers.pure rfl
  | virtualMethods place => exact ofObject_answers place fun _ => Answers.pure rfl
  | findDirect place name signature => exact find_answers m made place name signature _
  | findVirtual place name signature => exact find_answers m made place name signature _

theorem ask_fresh (q : Question) : (ask m (.fresh made) q).1 = m.answer made q :=
  (answer_answers m made q (.fresh made) ⟨Kept.isOf_fresh m made, Kept.made_fresh made⟩).1

/-- Asked after anything that is of the module, questions get the outcomes that each of them gets
where nothing was read before. -/
theorem answers_of_isOf {k : Kept} (hk : k.IsOf m) (qs : List Question) :
    answers m k qs = freshAnswers m k.made qs := by
  induction qs generalizing k with
  | nil => rfl
  | cons q rest ih =>
      obtain ⟨hanswer, hafter⟩ := answer_answers m k.made q k ⟨hk, rfl⟩
      show (ask m k q).1 :: answers m (ask m k q).2 rest =
        (ask m (.fresh k.made) q).1 ::
          freshAnswers m (madeAfter k.made (ask m (.fresh k.made) q).1) rest
      rw [ask_fresh, ask, hanswer, ih hafter.isOf, hafter.made]

/-- Asked one after the other, in any order and with failures among them, questions get the
outcomes that each of them gets in a session that has read nothing and has the same class objects,
and these are the module's answers. -/
theorem answers_eq_fresh (qs : List Question) :
    answers m (.fresh made) qs = freshAnswers m made qs ∧
      ∀ made q, (ask m (.fresh made) q).1 = m.answer made q := by
  refine ⟨?_, ask_fresh m⟩
  rw [answers_of_isOf m (Kept.isOf_fresh m made), Kept.made_fresh]

end Session

end OatImage.Dex
