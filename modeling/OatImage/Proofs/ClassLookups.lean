import OatImage.Proofs.ClassTables
import OatImage.Proofs.MethodTables
import OatImage.Proofs.ModuleReading

/-!
# Lookups of classes

A class definition names a type by its first word, and a descriptor is looked up among the
descriptors of all definitions, each read for its first word only. The definition that is
selected is then read as a whole, as it is when it is asked for by its index. Here both lookups
are compared: what the descriptor finds is what the index of the first definition gives, nothing
is found only if every definition names another type, and the causes of a failure are listed.
-/
namespace OatImage

namespace Dex.Module

open Decode

variable {m : Module} {d : Text}

/-- The class definition with an index names the type with a descriptor: a word stands at its
start that is the index of a type with this descriptor. -/
def Names (m : Module) (index : Nat) (d : Text) : Prop :=
  ∃ type, IsWord type ∧ m.window.Bears (m.classDefAddress index) (toBytesLE 4 type) ∧
    m.typeDescriptor type = .ok d

/-- The definition is the first one that names the type with a descriptor. -/
def IsFirstOf (m : Module) (d : Text) (index : Nat) : Prop :=
  index < m.classDefs.count ∧ m.Names index d ∧ ∀ j < index, ¬ m.Names j d

theorem IsFirstOf.unique {index j : Nat} (h : m.IsFirstOf d index) (hj : m.IsFirstOf d j) :
    index = j := by
  rcases Nat.lt_trichotomy index j with hlt | heq | hlt
  · exact absurd h.2.1 (hj.2.2 index hlt)
  · exact heq
  · exact absurd hj.2.1 (h.2.2 j hlt)

/-- Each class definition names a type whose descriptor decodes. -/
def NamesAll (m : Module) : Prop := ∀ index < m.classDefs.count, ∃ d, m.Names index d

/-- Reads the descriptor that a class definition names. -/
def named (m : Module) (index : Nat) : Decode Text := do
  m.typeDescriptor (← m.u32 (m.classDefAddress index) "class_def")

section
variable (hback : m.window.Backed)
include hback

theorem named_eq_ok_iff {index : Nat} : m.named index = .ok d ↔ m.Names index d := by
  rw [named, bind_eq_ok]
  constructor
  · rintro ⟨type, htype, hd⟩
    obtain ⟨hword, hbears⟩ := hback.word_eq_ok_iff.mp (asModule_eq_ok.mp htype)
    exact ⟨type, hword, hbears, hd⟩
  · rintro ⟨type, hword, hbears, hd⟩
    exact ⟨type, asModule_eq_ok.mpr (hback.word_eq_ok_iff.mpr ⟨hword, hbears⟩), hd⟩

theorem Names.unique {index : Nat} {d' : Text} (h : m.Names index d) (h' : m.Names index d') :
    d = d' := by
  rw [← named_eq_ok_iff hback] at h h'
  exact Except.ok.inj (h.symm.trans h')

/-- The descriptors are read one by one, and the first that is not read stops the reader. -/
theorem descriptorsFrom_cases (count index : Nat) :
    (∃ all, m.descriptorsFrom count index = .ok all ∧ all.length = count ∧
      ∀ (k : Nat) d, all[k]? = some d → m.Names (index + k) d) ∨
    ∃ e k, m.descriptorsFrom count index = .error e ∧ k < count ∧ ∀ d, ¬ m.Names (index + k) d := by
  induction count generalizing index with
  | zero => exact .inl ⟨[], rfl, rfl, nofun⟩
  | succ count ih =>
      have hstep : m.descriptorsFrom (count + 1) index = (do
          let first ← m.named index
          let rest ← m.descriptorsFrom count (index + 1)
          pure (first :: rest)) := by
        rw [descriptorsFrom, named]
        cases m.u32 (m.classDefAddress index) "class_def" <;> rfl
      rw [hstep]
      cases hfirst : m.named index with
      | error e =>
          refine .inr ⟨e, 0, rfl, Nat.succ_pos count, fun d hd => ?_⟩
          rw [← named_eq_ok_iff hback, Nat.add_zero, hfirst] at hd
          cases hd
      | ok first =>
          have hnames := (named_eq_ok_iff hback).mp hfirst
          rcases ih (index + 1) with ⟨all, hall, hlen, hrest⟩ | ⟨e, k, herror, hk, hnone⟩
          · refine .inl ⟨first :: all, by rw [hall]; rfl, congrArg Nat.succ hlen, ?_⟩
            intro k d hd
            cases k with
            | zero =>
                cases hd
                exact hnames
            | succ k =>
                rw [← Nat.add_assoc, Nat.add_right_comm]
                exact hrest k d hd
          · refine .inr ⟨e, k + 1, by rw [herror]; rfl, Nat.succ_lt_succ hk, fun d hd => ?_⟩
            rw [← Nat.add_assoc, Nat.add_right_comm] at hd
            exact hnone d hd

/-- A definition that lies in the window is read if its type has a descriptor: the type is the
word at its start. -/
theorem classDef_of_contains {index : Int} (hhas : m.classDefs.has index = true)
    (hc : m.window.contains (m.classDefAddress index) 32 = true) :
    ∃ type flags superclass data, IsWord type ∧
      m.window.Bears (m.classDefAddress index) (toBytesLE 4 type) ∧
      m.classDef index = (do
        let descriptor ← m.typeDescriptor type
        pure ⟨index, type, descriptor, flags, superclass, data⟩) := by
  have hread : m.window.u32s (m.classDefAddress index) 8 "class_def" = .ok _ :=
    hback.u32s_of_contains hc
  obtain ⟨hlen, hwords, hdefinition⟩ := hback.u32s_eq_ok_iff.mp hread
  generalize m.window.words (m.window.offset (m.classDefAddress index)) (8 : Int).toNat = words
    at hread hlen hwords hdefinition
  match words with
  | [type, flags, superclass, _, _, _, data, _] =>
      rw [wordBytes, List.flatMap_cons, Region.bears_append] at hdefinition
      refine ⟨type, flags, superclass, data, hwords type List.mem_cons_self, hdefinition.1, ?_⟩
      rw [classDef, hhas, u32s, hread]
      rfl

omit hback in
theorem classDef_of_not_contains {index : Int} (hhas : m.classDefs.has index = true)
    (hc : ¬ m.window.contains (m.classDefAddress index) 32 = true) :
    ∃ e, m.classDef index = .error (Fault.asModule e) := by
  have hc' : ¬ m.window.contains (m.classDefAddress index) (8 * 4) = true := hc
  have hread : ∃ e, m.window.u32s (m.classDefAddress index) 8 "class_def" = .error e :=
    ⟨_, by rw [Region.u32s, Region.check_of_not_contains hc']; rfl⟩
  obtain ⟨e, he⟩ := hread
  refine ⟨e, ?_⟩
  rw [classDef, hhas, u32s, he]
  rfl

/-- A definition that names a type is read if all of it lies in the window. -/
theorem classDef_cases {index : Nat} (hindex : index < m.classDefs.count)
    (hnames : m.Names index d) :
    (m.window.contains (m.classDefAddress index) 32 = true ∧
      ∃ c, m.classDef index = .ok c ∧ c.descriptor = d ∧ c.index = index) ∨
    (¬ m.window.contains (m.classDefAddress index) 32 = true ∧
      ∃ e, m.classDef index = .error e) := by
  have hhas : m.classDefs.has index = true := Table.has_of_lt hindex
  obtain ⟨type, hword, hbears, hd⟩ := hnames
  by_cases hc : m.window.contains (m.classDefAddress index) 32 = true
  · obtain ⟨type', flags, superclass, data, hword', hbears', hdefinition⟩ :=
      classDef_of_contains hback hhas hc
    -- the first word of the definition is the one that was read for its descriptor
    obtain rfl : type' = type :=
      toBytesLE_inj hword' hword (hbears'.unique hbears (by simp only [length_toBytesLE]))
    refine .inl ⟨hc, ⟨index, type', d, flags, superclass, data⟩, ?_, rfl, rfl⟩
    rw [hdefinition, hd]
    rfl
  · obtain ⟨e, he⟩ := classDef_of_not_contains hhas hc
    exact .inr ⟨hc, e.asModule, he⟩

/-- A descriptor is located at the first definition that names it, once all of them name one. -/
theorem locate_cases (d : Text) :
    (m.NamesAll ∧ (∀ index < m.classDefs.count, ¬ m.Names index d) ∧ m.locate d = .ok none) ∨
    (m.NamesAll ∧ ∃ index : Nat, m.IsFirstOf d index ∧ m.locate d = some <$> m.classDef index) ∨
    (¬ m.NamesAll ∧ ∃ e, m.locate d = .error e) := by
  rw [locate, descriptors]
  rcases descriptorsFrom_cases hback m.classDefs.count 0 with
    ⟨all, hall, hlen, hnames⟩ | ⟨e, k, herror, hk, hnone⟩
  · have hat (k : Nat) (hk : k < m.classDefs.count) : m.Names k all[k] := by
      have hk' := hnames k all[k] (List.getElem?_eq_getElem (hlen.symm ▸ hk))
      rwa [Nat.zero_add] at hk'
    have hnamesAll : m.NamesAll := fun k hk => ⟨_, hat k hk⟩
    rw [hall]
    simp only [ok_bind]
    cases hfound : all.idxOf? d with
    | none =>
        refine .inl ⟨hnamesAll, fun k hk hd => ?_, rfl⟩
        have hmem := List.idxOf?_eq_none_iff.mp hfound
        rw [hd.unique hback (hat k hk)] at hmem
        exact hmem (List.getElem_mem _)
    | some index =>
        obtain ⟨hlt, rfl, hleast⟩ := List.idxOf?_eq_some_iff.mp hfound
        refine .inr (.inl ⟨hnamesAll, index, ⟨by omega, hat index (by omega), ?_⟩, ?_⟩)
        · intro j hj hd
          exact hleast j hj ((hat j (by omega)).unique hback hd)
        · show (m.classDef index >>= fun c => pure (some c)) = _
          cases m.classDef index <;> rfl
  · rw [herror]
    refine .inr (.inr ⟨fun hnamesAll => ?_, e, rfl⟩)
    obtain ⟨d', hd'⟩ := hnamesAll k hk
    rw [Nat.zero_add] at hnone
    exact hnone d' hd'

end

end Dex.Module

namespace Image

open Decode Dex.Module

variable {image : Image} {file : DexFile} {m : Dex.Module} {d : Text}

/-- Why no class is resolved by its descriptor. -/
inductive Unresolvable (image : Image) (file : DexFile) (m : Dex.Module) (d : Text) : Prop
  /-- The type of a definition, of any one, has no descriptor that decodes. -/
  | descriptor (index : Nat) (hindex : index < m.classDefs.count) (h : ∀ d', ¬ m.Names index d')
  /-- The selected definition does not lie in the module as a whole. -/
  | definition (index : Nat) (hfirst : m.IsFirstOf d index)
      (h : ¬ m.window.contains (m.classDefAddress index) 32 = true)
  | offset (index : Nat) (hfirst : m.IsFirstOf d index)
      (h : file.record.classOffsets.length ≤ index)
  | record (index o : Nat) (hfirst : m.IsFirstOf d index)
      (ho : file.record.classOffsets[index]? = some o)
      (h : ClassRecord.Unreadable image.region (image.pointer o))

/-! The class record of a definition. -/

theorem classRecord_error_iff (hr : image.region.Backed) {index : Nat} :
    (∃ e, image.classRecord file index = .error e) ↔
      file.record.classOffsets.length ≤ index ∨ ∃ o, file.record.classOffsets[index]? = some o ∧
        ClassRecord.Unreadable image.region (image.pointer o) := by
  rw [classRecord, Int.toNat_natCast]
  cases hget : file.record.classOffsets[index]? with
  | none => exact iff_of_true ⟨_, rfl⟩ (.inl (List.getElem?_eq_none_iff.mp hget))
  | some o =>
      have hlt := (List.getElem?_eq_some_iff.mp hget).choose
      dsimp only
      constructor
      · rintro ⟨e, he⟩
        obtain ⟨f, rfl⟩ := ClassRecord.decode_failsOnly hr _ e he
        exact .inr ⟨o, rfl, (ClassRecord.decode_error_iff hr _).mp ⟨f, he⟩⟩
      · rintro (hle | ⟨o', ho', hunreadable⟩)
        · omega
        · cases ho'
          obtain ⟨f, hf⟩ := (ClassRecord.decode_error_iff hr _).mpr hunreadable
          exact ⟨_, hf⟩

/-- A definition is resolved alike whether the class was asked for by descriptor or by index. -/
theorem outcome_resolve_cases (image : Image) (file : DexFile) (definition : Dex.ClassDef) :
    (∃ record, image.classRecord file definition.index = .ok record ∧
      ∀ asked, (image.resolve file definition asked).outcome = .ok ⟨file, definition, record⟩) ∨
    ∃ e, image.classRecord file definition.index = .error e ∧
      ∀ asked, ∃ e', (image.resolve file definition asked).outcome = .error e' := by
  cases h : image.classRecord file definition.index with
  | ok record =>
      refine .inl ⟨record, rfl, fun asked => ?_⟩
      rw [resolve, Logged.outcome_reporting, h]
      rfl
  | error e =>
      refine .inr ⟨e, rfl, fun asked => ?_⟩
      rw [resolve, Logged.outcome_reporting, h]
      exact ⟨_, rfl⟩

/-! The two lookups of a class in a dex file. -/

section
variable (hm : file.module image = .ok m)
include hm

theorem outcome_findClassIn : (image.findClassIn file d).outcome = (do
    match ← Decode.withContext none (some file.location) (some d) (m.locate d) with
    | none => .ok none
    | some definition => some <$> (image.resolve file definition (some d)).outcome) := by
  rw [findClassIn, Logged.outcome_bind, Logged.outcome_liftM, hm, ok_bind]
  refine congrArg _ (funext fun found => ?_)
  cases found with
  | none => rfl
  | some definition => exact Logged.outcome_map _ _

/-- Nothing is found where the module defines no class with the descriptor. -/
theorem outcome_findClassIn_of_absent (h : m.locate d = .ok none) :
    (image.findClassIn file d).outcome = .ok none := by
  rw [outcome_findClassIn hm, h]
  rfl

theorem outcome_findClassIn_of_located {definition : Dex.ClassDef} {record : ClassRecord}
    (h : m.locate d = .ok (some definition))
    (hrecord : image.classRecord file definition.index = .ok record) :
    (image.findClassIn file d).outcome = .ok (some ⟨file, definition, record⟩) := by
  rw [outcome_findClassIn hm, h]
  show some <$> (image.resolve file definition (some d)).outcome = _
  rw [resolve, Logged.outcome_reporting, hrecord]
  rfl

theorem outcome_classAt (index : Int) : (image.classAt file index).outcome = (do
    let definition ← Decode.withContext (some index) (some file.location) none (m.classDef index)
    (image.resolve file definition none).outcome) := by
  rw [classAt, Logged.outcome_bind, Logged.outcome_liftM, hm, ok_bind]

/-- A class that its index gives is not kept from being found by its descriptor. -/
theorem not_unresolvable_of_classAt (hr : image.region.Backed) (hall : m.NamesAll) {index : Nat}
    (hfirst : m.IsFirstOf d index) {c : ResolvedClass}
    (hat : (image.classAt file index).outcome = .ok c) : ¬ image.Unresolvable file m d := by
  obtain ⟨hback, _⟩ := backed_of_load hm
  rw [outcome_classAt hm] at hat
  obtain ⟨definition, hdef, hresolve⟩ := bind_eq_ok.mp hat
  rw [withContext_eq_ok] at hdef
  have hcontains : m.window.contains (m.classDefAddress index) 32 = true := by
    rcases classDef_cases hback hfirst.1 hfirst.2.1 with ⟨hc, _⟩ | ⟨_, e, he⟩
    · exact hc
    · rw [hdef] at he
      cases he
  have hreadable : ¬ ∃ e, image.classRecord file index = .error e := by
    rw [← (has_of_classDef hdef).1]
    rcases outcome_resolve_cases image file definition with
      ⟨record, hrecord, _⟩ | ⟨_, _, herror⟩
    · rw [hrecord]
      exact fun ⟨_, h⟩ => (nomatch h)
    · obtain ⟨e, he⟩ := herror none
      rw [hresolve] at he
      cases he
  rw [classRecord_error_iff hr] at hreadable
  intro hunresolvable
  cases hunresolvable with
  | descriptor j hj h =>
      obtain ⟨d', hd'⟩ := hall j hj
      exact h d' hd'
  | definition j hj h => exact h (hfirst.unique hj ▸ hcontains)
  | offset j hj h => exact hreadable (.inl (hfirst.unique hj ▸ h))
  | record j o hj ho h =>
      obtain rfl := hfirst.unique hj
      exact hreadable (.inr ⟨o, ho, h⟩)

/-- Where each definition names another type, nothing is selected that could not be read. -/
theorem not_unresolvable_of_names
    (hother : ∀ index < m.classDefs.count, ∃ d', m.Names index d' ∧ d' ≠ d) :
    ¬ image.Unresolvable file m d := by
  obtain ⟨hback, _⟩ := backed_of_load hm
  have hnone {index : Nat} (hfirst : m.IsFirstOf d index) : False := by
    obtain ⟨d', hd', hne⟩ := hother index hfirst.1
    exact hne (hd'.unique hback hfirst.2.1)
  intro hunresolvable
  cases hunresolvable with
  | descriptor j hj h =>
      obtain ⟨d', hd', _⟩ := hother j hj
      exact h d' hd'
  | definition j hj _ => exact hnone hj
  | offset j hj _ => exact hnone hj
  | record j _ hj _ _ => exact hnone hj

/-- Each definition names another type, or the first that names this one is resolved as by its
index, or there is a cause for a failure. -/
theorem findClassIn_cases (hr : image.region.Backed) (d : Text) :
    ((∀ index < m.classDefs.count, ∃ d', m.Names index d' ∧ d' ≠ d) ∧
      (image.findClassIn file d).outcome = .ok none) ∨
    (m.NamesAll ∧ ∃ (index : Nat) (c : ResolvedClass), m.IsFirstOf d index ∧ c.descriptor = d ∧
      c.index = index ∧ (image.findClassIn file d).outcome = .ok (some c) ∧
      (image.classAt file index).outcome = .ok c) ∨
    (image.Unresolvable file m d ∧ ∃ e, (image.findClassIn file d).outcome = .error e) := by
  obtain ⟨hback, _⟩ := backed_of_load hm
  rw [outcome_findClassIn hm]
  rcases locate_cases hback d with
    ⟨hall, hnone, hlocate⟩ | ⟨hall, index, hfirst, hlocate⟩ | ⟨hnotAll, e, hlocate⟩
  · refine .inl ⟨fun index hlt => ?_, by rw [hlocate]; rfl⟩
    obtain ⟨d', hd'⟩ := hall index hlt
    exact ⟨d', hd', fun heq => hnone index hlt (heq ▸ hd')⟩
  · rw [hlocate]
    rcases classDef_cases hback hfirst.1 hfirst.2.1 with
      ⟨hcontains, definition, hdef, hdescriptor, hindex⟩ | ⟨hcut, e, hdef⟩
    · rw [hdef]
      rcases outcome_resolve_cases image file definition with
        ⟨record, hrecord, hresolve⟩ | ⟨e, herror, hresolve⟩
      · refine .inr (.inl ⟨hall, index, ⟨file, definition, record⟩, hfirst, hdescriptor, hindex,
          ?_, ?_⟩)
        · show some <$> (image.resolve file definition (some d)).outcome = _
          rw [hresolve]
          rfl
        · rw [outcome_classAt hm, hdef]
          exact hresolve none
      · rw [hindex] at herror
        refine .inr (.inr ⟨?_, ?_⟩)
        · rcases (classRecord_error_iff hr).mp ⟨e, herror⟩ with hle | ⟨o, ho, hunreadable⟩
          · exact .offset index hfirst hle
          · exact .record index o hfirst ho hunreadable
        · obtain ⟨e', he'⟩ := hresolve (some d)
          refine ⟨e', ?_⟩
          show some <$> (image.resolve file definition (some d)).outcome = _
          rw [he']
          rfl
    · exact .inr (.inr ⟨.definition index hfirst hcut, _, by rw [hdef]; rfl⟩)
  · refine .inr (.inr ⟨?_, _, by rw [hlocate]; rfl⟩)
    by_contra hresolvable
    refine hnotAll fun index hindex => ?_
    by_contra hnone
    exact hresolvable (.descriptor index hindex fun d' hd' => hnone ⟨d', hd'⟩)

end

/-- What a lookup by descriptor in a dex file ends with. -/
structure ResolvesFirst (image : Image) (file : DexFile) (m : Dex.Module) (d : Text) : Prop where
  /-- What is found is the class that the index of the first definition gives. -/
  found : ∀ c, (image.findClassIn file d).outcome = .ok (some c) ↔
    m.NamesAll ∧ ∃ index : Nat, m.IsFirstOf d index ∧ c.descriptor = d ∧ c.index = index ∧
      (image.classAt file index).outcome = .ok c
  absent : (image.findClassIn file d).outcome = .ok none ↔
    ∀ index < m.classDefs.count, ∃ d', m.Names index d' ∧ d' ≠ d
  refused : (∃ e, (image.findClassIn file d).outcome = .error e) ↔ image.Unresolvable file m d
  decoding : ∀ e, (image.findClassIn file d).outcome = .error e → e.IsDecode

/-- In every dex file of an image whose module opens, the lookups by descriptor and by index
agree. -/
theorem setup_resolvesFirst {begin stop : Option Int} {memory : Option ByteArray}
    {asked : Option InstructionSet} (h : setup begin stop memory asked = .ok image)
    (hm : file.module image = .ok m) (d : Text) : image.ResolvesFirst file m d := by
  have hr := backed_of_setup h
  obtain ⟨hback, _⟩ := backed_of_load hm
  have hdecoding := findClassIn_failsOnly hr file d
  rcases findClassIn_cases hm hr d with ⟨hother, hfind⟩ |
    ⟨hall, index, c, hfirst, hdescriptor, hindex, hfind, hat⟩ | ⟨hunresolvable, e, hfind⟩
  · refine ⟨fun c => ?_, iff_of_true hfind hother, ?_, hdecoding⟩
    · rw [hfind]
      refine iff_of_false nofun fun ⟨_, index, hfirst, _⟩ => ?_
      obtain ⟨d', hd', hne⟩ := hother index hfirst.1
      exact hne (hd'.unique hback hfirst.2.1)
    · rw [hfind]
      exact iff_of_false (fun ⟨_, h⟩ => (nomatch h)) (not_unresolvable_of_names hm hother)
  · refine ⟨fun c' => ?_, ?_, ?_, hdecoding⟩
    · rw [hfind]
      constructor
      · intro heq
        cases heq
        exact ⟨hall, index, hfirst, hdescriptor, hindex, hat⟩
      · rintro ⟨_, j, hj, _, _, hat'⟩
        obtain rfl := hfirst.unique hj
        rw [hat] at hat'
        exact congrArg (Except.ok ∘ some) (Except.ok.inj hat')
    · rw [hfind]
      refine iff_of_false nofun fun hother => ?_
      obtain ⟨d', hd', hne⟩ := hother index hfirst.1
      exact hne (hd'.unique hback hfirst.2.1)
    · rw [hfind]
      exact iff_of_false (fun ⟨_, h⟩ => (nomatch h))
        (not_unresolvable_of_classAt hm hr hall hfirst hat)
  · refine ⟨fun c => ?_, ?_, iff_of_true ⟨e, hfind⟩ hunresolvable, hdecoding⟩
    · rw [hfind]
      refine iff_of_false nofun fun ⟨hall, index, hfirst, _, _, hat⟩ => ?_
      exact not_unresolvable_of_classAt hm hr hall hfirst hat hunresolvable
    · rw [hfind]
      exact iff_of_false nofun fun hother => not_unresolvable_of_names hm hother hunresolvable

/-- A module with two definitions of a class. The second one begins at the end of the module, where
there is room for its first word only. -/
def twiceModule : List UInt8 :=
  Dex.magicBytes ++ [0x30, 0x33, 0x35, 0] ++ List.replicate 24 0 ++
    wordBytes [164, 112, Dex.endianTag] ++ List.replicate 12 0 ++
    wordBytes [1, 112, 1, 116, 0, 0, 0, 0, 0, 0, 2, 128] ++ List.replicate 8 0 ++
    wordBytes [120, 0] ++ [3, 0x4C, 0x41, 0x3B, 0, 0, 0, 0] ++
    wordBytes [0, 1, 0, 0, 0, 0, 0, 0] ++ wordBytes [0]

/-- The one of them that is read. -/
def twiceClass : Dex.ClassDef := ⟨0, 0, Text.ofString "LA;", 1, 0, 0⟩

/-- What is read of that module. -/
def ReadsTwice (m : Dex.Module) : Prop :=
  m.classDefs.count = 2 ∧ m.locate (Text.ofString "LA;") = .ok (some twiceClass) ∧
    m.locate (Text.ofString "LB;") = .ok none ∧ (m.classDef 1).isOk = false

instance (m : Dex.Module) : Decidable (ReadsTwice m) := inferInstanceAs (Decidable (_ ∧ _))

def twiceImage : List UInt8 :=
  (plainHeader 1).encode ++ Record.encode [0x61] 0 93 [257, 257] ++ twiceModule ++
    ClassRecord.encode (-2) .none []

/-- The descriptor finds the first definition, as its index does, although the second one is not
read. Another descriptor is named by none of them. -/
theorem setup_resolvesFirst_twiceImage :
    ∃ image record next m c, setup (some 4096) (some 4357) (some ⟨twiceImage.toArray⟩) none =
        .ok image ∧ image.decodeNext 4168 = .ok (record, next) ∧
      DexFile.module image ⟨0, record⟩ = .ok m ∧ m.classDefs.count = 2 ∧
      m.IsFirstOf (Text.ofString "LA;") 0 ∧
      (image.findClassIn ⟨0, record⟩ (Text.ofString "LA;")).outcome = .ok (some c) ∧
      (image.classAt ⟨0, record⟩ 0).outcome = .ok c ∧
      (image.classAt ⟨0, record⟩ 1).outcome.isOk = false ∧
      ∀ index < m.classDefs.count, ∃ d, m.Names index d ∧ d ≠ Text.ofString "LB;" := by
  obtain ⟨image, h, hread⟩ := exists_setup_of_any 4096 4357 ⟨twiceImage.toArray⟩ none
    (p := fun image => LiesAt image.region 4189 twiceModule &&
      (image.decodeNext 4168).toOption.any fun reached => reached.1.dexPointer = 4189 &&
        (image.classRecord ⟨0, reached.1⟩ 0).toOption.any fun _ => true)
    (by decide) (by decide +kernel) (by decide +kernel)
  rw [Bool.and_eq_true, decide_eq_true_eq] at hread
  obtain ⟨hlies, hread⟩ := hread
  obtain ⟨⟨record, next⟩, hrecord, hread⟩ := exists_of_any hread
  rw [Bool.and_eq_true, decide_eq_true_eq] at hread
  obtain ⟨hpointer, hread⟩ := hread
  obtain ⟨classRecord, hclass, _⟩ := exists_of_any hread
  obtain ⟨m, hload, _, hm⟩ := hlies.exists_load (p := fun m => ReadsTwice m) (by decide +kernel)
  obtain ⟨hcount, hlocate, hnone, hcut⟩ := of_decide_eq_true hm
  have hm : DexFile.module image ⟨0, record⟩ = .ok m := by
    rw [← hload]
    exact congrArg (Dex.Module.load image.region) hpointer
  have hfound := outcome_findClassIn_of_located hm hlocate hclass
  obtain ⟨_, index, hnames, _, hsame, hat⟩ := ((setup_resolvesFirst h hm _).found _).mp hfound
  obtain rfl : index = 0 := Int.natCast_inj.mp hsame.symm
  have hsecond : (image.classAt ⟨0, record⟩ 1).outcome.isOk = false := by
    rw [outcome_classAt hm]
    cases hdef : m.classDef 1 with
    | error e => rfl
    | ok definition =>
        rw [hdef] at hcut
        cases hcut
  exact ⟨image, record, next, m, _, h, hrecord, hm, hcount, hnames, hfound, hat, hsecond,
    (setup_resolvesFirst h hm _).absent.mp (outcome_findClassIn_of_absent hm hnone)⟩

end Image

end OatImage
