import OatImage.Proofs.Attribution

/-!
# Failures of an access by index

A class that is asked for by the index of its definition fails with this index and with the
location of the dex file, whatever the cause. There is one exception, since an index that a
failure has is kept: a definition has the index of a type, and a type that of a string, and the
failure to find one of them in its table has the index that was looked up there.
-/
namespace OatImage

open Decode Fault

/-- What is read of a module as bytes fails without an index of its own. -/
theorem Decode.asModule_isBare {α : Type} (d : Decode α) :
    FailsOnly (IfDecode DecodeFault.IsBare) d.asModule := by
  cases d with
  | ok a => exact FailsOnly.ok a
  | error e =>
      apply FailsOnly.error
      intro d hd
      cases e with
      | decode _ =>
          cases hd
          exact ⟨rfl, rfl, rfl⟩
      | _ => cases hd

namespace Dex

theorem Table.not_has_of_le {t : Table} {index : Nat} (h : t.count ≤ index) :
    t.has index = false := by
  rw [Table.has, Bool.and_eq_false_iff, decide_eq_false_iff_not, decide_eq_false_iff_not]
  omega

namespace Module

variable {m : Module} {index : Int} {type k : Nat}

/-- The index that is not found where the descriptor of a type is looked up: that of the type
itself, or that of the string which the table of types has for it. -/
inductive StrayType (m : Module) (type : Nat) : Nat → Prop
  | type (h : m.types.count ≤ type) : StrayType m type type
  | string {string : Nat} (htype : type < m.types.count) (hword : IsWord string)
      (hbears : m.window.Bears (m.addressOf (m.types.offset + type * 4)) (toBytesLE 4 string))
      (h : m.strings.count ≤ string) : StrayType m type string

/-- The index that is not found where the descriptor of a class definition is looked up. The
definition itself is there. -/
inductive StrayClass (m : Module) (index : Int) (k : Nat) : Prop
  | intro {type : Nat} (hhas : m.classDefs.has index = true)
      (hcontains : m.window.contains (m.classDefAddress index) 32 = true) (hword : IsWord type)
      (hbears : m.window.Bears (m.classDefAddress index) (toBytesLE 4 type))
      (hstray : m.StrayType type k) : StrayClass m index k

/-! Strings. -/

theorem stringData_isBare (offset : Nat) :
    FailsOnly (IfDecode DecodeFault.IsBare) (m.stringData offset) := by
  refine (asModule_isBare _).bind fun start _ => FailsOnly.ite ?_ fun _ => ?_
  · exact fun _ => FailsOnly.error (inModule_isLocal _ _).isBare
  · refine (m.window.readBytes_failsOnly_of isBare_holdsOfReads _ _ _).bind fun bytes _ => ?_
    cases ModifiedUtf8.decode bytes with
    | ok text => exact FailsOnly.pure text
    | error flaw => exact FailsOnly.error (inModule_isLocal _ _).isBare

theorem string_isBare (h : k < m.strings.count) :
    FailsOnly (IfDecode DecodeFault.IsBare) (m.string k) := by
  rw [string, Table.has_of_lt h]
  exact (asModule_isBare _).bind fun _ _ => stringData_isBare _

theorem string_of_le (h : m.strings.count ≤ k) : m.string k = .error (.ofIndex .noString k) := by
  rw [string, Table.not_has_of_le h]
  rfl

/-! Types. -/

section
variable (hback : m.window.Backed)
include hback

theorem typeDescriptor_of_stray (h : m.StrayType type k) :
    ∃ cause, m.typeDescriptor type = .error (.ofIndex cause k) := by
  cases h with
  | type h =>
      refine ⟨.noType, ?_⟩
      rw [typeDescriptor, typeName, Table.not_has_of_le h]
      rfl
  | string htype hword hbears h =>
      have hname : m.typeName type = .ok k := by
        rw [typeName, Table.has_of_lt htype]
        exact asModule_eq_ok.mpr (hback.word_eq_ok_iff.mpr ⟨hword, hbears⟩)
      refine ⟨.noString, ?_⟩
      rw [typeDescriptor, hname, ok_bind, string_of_le h]

theorem typeDescriptor_isBare (h : ∀ k, ¬ m.StrayType type k) :
    FailsOnly (IfDecode DecodeFault.IsBare) (m.typeDescriptor type) := by
  have htype : type < m.types.count := Nat.lt_of_not_le fun hle => h type (.type hle)
  rw [typeDescriptor, typeName, Table.has_of_lt htype]
  refine (asModule_isBare _).bind fun name hname => string_isBare ?_
  obtain ⟨hword, hbears⟩ := hback.word_eq_ok_iff.mp (asModule_eq_ok.mp hname)
  exact Nat.lt_of_not_le fun hle => h name (.string htype hword hbears hle)

/-! Class definitions. -/

theorem classDef_of_stray (h : m.StrayClass index k) :
    ∃ cause, m.classDef index = .error (.ofIndex cause k) := by
  obtain ⟨hhas, hcontains, hword, hbears, hstray⟩ := h
  obtain ⟨type, flags, superclass, data, hword', hbears', hdefinition⟩ :=
    classDef_of_contains hback hhas hcontains
  rw [toBytesLE_inj hword' hword (hbears'.unique hbears (by simp only [length_toBytesLE]))]
    at hdefinition
  obtain ⟨cause, htype⟩ := typeDescriptor_of_stray hback hstray
  refine ⟨cause, ?_⟩
  rw [hdefinition, htype]
  rfl

/-- A definition that is missing fails with its own index, and one that is read without an index,
as long as its type does not stray. -/
theorem classDef_failsOnly_of (h : ∀ k, ¬ m.StrayClass index k) :
    FailsOnly (IfDecode fun d => d.location = none ∧ (d.index = none ∨ d.index = some index))
      (m.classDef index) := by
  have hbare : ∀ e : Fault, e.IfDecode DecodeFault.IsBare →
      e.IfDecode fun d => d.location = none ∧ (d.index = none ∨ d.index = some index) :=
    fun e he d hd => ⟨(he d hd).2.1, .inl (he d hd).1⟩
  cases hhas : m.classDefs.has index with
  | false =>
      rw [classDef, hhas]
      apply FailsOnly.error
      intro d hd
      cases hd
      exact ⟨rfl, .inr rfl⟩
  | true =>
      by_cases hc : m.window.contains (m.classDefAddress index) 32 = true
      · obtain ⟨type, _, _, _, hword, hbears, hdefinition⟩ := classDef_of_contains hback hhas hc
        rw [hdefinition]
        refine ((typeDescriptor_isBare hback fun k hk => ?_).mono hbare).bind fun _ _ =>
          FailsOnly.pure _
        exact h k ⟨hhas, hc, hword, hbears, hk⟩
      · obtain ⟨e, he⟩ := classDef_of_not_contains hhas hc
        rw [he]
        exact (asModule_isBare (.error e)).mono hbare

end

end Module

end Dex

namespace Image

open Dex.Module

variable {image : Image} {file : DexFile} {m : Dex.Module} {index : Int} {k : Nat}

/-- What a failure says of the class that was asked for by the index of its definition. -/
structure IndexesFailures (image : Image) (file : DexFile) (m : Dex.Module) (index : Int) :
    Prop where
  location : ∀ e, (image.classAt file index).outcome = .error (.decode e) →
    e.location = some file.location
  asked : (∀ k, ¬ m.StrayClass index k) →
    ∀ e, (image.classAt file index).outcome = .error (.decode e) → e.index = some index
  /-- An index that is beyond the table of types or that of strings comes first. -/
  stray : ∀ k : Nat, m.StrayClass index k →
    ∃ e, (image.classAt file index).outcome = .error (.decode e) ∧ e.index = some (k : Int)

section
variable (hm : file.module image = .ok m)
include hm

theorem outcome_classAt_of_stray (h : m.StrayClass index k) :
    ∃ e, (image.classAt file index).outcome = .error (.decode e) ∧ e.index = some (k : Int) ∧
      e.location = some file.location := by
  obtain ⟨hback, _⟩ := backed_of_load hm
  obtain ⟨cause, hdefinition⟩ := classDef_of_stray hback h
  rw [outcome_classAt hm, hdefinition]
  exact ⟨_, rfl, rfl, rfl⟩

/-- Either the definition is not read, or its class record is not. -/
theorem outcome_classAt_of_not_stray (h : ∀ k, ¬ m.StrayClass index k) {e : DecodeFault}
    (he : (image.classAt file index).outcome = .error (.decode e)) :
    e.index = some index ∧ e.location = some file.location := by
  obtain ⟨hback, _⟩ := backed_of_load hm
  have hdefined : image.defined file index = m.classDef index := by rw [defined, hm, ok_bind]
  rcases (classAt_failsBy file index).blames e he with hmodule | ⟨d, a, hblame, hattributes⟩
  · rw [hdefined] at hmodule
    have hfails := classDef_failsOnly_of hback h
    cases hdefinition : m.classDef index with
    | ok definition =>
        rw [hdefinition] at hmodule
        cases hmodule
    | error fault =>
        rw [hdefinition] at hmodule hfails
        cases fault with
        | decode d =>
            obtain ⟨hlocation, hindex⟩ := hfails _ rfl d rfl
            cases hmodule
            refine ⟨?_, by rw [DecodeFault.withContext, hlocation, Option.none_or]⟩
            rcases hindex with hindex | hindex <;> rw [DecodeFault.withContext, hindex] <;> rfl
        | _ => cases hmodule
  · obtain ⟨hdefinition, hblame⟩ := hblame
    cases hblame
    rw [hdefined] at hdefinition
    rw [hattributes.outcome] at he
    cases he
    exact ⟨congrArg some (has_of_classDef hdefinition).1, rfl⟩

end

/-- In every dex file of an image whose module opens, an access by index fails with the index
that was asked for, or with the one that the type of the definition leads astray to. -/
theorem classAt_indexesFailures (hm : file.module image = .ok m) (index : Int) :
    image.IndexesFailures file m index where
  location e he := by
    by_cases h : ∃ k, m.StrayClass index k
    · obtain ⟨k, hk⟩ := h
      obtain ⟨e', he', _, hlocation⟩ := outcome_classAt_of_stray hm hk
      rw [he] at he'
      cases he'
      exact hlocation
    · exact (outcome_classAt_of_not_stray hm (not_exists.mp h) he).2
  asked h e he := (outcome_classAt_of_not_stray hm h he).1
  stray k hk := by
    obtain ⟨e, he, hindex, _⟩ := outcome_classAt_of_stray hm hk
    exact ⟨e, he, hindex⟩

/-- A module without types, and the definition of a class with the type 7. -/
def strayModule : List UInt8 :=
  Dex.magicBytes ++ [0x30, 0x33, 0x35, 0] ++ List.replicate 24 0 ++
    wordBytes [144, 112, Dex.endianTag] ++ List.replicate 12 0 ++
    wordBytes [0, 0, 0, 0, 0, 0, 0, 0, 0, 0, 1, 112] ++ List.replicate 8 0 ++
    wordBytes [7, 0, 0, 0, 0, 0, 0, 0]

def strayImage : List UInt8 :=
  (plainHeader 1).encode ++ Record.encode [0x61] 0 89 [0] ++ strayModule

/-- Of the classes 0 and 1, the first one is defined and its type is not, and the second one is
not defined. -/
theorem setup_strayImage :
    ∃ image file m first second, setup (some 4096) (some 4329) (some ⟨strayImage.toArray⟩) none =
        .ok image ∧ image.fileAt 0 = .ok file ∧ file.module image = .ok m ∧
      m.classDefs.count = 1 ∧
      (image.classAt file 0).outcome = .error (.decode first) ∧ first.index = some 7 ∧
      (image.classAt file 1).outcome = .error (.decode second) := by
  obtain ⟨image, h, hread⟩ := exists_setup_of_any 4096 4329 ⟨strayImage.toArray⟩ none
    (p := fun image => LiesAt image.region 4185 strayModule &&
      (image.fileAt 0).toOption.any fun file => file.record.dexPointer = 4185)
    (by decide) (by decide +kernel) (by decide +kernel)
  rw [Bool.and_eq_true, decide_eq_true_eq] at hread
  obtain ⟨hlies, hread⟩ := hread
  obtain ⟨file, hfile, hpointer⟩ := exists_of_any hread
  obtain ⟨m, hload, _, hread⟩ := hlies.exists_load (p := fun m => decide
    (m.classDefs.count = 1 ∧ m.classDef 0 = .error (.ofIndex .noType 7) ∧
      m.classDef 1 = .error (.ofIndex (.noClassDef 1) 1))) (by decide +kernel)
  obtain ⟨hcount, hfirst, hsecond⟩ := of_decide_eq_true hread
  have hm : file.module image = .ok m := by
    rw [DexFile.module, of_decide_eq_true hpointer, hload]
  have hat := outcome_classAt hm 0
  have hat' := outcome_classAt hm 1
  rw [hfirst] at hat
  rw [hsecond] at hat'
  exact ⟨image, file, m, _, _, h, hfile, hm, hcount, hat, rfl, hat'⟩

/-- The class that is not defined is the one that the failure names. -/
theorem classAt_indexesFailures_strayImage :
    ∃ image file m e, setup (some 4096) (some 4329) (some ⟨strayImage.toArray⟩) none = .ok image ∧
      file.module image = .ok m ∧ (image.classAt file 1).outcome = .error (.decode e) ∧
      e.index = some 1 ∧ e.location = some file.location := by
  obtain ⟨image, file, m, _, e, h, _, hm, hcount, _, _, he⟩ := setup_strayImage
  have hfails := classAt_indexesFailures hm 1
  refine ⟨image, file, m, e, h, hm, he, hfails.asked (fun k hk => ?_) e he, hfails.location e he⟩
  -- there is one definition, and it is not the second
  obtain ⟨hhas, _⟩ := hk
  rw [Dex.Table.has, hcount] at hhas
  cases hhas

/-- The class whose type is not defined is not the one that the failure names. -/
theorem classAt_index_strayImage :
    ∃ image file m e, setup (some 4096) (some 4329) (some ⟨strayImage.toArray⟩) none = .ok image ∧
      image.fileAt 0 = .ok file ∧ file.module image = .ok m ∧
      (image.classAt file 0).outcome = .error (.decode e) ∧ e.index ≠ some 0 := by
  obtain ⟨image, file, m, e, _, h, hfile, hm, _, he, hindex, _⟩ := setup_strayImage
  refine ⟨image, file, m, e, h, hfile, hm, he, ?_⟩
  rw [hindex]
  decide

end Image

end OatImage
