import OatImage.Proofs.ClassLookups
import OatImage.Proofs.ErrorEntries
import OatImage.Proofs.SinglePass

/-!
# Attribution of failures

Where a record of the image does not decode, the failure of the read comes out of an operation
with the number of the record, and with the location and the descriptor that it was asked for
by; its cause, its layer and its address stay those of the read, and one error is written, with
the same attribution. A read knows nothing but the address, so nothing it says is overwritten.
What an operation can fail with apart from that are the failures of modules. `FailsBy` says so
of a step, and each way of putting steps together keeps it.
-/
namespace OatImage

open Decode Fault

/-- The record that a failure is attributed to. -/
structure Attribution where
  index : Int
  location : Option String
  descriptor : Option Text

/-- Which failures of reads are attributed to which record. -/
abbrev Blame := DecodeFault → Attribution → Prop

/-- No record is known of the failure. -/
def DecodeFault.IsBare (d : DecodeFault) : Prop :=
  d.index = none ∧ d.location = none ∧ d.descriptor = none

/-- The failure of a read with the record that it is attributed to. -/
def DecodeFault.of (d : DecodeFault) (a : Attribution) : DecodeFault :=
  { d with index := some a.index, location := a.location, descriptor := a.descriptor }

theorem DecodeFault.IsBare.withContext {d : DecodeFault} (h : d.IsBare) (a : Attribution) :
    d.withContext (some a.index) a.location a.descriptor = d.of a := by
  obtain ⟨hindex, hlocation, hdescriptor⟩ := h
  rw [DecodeFault.withContext, hindex, hlocation, hdescriptor]
  rfl

theorem Fault.IsLocal.isBare {e : Fault} (h : e.IsLocal) : e.IfDecode DecodeFault.IsBare := by
  obtain ⟨d, rfl, hd⟩ := h
  intro d' hd'
  cases hd'
  exact hd

theorem Fault.isBare_holdsOfReads : HoldsOfReads (IfDecode DecodeFault.IsBare) where
  decode cause address _ := by
    intro d hd
    cases hd
    exact ⟨rfl, rfl, rfl⟩
  broken := broken_ifDecode

/-- An error about a record. -/
structure Entry.IsAbout (entry : Entry) (a : Attribution) : Prop where
  level : entry.level = .error
  index : entry.context.index = some a.index
  location : entry.context.location = a.location
  descriptor : entry.context.descriptor = a.descriptor

namespace Logged

variable {α β : Type} {x : Logged α} {P Q : Blame} {M N : DecodeFault → Prop}

/-- The errors that a step writes. -/
def errors (x : Logged α) : List Entry := x.entries.filter fun entry => entry.level = .error

/-- A step fails as a read does, the failure is attributed to a record, and one error about the
record is written. -/
structure Attributes (x : Logged α) (d : DecodeFault) (a : Attribution) : Prop where
  outcome : x.outcome = .error (.decode (d.of a))
  errors : ∃ entry, x.errors = [entry] ∧ entry.IsAbout a

/-- A step that answers writes no error. One that fails in decoding fails with what a module
fails with, or else with the failure of a read, attributed to its record. -/
structure FailsBy (x : Logged α) (P : Blame) (M : DecodeFault → Prop) : Prop where
  silent : ∀ a, x.outcome = .ok a → x.errors = []
  blames : ∀ e, x.outcome = .error (.decode e) → M e ∨ ∃ d a, P d a ∧ x.Attributes d a

theorem FailsBy.mono (h : x.FailsBy P M) (hP : ∀ d a, P d a → Q d a) (hM : ∀ e, M e → N e) :
    x.FailsBy Q N := by
  refine ⟨h.silent, fun e he => ?_⟩
  rcases h.blames e he with hmodule | ⟨d, a, hblame, hattributes⟩
  · exact .inl (hM e hmodule)
  · exact .inr ⟨d, a, hP d a hblame, hattributes⟩

theorem FailsBy.pure (a : α) : (Pure.pure a : Logged α).FailsBy P M :=
  ⟨fun _ _ => rfl, fun _ he => nomatch he⟩

theorem FailsBy.fail {e : Fault} (h : e.IfDecode fun _ => False) :
    (fail e : Logged α).FailsBy P M := by
  refine ⟨fun _ ha => (nomatch ha), fun d hd => ?_⟩
  cases hd
  exact (h d rfl).elim

theorem FailsBy.debug (message : Text) : (debug message).FailsBy P M :=
  ⟨fun _ _ => rfl, fun _ he => nomatch he⟩

theorem FailsBy.ofDecode {d : Decode α} (h : ∀ e, d = .error (.decode e) → M e) :
    (liftM d : Logged α).FailsBy P M :=
  ⟨fun _ _ => rfl, fun e he => .inl (h e he)⟩

/-- A step that fails as another one does, after the same entries. -/
theorem FailsBy.of_same {y : Logged β} (h : y.FailsBy P M) (hentries : x.entries = y.entries)
    (hfail : ∀ e, x.outcome = .error e ↔ y.outcome = .error e) : x.FailsBy P M := by
  have herrors : x.errors = y.errors := by rw [errors, errors, hentries]
  constructor
  · intro a ha
    cases hy : y.outcome with
    | ok b => rw [herrors, h.silent b hy]
    | error e => exact nomatch ha.symm.trans ((hfail e).mpr hy)
  · intro e he
    refine (h.blames e ((hfail _).mp he)).imp_right ?_
    rintro ⟨d, a, hblame, hattributes⟩
    exact ⟨d, a, hblame, (hfail _).mpr hattributes.outcome, herrors ▸ hattributes.errors⟩

/-- A step that names the record whose read fails. -/
theorem attributes_reporting {d : DecodeFault} {entry : DecodeFault → Entry} {a : Attribution}
    (hbare : d.IsBare) (hentry : (entry d).IsAbout a) :
    (reporting (.error (.decode d) : Decode α) entry fun e =>
      e.withContext (some a.index) a.location a.descriptor).Attributes d a := by
  refine ⟨?_, entry d, ?_, hentry⟩
  · rw [← hbare.withContext]
    rfl
  · exact List.filter_cons_of_pos (decide_eq_true hentry.level)

theorem FailsBy.reporting {step : Decode α} {entry : DecodeFault → Entry} {a : Attribution}
    (hbare : FailsOnly (IfDecode DecodeFault.IsBare) step) (hentry : ∀ d, (entry d).IsAbout a)
    (hP : ∀ d, step = .error (.decode d) → P d a) :
    (Logged.reporting step entry fun e =>
      e.withContext (some a.index) a.location a.descriptor).FailsBy P M := by
  cases step with
  | ok b => exact .pure b
  | error e =>
      cases e with
      | decode d =>
          refine ⟨fun _ hb => (nomatch hb), fun _ _ => .inr ⟨d, a, hP d rfl, ?_⟩⟩
          exact attributes_reporting (hbare _ rfl d rfl) (hentry d)
      | _ => exact .fail fun _ he => nomatch he

/-- A step whose read is all that can fail. -/
theorem FailsBy.reporting_bind {read : Decode α} {f : α → Decode β}
    {entry : DecodeFault → Entry} {a : Attribution}
    (hbare : FailsOnly (IfDecode DecodeFault.IsBare) read) (hf : ∀ x, ∃ b, f x = .ok b)
    (hentry : ∀ d, (entry d).IsAbout a) (hP : ∀ d, read = .error (.decode d) → P d a) :
    (Logged.reporting (read >>= f) entry fun e =>
      e.withContext (some a.index) a.location a.descriptor).FailsBy P M := by
  refine .reporting (hbare.bind fun x _ => ?_) hentry fun d hd => ?_
  · obtain ⟨b, hb⟩ := hf x
    rw [hb]
    exact FailsOnly.ok b
  · rcases bind_eq_error.mp hd with hd | ⟨x, _, hd⟩
    · exact hP d hd
    · obtain ⟨b, hb⟩ := hf x
      exact nomatch hb.symm.trans hd

theorem errors_bind_ok {f : α → Logged β} {a : α} (h : x.outcome = .ok a) :
    (x >>= f).errors = x.errors ++ (f a).errors := by
  obtain ⟨entries, outcome⟩ := x
  cases h
  exact List.filter_append _ _

theorem errors_bind_error {f : α → Logged β} {e : Fault} (h : x.outcome = .error e) :
    (x >>= f).errors = x.errors := by
  obtain ⟨entries, outcome⟩ := x
  cases h
  rfl

/-- A step that fails ends the steps behind it with its failure. -/
theorem Attributes.bind {d : DecodeFault} {a : Attribution} (h : x.Attributes d a)
    (f : α → Logged β) : (x >>= f).Attributes d a := by
  refine ⟨?_, ?_⟩
  · rw [outcome_bind, h.outcome]
    rfl
  · rw [errors_bind_error h.outcome]
    exact h.errors

/-- A step behind one without errors fails as it does alone. -/
theorem Attributes.after {f : α → Logged β} {b : α} {d : DecodeFault} {a : Attribution}
    (h : (f b).Attributes d a) (hx : x.outcome = .ok b) (hsilent : x.errors = []) :
    (x >>= f).Attributes d a := by
  refine ⟨?_, ?_⟩
  · rw [outcome_bind, hx, ok_bind, h.outcome]
  · rw [errors_bind_ok hx, hsilent]
    exact h.errors

theorem FailsBy.bind {f : α → Logged β} (hx : x.FailsBy P M)
    (hf : ∀ a, x.outcome = .ok a → (f a).FailsBy P M) : (x >>= f).FailsBy P M := by
  cases houtcome : x.outcome with
  | ok b =>
      have hsilent := hx.silent b houtcome
      refine ⟨fun c hc => ?_, fun e he => ?_⟩
      · rw [outcome_bind, houtcome, ok_bind] at hc
        rw [errors_bind_ok houtcome, hsilent, (hf b houtcome).silent c hc]
        rfl
      · rw [outcome_bind, houtcome, ok_bind] at he
        refine ((hf b houtcome).blames e he).imp_right ?_
        exact fun ⟨d, a, hblame, h⟩ => ⟨d, a, hblame, h.after houtcome hsilent⟩
  | error e =>
      refine ⟨fun c hc => ?_, fun d hd => ?_⟩
      · rw [outcome_bind, houtcome] at hc
        cases hc
      · rw [outcome_bind, houtcome] at hd
        cases hd
        refine (hx.blames d houtcome).imp_right ?_
        exact fun ⟨d, a, hblame, h⟩ => ⟨d, a, hblame, h.bind f⟩

theorem FailsBy.map (f : α → β) (hx : x.FailsBy P M) : (f <$> x).FailsBy P M :=
  hx.bind fun a _ => .pure (f a)

end Logged

/-- What a walk found as a step: all its records, or its failure. -/
def Walked.step (w : Walked) : Logged (List DexFile) :=
  ⟨w.entries, match w.failure with
    | none => .ok w.files
    | some e => .error e⟩

namespace Image

open Logged

variable {image : Image} {k : Nat} {cursor : Int} {M : DecodeFault → Prop}

/-! Whose failures are attributed to what. -/

/-- The first record of the directory that does not decode, with the failure of the read. -/
structure FirstFlaw (image : Image) (f : Nat) (d : DecodeFault) : Prop where
  lt : f < image.dexFileCount
  decodes : ∀ j < f, ∃ record next, image.chained j = .ok (record, next)
  fails : image.chained f = .error (.decode d)

/-- A failure of the directory is attributed to the position of the record. -/
inductive RecordBlame (image : Image) : Blame
  | intro {f : Nat} {d : DecodeFault} (h : image.FirstFlaw f d) :
      RecordBlame image d ⟨f, none, none⟩

/-- The failure of a class record is attributed to the class definition and its dex file. -/
inductive ClassBlame (image : Image) (file : DexFile) (definition : Dex.ClassDef)
    (asked : Option Text) : Blame
  | intro {d : DecodeFault} (h : image.classRecord file definition.index = .error (.decode d)) :
      ClassBlame image file definition asked d ⟨definition.index, some file.location, asked⟩

/-- The failure of a code slot is attributed to the position of the method in its class. -/
inductive SlotBlame (image : Image) (c : ResolvedClass) (x : Dex.Method) : Blame
  | intro {d : DecodeFault}
      (h : c.record.codeSlot image.region x.position = .error (.decode d)) :
      SlotBlame image c x d ⟨x.position, some c.file.location, some c.descriptor⟩

theorem FirstFlaw.unique {f f' : Nat} {d d' : DecodeFault} (h : image.FirstFlaw f d)
    (h' : image.FirstFlaw f' d') : f = f' ∧ d = d' := by
  have hle : f = f' := by
    rcases Nat.lt_trichotomy f f' with hlt | heq | hlt
    · obtain ⟨record, next, hok⟩ := h'.decodes f hlt
      exact nomatch hok.symm.trans h.fails
    · exact heq
    · obtain ⟨record, next, hok⟩ := h.decodes f' hlt
      exact nomatch hok.symm.trans h'.fails
  subst hle
  have hfails := h.fails.symm.trans h'.fails
  cases hfails
  exact ⟨rfl, rfl⟩

/-! The directory. -/

/-- A walk that reaches an address has decoded all records before it. -/
theorem decodes_of_cursorAt (hc : image.cursorAt k = .ok cursor) :
    ∀ j < k, ∃ record next, image.chained j = .ok (record, next) := by
  induction k generalizing cursor with
  | zero => exact fun j hj => absurd hj (Nat.not_lt_zero j)
  | succ k ih =>
      obtain ⟨before, record, hbefore, hchained⟩ := exists_of_cursorAt_succ hc
      intro j hj
      rcases Nat.lt_succ_iff_lt_or_eq.mp hj with hlt | rfl
      · exact ih hbefore j hlt
      · exact ⟨record, cursor, hchained⟩

section
variable (hr : image.region.Backed)
include hr

theorem decodeEntry_failsBy (hc : image.cursorAt k = .ok cursor) (hk : k < image.dexFileCount) :
    (image.decodeEntry k cursor).FailsBy image.RecordBlame M := by
  have hbare : FailsOnly (IfDecode DecodeFault.IsBare) (image.decodeNext cursor) :=
    (decodeNext_failsOnly hr cursor).mono fun _ => IsLocal.isBare
  refine FailsBy.reporting_bind (a := ⟨k, none, none⟩) hbare (fun _ => ⟨_, rfl⟩)
    (fun _ => ⟨rfl, rfl, rfl, rfl⟩) fun d hd => .intro ⟨hk, decodes_of_cursorAt hc, ?_⟩
  rw [chained_of_cursorAt hc, hd]

end

theorem cursorAt_of_decodeEntry {file : DexFile} {next : Int} (hc : image.cursorAt k = .ok cursor)
    (h : (image.decodeEntry k cursor).outcome = .ok (file, next)) :
    image.cursorAt (k + 1) = .ok next := by
  rw [decodeEntry, outcome_reporting, withContext_eq_ok] at h
  obtain ⟨⟨record, next'⟩, hnext, heq⟩ := bind_eq_ok.mp h
  cases heq
  exact cursorAt_succ ((chained_of_cursorAt hc).trans hnext)

/-- A walk is over, or it is where the reference walk decodes its next record. -/
def OnTrack (image : Image) (w : Walk) : Prop :=
  w.ended = true ∨ image.cursorAt w.index = .ok w.cursor

theorem OnTrack.advance {w : Walk} (h : image.OnTrack w) : image.OnTrack (image.advance w).2 := by
  by_cases hover : (w.ended || image.dexFileCount ≤ w.index) = true
  · rw [Image.advance, if_pos hover]
    exact .inl rfl
  · have hended : ¬ w.ended = true := fun hended => hover (by rw [hended, Bool.true_or])
    have hc := h.resolve_left hended
    rw [Image.advance, if_neg hover]
    rcases hd : image.decodeEntry w.index w.cursor with ⟨entries, outcome⟩
    cases outcome with
    | ok reached => exact .inr (cursorAt_of_decodeEntry hc (by rw [hd]))
    | error e => exact .inl rfl

theorem onTrack_walkAfter (image : Image) (k : Nat) : image.OnTrack (image.walkAfter k) := by
  induction k with
  | zero => exact .inr rfl
  | succ k ih => exact ih.advance

section
variable (hr : image.region.Backed)
include hr

theorem advance_failsBy {w : Walk} (hw : image.OnTrack w) :
    (image.advance w).1.FailsBy image.RecordBlame M := by
  by_cases hover : (w.ended || image.dexFileCount ≤ w.index) = true
  · rw [advance, if_pos hover]
    exact .pure _
  · have hopen := hover
    rw [Bool.or_eq_true, decide_eq_true_eq, not_or, Nat.not_le] at hopen
    have hentry : (image.decodeEntry w.index w.cursor).FailsBy image.RecordBlame M :=
      decodeEntry_failsBy hr (hw.resolve_left hopen.1) hopen.2
    rw [advance, if_neg hover]
    rcases hd : image.decodeEntry w.index w.cursor with ⟨entries, outcome⟩
    rw [hd] at hentry
    cases outcome with
    | ok reached => exact hentry.of_same rfl fun _ => by simp only [reduceCtorEq]
    | error e => exact hentry.of_same rfl fun _ => by simp only [Except.error.injEq]

theorem takeAfter_failsBy (skipped : Nat) {w : Walk} (hw : image.OnTrack w) :
    (image.takeAfter skipped w).FailsBy image.RecordBlame M := by
  induction skipped generalizing w with
  | zero =>
      refine (advance_failsBy hr hw).bind fun found _ => ?_
      cases found with
      | some file => exact .pure file
      | none => exact .fail fun _ he => nomatch he
  | succ skipped ih =>
      refine (advance_failsBy hr hw).bind fun found _ => ?_
      cases found with
      | some _ => exact ih hw.advance
      | none => exact .fail fun _ he => nomatch he

theorem dexFile_failsBy (index : Int) : (image.dexFile index).FailsBy image.RecordBlame M := by
  rw [dexFile]
  by_cases h : index < 0 ∨ image.dexFileCount ≤ index
  · rw [if_pos h]
    refine .fail fun _ he => ?_
    cases he
  · rw [if_neg h]
    exact takeAfter_failsBy hr _ (.inr rfl)

theorem findFrom_failsBy (location : List UInt8) (left : Nat)
    (hc : image.cursorAt k = .ok cursor) (hleft : k + left = image.dexFileCount) :
    (image.findFrom location left k cursor).FailsBy image.RecordBlame M := by
  induction left generalizing k cursor with
  | zero => exact .pure _
  | succ left ih =>
      rw [findFrom]
      refine (decodeEntry_failsBy hr hc (by omega)).bind fun reached hreached => ?_
      obtain ⟨file, next⟩ := reached
      dsimp only
      by_cases h : file.record.location = location
      · rw [if_pos h]
        exact .pure _
      · rw [if_neg h]
        exact ih (cursorAt_of_decodeEntry hc hreached) (by omega)

theorem findDexFile_failsBy (location : List UInt8) :
    (image.findDexFile location).FailsBy image.RecordBlame M :=
  findFrom_failsBy hr location _ rfl (Nat.zero_add _)

theorem findDexFileNamed_failsBy (location : Text) :
    (image.findDexFileNamed location).FailsBy image.RecordBlame M := by
  rw [findDexFileNamed]
  cases Utf8.encode? location with
  | none =>
      refine .fail fun _ he => ?_
      cases he
  | some bytes => exact findDexFile_failsBy hr bytes

theorem walkFrom_failsBy (left : Nat) (hc : image.cursorAt k = .ok cursor)
    (hleft : k + left = image.dexFileCount) :
    (image.walkFrom left k cursor).step.FailsBy image.RecordBlame M := by
  induction left generalizing k cursor with
  | zero => exact .pure []
  | succ left ih =>
      have hentry : (image.decodeEntry k cursor).FailsBy image.RecordBlame M :=
        decodeEntry_failsBy hr hc (by omega)
      have hrun := hentry.bind (f := fun reached => (image.walkFrom left (k + 1) reached.2).step)
        fun reached hreached => ih (cursorAt_of_decodeEntry hc hreached) (by omega)
      rw [walkFrom]
      rcases hd : image.decodeEntry k cursor with ⟨entries, outcome⟩
      rw [hd] at hrun
      cases outcome with
      | error e => exact hrun.of_same rfl fun _ => Iff.rfl
      | ok reached =>
          refine hrun.of_same rfl fun e => ?_
          show (match (image.walkFrom left (k + 1) reached.2).failure with
            | none => _
            | some e => _) = _ ↔ (image.walkFrom left (k + 1) reached.2).step.outcome = _
          rw [Walked.step]
          cases (image.walkFrom left (k + 1) reached.2).failure <;> simp only [reduceCtorEq]

end

/-! Classes. -/

/-- The class definition that the module of a dex file has for a descriptor. -/
def located (image : Image) (file : DexFile) (descriptor : Text) : Decode (Option Dex.ClassDef) :=
  do (← file.module image).locate descriptor

/-- The class definition with an index in the module of a dex file. -/
def defined (image : Image) (file : DexFile) (index : Int) : Decode Dex.ClassDef :=
  do (← file.module image).classDef index

/-- A class record whose failure is that of a search: the module of the dex file has the
definition for the descriptor. -/
inductive SearchBlame (image : Image) (file : DexFile) (descriptor : Text) : Blame
  | intro {definition : Dex.ClassDef} {d : DecodeFault} {a : Attribution}
      (h : image.located file descriptor = .ok (some definition))
      (hblame : image.ClassBlame file definition (some descriptor) d a) :
      SearchBlame image file descriptor d a

theorem classRecord_isBare (image : Image) (file : DexFile) (index : Int) :
    FailsOnly (IfDecode DecodeFault.IsBare) (image.classRecord file index) := by
  refine image.classRecord_failsOnly_of isBare_holdsOfReads (fun n d hd => ?_) file index
  cases hd
  exact ⟨rfl, rfl, rfl⟩

theorem resolve_failsBy (file : DexFile) (definition : Dex.ClassDef) (asked : Option Text) :
    (image.resolve file definition asked).FailsBy (image.ClassBlame file definition asked) M :=
  FailsBy.reporting_bind (a := ⟨definition.index, some file.location, asked⟩)
    (image.classRecord_isBare file definition.index) (fun _ => ⟨_, rfl⟩)
    (fun _ => ⟨rfl, rfl, rfl, rfl⟩) fun _ hd => .intro hd

theorem findClassIn_failsBy (file : DexFile) (descriptor : Text) :
    (image.findClassIn file descriptor).FailsBy (image.SearchBlame file descriptor)
      fun e => (image.located file descriptor).withContext none (some file.location)
        (some descriptor) = .error (.decode e) := by
  refine FailsBy.bind (.ofDecode fun e he => he) fun found hfound => ?_
  cases found with
  | none => exact .pure _
  | some definition =>
      rw [outcome_liftM, withContext_eq_ok] at hfound
      exact ((resolve_failsBy file definition (some descriptor)).mono
        (fun d a hblame => .intro hfound hblame) fun _ he => he).map _

/-- A class record whose failure is that of an access by index. -/
inductive AccessBlame (image : Image) (file : DexFile) (index : Int) : Blame
  | intro {definition : Dex.ClassDef} {d : DecodeFault} {a : Attribution}
      (h : image.defined file index = .ok definition)
      (hblame : image.ClassBlame file definition none d a) : AccessBlame image file index d a

theorem classAt_failsBy (file : DexFile) (index : Int) :
    (image.classAt file index).FailsBy (image.AccessBlame file index)
      fun e => (image.defined file index).withContext (some index) (some file.location) none =
        .error (.decode e) := by
  refine FailsBy.bind (.ofDecode fun e he => he) fun definition hdefined => ?_
  rw [outcome_liftM, withContext_eq_ok] at hdefined
  exact (resolve_failsBy file definition none).mono (fun d a hblame => .intro hdefined hblame)
    fun _ he => he

/-- What a search through all dex files is blamed on: a record of the directory, or a class
record of one of the dex files. -/
inductive FindBlame (image : Image) (descriptor : Text) : Blame
  | record {d : DecodeFault} {a : Attribution} (h : image.RecordBlame d a) :
      FindBlame image descriptor d a
  | search {k : Nat} {file : DexFile} {d : DecodeFault} {a : Attribution}
      (hfile : image.fileAt k = .ok file) (hblame : image.SearchBlame file descriptor d a) :
      FindBlame image descriptor d a

/-- The module of a dex file fails to answer which class has the descriptor. -/
def ModuleFails (image : Image) (descriptor : Text) (e : DecodeFault) : Prop :=
  ∃ k file, image.fileAt k = .ok file ∧
    (image.located file descriptor).withContext none (some file.location) (some descriptor) =
      .error (.decode e)

section
variable (hr : image.region.Backed)
include hr

theorem findClassFrom_failsBy (descriptor : Text) (left : Nat)
    (hc : image.cursorAt k = .ok cursor) (hleft : k + left = image.dexFileCount) :
    (image.findClassFrom descriptor left k).FailsBy (image.FindBlame descriptor)
      (image.ModuleFails descriptor) := by
  induction left generalizing k cursor with
  | zero => exact .pure _
  | succ left ih =>
      cases hchained : image.chained k with
      | error e =>
          -- the walk of its own ends before a dex file is searched
          rw [findClassFrom]
          refine ((dexFile_failsBy hr k).mono (fun _ _ => .record) fun _ he => he).bind
            fun file hfile => ?_
          rw [dexFile_of_cursorAt hc (by omega), takeAfter, outcome_bind,
            (advance_error hc (by omega) hchained).1] at hfile
          cases hfile
      | ok reached =>
          obtain ⟨record, next⟩ := reached
          have hfile := fileAt_of_chained hchained
          rw [findClassFrom_of_chained left hc (by omega) hchained]
          refine ((findClassIn_failsBy ⟨k, record⟩ descriptor).mono
            (fun _ _ => .search hfile) fun e he => ⟨k, _, hfile, he⟩).bind fun found _ => ?_
          cases found with
          | some c => exact .pure _
          | none => exact ih (cursorAt_succ hchained) (by omega)

theorem findClass_failsBy (descriptor : Text) :
    (image.findClass descriptor).FailsBy (image.FindBlame descriptor)
      (image.ModuleFails descriptor) :=
  findClassFrom_failsBy hr descriptor _ rfl (Nat.zero_add _)

end

/-! Methods. -/

/-- The method that the module finds in the class data of a class. -/
def sought (image : Image)
    (find : Dex.Module → Dex.ClassDef → Text → Text → Decode (Option Dex.Method))
    (c : ResolvedClass) (name signature : Text) : Decode (Option Dex.Method) :=
  do find (← c.file.module image) c.definition name signature

/-- A code slot whose failure is that of a search in a class: the module finds the method. -/
inductive MethodBlame (image : Image)
    (find : Dex.Module → Dex.ClassDef → Text → Text → Decode (Option Dex.Method))
    (c : ResolvedClass) (name signature : Text) : Blame
  | intro {x : Dex.Method} {d : DecodeFault} {a : Attribution}
      (h : image.sought find c name signature = .ok (some x)) (hblame : image.SlotBlame c x d a) :
      MethodBlame image find c name signature d a

theorem bind_failsBy (c : ResolvedClass) (x : Dex.Method) :
    (image.bind c x).FailsBy (image.SlotBlame c x) M :=
  FailsBy.reporting_bind (a := ⟨x.position, some c.file.location, some c.descriptor⟩)
    (c.record.codeSlot_failsOnly_of isBare_holdsOfReads image.region x.position)
    (fun _ => ⟨_, rfl⟩) (fun _ => ⟨rfl, rfl, rfl, rfl⟩) fun _ hd => .intro hd

theorem findIn_failsBy (kind : String)
    (find : Dex.Module → Dex.ClassDef → Text → Text → Decode (Option Dex.Method))
    (c : ResolvedClass) (name signature : Text) :
    (image.findIn kind find c name signature).FailsBy
      (image.MethodBlame find c name signature)
      fun e => image.sought find c name signature = .error (.decode e) := by
  refine (FailsBy.debug _).bind fun _ _ => ?_
  refine FailsBy.bind (.ofDecode fun e he => he) fun found hfound => ?_
  cases found with
  | none => exact (FailsBy.debug _).bind fun _ _ => .pure _
  | some x =>
      exact ((bind_failsBy c x).mono (fun d a hblame => .intro hfound hblame)
        fun _ he => he).map _

/-- What a search for a method of a class is blamed on. -/
def MemberBlame (image : Image) (c : ResolvedClass) (name signature : Text) : Blame :=
  fun d a => image.MethodBlame Dex.Module.findDirect c name signature d a ∨
    image.MethodBlame Dex.Module.findVirtual c name signature d a

/-- The module fails to answer which method of a class has the name and the signature. -/
def MembersFail (image : Image) (c : ResolvedClass) (name signature : Text)
    (e : DecodeFault) : Prop :=
  image.sought Dex.Module.findDirect c name signature = .error (.decode e) ∨
    image.sought Dex.Module.findVirtual c name signature = .error (.decode e)

theorem findMethodIn_failsBy (c : ResolvedClass) (name signature : Text) :
    (image.findMethodIn c name signature).FailsBy (image.MemberBlame c name signature)
      (image.MembersFail c name signature) := by
  have hdirect : (image.findDirectMethod c name signature).FailsBy
      (image.MemberBlame c name signature) (image.MembersFail c name signature) :=
    (findIn_failsBy _ _ c name signature).mono (fun _ _ => .inl) fun _ => .inl
  have hvirtual : (image.findVirtualMethod c name signature).FailsBy
      (image.MemberBlame c name signature) (image.MembersFail c name signature) :=
    (findIn_failsBy _ _ c name signature).mono (fun _ _ => .inr) fun _ => .inr
  refine hdirect.bind fun found _ => ?_
  cases found with
  | some x => exact .pure _
  | none =>
      refine hvirtual.bind fun found _ => ?_
      cases found with
      | some x => exact .pure _
      | none => exact (FailsBy.debug _).bind fun _ _ => .pure _

/-- The class is searched for first, and then the method in the class that is found. -/
theorem findMethod_failsBy (hr : image.region.Backed) (descriptor name signature : Text) :
    (image.findMethod descriptor name signature).FailsBy
      (fun d a => image.FindBlame descriptor d a ∨ ∃ c,
        (image.findClass descriptor).outcome = .ok (some c) ∧
          image.MemberBlame c name signature d a)
      fun e => image.ModuleFails descriptor e ∨ ∃ c,
        (image.findClass descriptor).outcome = .ok (some c) ∧
          image.MembersFail c name signature e := by
  refine ((findClass_failsBy hr descriptor).mono (fun _ _ => .inl) fun _ => .inl).bind
    fun found hfound => ?_
  cases found with
  | none => exact .pure _
  | some c =>
      exact (findMethodIn_failsBy c name signature).mono
        (fun _ _ hblame => .inr ⟨c, hfound, hblame⟩) fun _ he => .inr ⟨c, hfound, he⟩

/-! A record that does not decode fails the operations that reach it. -/

section
variable {f : Nat} {d : DecodeFault}

theorem FirstFlaw.stopsAt (h : image.FirstFlaw f d) : image.StopsAt f :=
  ⟨Nat.le_of_lt h.lt, h.decodes, fun _ => ⟨_, h.fails⟩⟩

/-- A step that fails by the directory fails by its first flaw. -/
theorem FirstFlaw.attributes {α : Type} {x : Logged α} {e : DecodeFault}
    (h : image.FirstFlaw f d) (hx : x.FailsBy image.RecordBlame fun _ => False)
    (he : x.outcome = .error (.decode e)) : x.Attributes d ⟨f, none, none⟩ := by
  obtain ⟨d', a, hblame, hattributes⟩ := (hx.blames e he).resolve_left id
  cases hblame with
  | intro h' =>
      obtain ⟨rfl, rfl⟩ := h.unique h'
      exact hattributes

theorem resolve_attributes {file : DexFile} {definition : Dex.ClassDef} (asked : Option Text)
    (h : image.classRecord file definition.index = .error (.decode d)) :
    (image.resolve file definition asked).Attributes d
      ⟨definition.index, some file.location, asked⟩ := by
  have hbare := image.classRecord_isBare file definition.index _ h d rfl
  rw [resolve, h]
  exact attributes_reporting (a := ⟨definition.index, some file.location, asked⟩) hbare
    ⟨rfl, rfl, rfl, rfl⟩

theorem findClassIn_attributes {file : DexFile} {descriptor : Text} {definition : Dex.ClassDef}
    (hlocated : image.located file descriptor = .ok (some definition))
    (h : image.classRecord file definition.index = .error (.decode d)) :
    (image.findClassIn file descriptor).Attributes d
      ⟨definition.index, some file.location, some descriptor⟩ := by
  have hfound : (image.located file descriptor).withContext none (some file.location)
      (some descriptor) = .ok (some definition) := withContext_eq_ok.mpr hlocated
  refine Attributes.after (b := some definition) ?_ hfound rfl
  exact (resolve_attributes (some descriptor) h).bind _

theorem classAt_attributes {file : DexFile} {index : Int} {definition : Dex.ClassDef}
    (hdefined : image.defined file index = .ok definition)
    (h : image.classRecord file definition.index = .error (.decode d)) :
    (image.classAt file index).Attributes d ⟨definition.index, some file.location, none⟩ := by
  have hfound : (image.defined file index).withContext (some index) (some file.location) none =
      .ok definition := withContext_eq_ok.mpr hdefined
  refine Attributes.after (b := definition) ?_ hfound rfl
  exact resolve_attributes none h

/-- A search through all dex files ends with the first one whose class record fails. -/
theorem findClass_attributes {file : DexFile} {descriptor : Text} {definition : Dex.ClassDef}
    (hk : k < image.dexFileCount) (hlacks : image.Lacks descriptor k)
    (hfile : image.fileAt k = .ok file)
    (hlocated : image.located file descriptor = .ok (some definition))
    (h : image.classRecord file definition.index = .error (.decode d)) :
    (image.findClass descriptor).Attributes d
      ⟨definition.index, some file.location, some descriptor⟩ := by
  have hattributes := findClassIn_attributes hlocated h
  have hdecided : (image.findClassIn file descriptor).outcome ≠ .ok none := by
    rw [hattributes.outcome]
    nofun
  rwa [findClass_of_decided hk hlacks hfile hdecided]

theorem bind_attributes {c : ResolvedClass} {x : Dex.Method}
    (h : c.record.codeSlot image.region x.position = .error (.decode d)) :
    (image.bind c x).Attributes d ⟨x.position, some c.file.location, some c.descriptor⟩ := by
  have hbare := c.record.codeSlot_failsOnly_of isBare_holdsOfReads image.region x.position _ h d rfl
  rw [bind, h]
  exact attributes_reporting (a := ⟨x.position, some c.file.location, some c.descriptor⟩) hbare
    ⟨rfl, rfl, rfl, rfl⟩

variable (hr : image.region.Backed)
include hr

theorem FirstFlaw.dexFiles (h : image.FirstFlaw f d) :
    image.dexFiles.step.Attributes d ⟨f, none, none⟩ := by
  obtain ⟨-, -, hfail⟩ := h.stopsAt.walkFrom image.dexFileCount rfl (Nat.zero_le _)
    (Nat.zero_add _)
  have hfailure : image.dexFiles.failure = _ := hfail _ h.lt h.fails
  refine h.attributes (walkFrom_failsBy hr _ rfl (Nat.zero_add _))
    (e := d.withContext (some (f : Int)) none none) ?_
  show image.dexFiles.step.outcome = _
  rw [Walked.step, hfailure]
  rfl

/-- The walk that is advanced record by record fails when it comes to the record. -/
theorem FirstFlaw.pull (h : image.FirstFlaw f d) :
    (image.advance (image.walkAfter f)).1.Attributes d ⟨f, none, none⟩ := by
  have hpull : (image.advance (image.walkAfter f)).1.outcome = _ :=
    h.stopsAt.pull_fault h.lt h.fails
  exact h.attributes (advance_failsBy hr (onTrack_walkAfter image f)) hpull

/-- No dex file behind the record is reached. -/
theorem FirstFlaw.dexFile (h : image.FirstFlaw f d) (hf : f ≤ k) (hk : k < image.dexFileCount) :
    (image.dexFile k).Attributes d ⟨f, none, none⟩ := by
  have htake : (image.takeAfter k image.walk).outcome = _ :=
    h.stopsAt.takeAfter_fault (k := 0) k rfl (Nat.zero_le f) (by omega) h.lt h.fails
  rw [← dexFile_of_lt hk] at htake
  exact h.attributes (dexFile_failsBy hr k) htake

end

/-- Every decoding failure of an operation on an image is attributed to the record that does not
decode, or is one of a module. -/
structure AttributesFailures (image : Image) : Prop where
  /-- The directory fails at its first record that does not decode, whoever walks through it. -/
  dexFiles : image.dexFiles.step.FailsBy image.RecordBlame fun _ => False
  pull : ∀ k, (image.advance (image.walkAfter k)).1.FailsBy image.RecordBlame fun _ => False
  dexFile : ∀ index, (image.dexFile index).FailsBy image.RecordBlame fun _ => False
  findDexFile : ∀ location,
    (image.findDexFile location).FailsBy image.RecordBlame fun _ => False
  findDexFileNamed : ∀ location,
    (image.findDexFileNamed location).FailsBy image.RecordBlame fun _ => False
  record : ∀ f d, image.FirstFlaw f d →
    image.dexFiles.step.Attributes d ⟨f, none, none⟩ ∧
      (image.advance (image.walkAfter f)).1.Attributes d ⟨f, none, none⟩ ∧
      ∀ k : Nat, f ≤ k → k < image.dexFileCount → (image.dexFile k).Attributes d ⟨f, none, none⟩
  /-- A class record fails with the index of its definition, the location of the dex file and
  the descriptor that was asked for. -/
  findClassIn : ∀ file descriptor,
    (image.findClassIn file descriptor).FailsBy (image.SearchBlame file descriptor)
      fun e => (image.located file descriptor).withContext none (some file.location)
        (some descriptor) = .error (.decode e)
  classAt : ∀ file index, (image.classAt file index).FailsBy (image.AccessBlame file index)
    fun e => (image.defined file index).withContext (some index) (some file.location) none =
      .error (.decode e)
  findClass : ∀ descriptor, (image.findClass descriptor).FailsBy (image.FindBlame descriptor)
    (image.ModuleFails descriptor)
  classRecord : ∀ file definition d,
    image.classRecord file definition.index = .error (.decode d) →
      (∀ descriptor, image.located file descriptor = .ok (some definition) →
        (image.findClassIn file descriptor).Attributes d
          ⟨definition.index, some file.location, some descriptor⟩ ∧
        ∀ k < image.dexFileCount, image.Lacks descriptor k → image.fileAt k = .ok file →
          (image.findClass descriptor).Attributes d
            ⟨definition.index, some file.location, some descriptor⟩) ∧
      ∀ index, image.defined file index = .ok definition →
        (image.classAt file index).Attributes d ⟨definition.index, some file.location, none⟩
  /-- A code slot fails with the position of the method, and location and descriptor of the
  class. -/
  findDirectMethod : ∀ c name signature, (image.findDirectMethod c name signature).FailsBy
    (image.MethodBlame Dex.Module.findDirect c name signature)
    fun e => image.sought Dex.Module.findDirect c name signature = .error (.decode e)
  findVirtualMethod : ∀ c name signature, (image.findVirtualMethod c name signature).FailsBy
    (image.MethodBlame Dex.Module.findVirtual c name signature)
    fun e => image.sought Dex.Module.findVirtual c name signature = .error (.decode e)
  findMethodIn : ∀ c name signature, (image.findMethodIn c name signature).FailsBy
    (image.MemberBlame c name signature) (image.MembersFail c name signature)
  findMethod : ∀ descriptor name signature, (image.findMethod descriptor name signature).FailsBy
    (fun d a => image.FindBlame descriptor d a ∨ ∃ c,
      (image.findClass descriptor).outcome = .ok (some c) ∧ image.MemberBlame c name signature d a)
    fun e => image.ModuleFails descriptor e ∨ ∃ c,
      (image.findClass descriptor).outcome = .ok (some c) ∧ image.MembersFail c name signature e
  codeSlot : ∀ c x d, c.record.codeSlot image.region (x : Dex.Method).position =
    .error (.decode d) →
      (image.bind c x).Attributes d ⟨x.position, some c.file.location, some c.descriptor⟩

/-- The operations on an image that was set up attribute their failures to the record that
failed. -/
theorem setup_attributesFailures {begin stop : Option Int} {memory : Option ByteArray}
    {asked : Option InstructionSet} (h : setup begin stop memory asked = .ok image) :
    image.AttributesFailures := by
  have hr := backed_of_setup h
  exact {
    dexFiles := walkFrom_failsBy hr _ rfl (Nat.zero_add _)
    pull := fun k => advance_failsBy hr (onTrack_walkAfter image k)
    dexFile := dexFile_failsBy hr
    findDexFile := findDexFile_failsBy hr
    findDexFileNamed := findDexFileNamed_failsBy hr
    record := fun f d hflaw => ⟨hflaw.dexFiles hr, hflaw.pull hr, fun k => hflaw.dexFile hr⟩
    findClassIn := findClassIn_failsBy
    classAt := classAt_failsBy
    findClass := findClass_failsBy hr
    classRecord := fun file definition d hrecord =>
      ⟨fun descriptor hlocated => ⟨findClassIn_attributes hlocated hrecord,
        fun k hk hlacks hfile => findClass_attributes hk hlacks hfile hlocated hrecord⟩,
        fun index hdefined => classAt_attributes hdefined hrecord⟩
    findDirectMethod := findIn_failsBy _ _
    findVirtualMethod := findIn_failsBy _ _
    findMethodIn := findMethodIn_failsBy
    findMethod := findMethod_failsBy hr
    codeSlot := fun c x d => bind_attributes }

/-- An image with one dex file, whose class has no record. -/
def unrecordedImage : List UInt8 :=
  (plainHeader 1).encode ++ Record.encode [0x61] 0 93 [0, 0] ++ twiceModule

/-- The search for the class names the class definition, the dex file and the descriptor. -/
theorem setup_attributesFailures_unrecordedImage :
    ∃ image, setup (some 4096) (some 4353) (some ⟨unrecordedImage.toArray⟩) none = .ok image ∧
      (image.findClass (Text.ofString "LA;")).Attributes { cause := .zeroClassOffset }
        ⟨0, some "a", some (Text.ofString "LA;")⟩ := by
  obtain ⟨image, h, hread⟩ := exists_setup_of_any 4096 4353 ⟨unrecordedImage.toArray⟩ none
    (p := fun image => 0 < image.dexFileCount && Dex.Module.LiesAt image.region 4189 twiceModule &&
      (image.fileAt 0).toOption.any fun file =>
        file.location = "a" && file.record.dexPointer = 4189 &&
          image.classRecord file 0 = .error (.decode { cause := .zeroClassOffset }))
    (by decide) (by decide +kernel) (by decide +kernel)
  simp only [Bool.and_eq_true, decide_eq_true_eq] at hread
  obtain ⟨⟨hcount, hlies⟩, hread⟩ := hread
  obtain ⟨file, hfile, hread⟩ := exists_of_any hread
  simp only [Bool.and_eq_true, decide_eq_true_eq] at hread
  obtain ⟨⟨hlocation, hpointer⟩, hrecord⟩ := hread
  obtain ⟨m, hload, _, hm⟩ := hlies.exists_load (p := fun m => ReadsTwice m) (by decide +kernel)
  obtain ⟨_, hlocate, _⟩ := of_decide_eq_true hm
  have hlocated : image.located file (Text.ofString "LA;") = .ok (some twiceClass) := by
    rw [located, DexFile.module, hpointer, hload]
    exact hlocate
  obtain ⟨hsearches, _⟩ := (setup_attributesFailures h).classRecord file twiceClass _ hrecord
  obtain ⟨_, hfind⟩ := hsearches _ hlocated
  have hattributes := hfind 0 hcount (fun j hj => absurd hj (Nat.not_lt_zero j)) hfile
  rw [hlocation] at hattributes
  exact ⟨image, h, hattributes⟩

end Image

end OatImage
