import OatImage.Proofs.Agreement
import OatImage.ResolvedClass

/-!
# Traced walks

What an operation on the directory does beside its answer is told by its trace: the addresses at
which it decodes a record, in order. The traced operations recurse as the operations themselves
do, and leaving out the trace gives the operations back. The trace of a walk goes from record to
record and ends with the first one that does not decode; no address is left out of it.
-/
namespace OatImage

open Decode

/-- A step together with what is traced of it. -/
structure Traced (ω α : Type) where
  trace : List ω
  step : Logged α

namespace Traced

variable {ω α β : Type}

/-- A step of which nothing is traced. -/
def ofLogged (x : Logged α) : Traced ω α := ⟨[], x⟩

def fail (e : Fault) : Traced ω α := ofLogged (Logged.fail e)

/-- One step after another. After a failure nothing more is traced. -/
def andThen (first : Traced ω α) (next : α → Traced ω β) : Traced ω β where
  trace :=
    match first.step.outcome with
    | .ok a => first.trace ++ (next a).trace
    | .error _ => first.trace
  step := first.step >>= fun a => (next a).step

instance : Monad (Traced ω) where
  pure a := ofLogged (pure a)
  bind := andThen

/-- The trace of a step as one item in the trace of another. -/
def asItem (x : Traced ω α) : Traced (List ω) α := ⟨[x.trace], x.step⟩

theorem step_bind (x : Traced ω α) (f : α → Traced ω β) :
    (x >>= f).step = x.step >>= fun a => (f a).step := rfl

/-- Two traced steps without their traces are the steps themselves, one after the other. -/
theorem step_bind_of_eq {x : Traced ω α} {d : Decode α} {f : α → Traced ω β} {g : α → Decode β}
    (hx : x.step = Logged.ofDecode d) (hf : ∀ a, (f a).step = Logged.ofDecode (g a)) :
    (x >>= f).step = Logged.ofDecode (d >>= g) := by
  rw [step_bind, hx]
  cases d with
  | ok a => exact hf a
  | error e => rfl

theorem trace_bind_of_ok {x : Traced ω α} {a : α} (h : x.step.outcome = .ok a)
    (f : α → Traced ω β) : (x >>= f).trace = x.trace ++ (f a).trace := by
  show (x.andThen f).trace = _
  rw [andThen, h]

theorem trace_bind_of_error {x : Traced ω α} {e : Fault} (h : x.step.outcome = .error e)
    (f : α → Traced ω β) : (x >>= f).trace = x.trace := by
  show (x.andThen f).trace = _
  rw [andThen, h]

theorem trace_bind_ofLogged (x : Logged α) (f : α → Traced ω β) :
    (ofLogged x >>= f).trace = [] ∨ ∃ a, (ofLogged x >>= f).trace = (f a).trace := by
  cases h : x.outcome with
  | ok a => exact .inr ⟨a, trace_bind_of_ok h f⟩
  | error e => exact .inl (trace_bind_of_error h f)

end Traced

namespace Image

open Traced

/-! The traced operations. -/

def decodeTraced (image : Image) (index : Nat) (cursor : Int) : Traced Int (DexFile × Int) :=
  ⟨[cursor], image.decodeEntry index cursor⟩

def advanceTraced (image : Image) (w : Walk) : Traced Int (Option DexFile) × Walk :=
  if w.ended || image.dexFileCount ≤ w.index then (pure none, { w with ended := true })
  else
    match image.decodeTraced w.index w.cursor with
    | ⟨trace, entries, .ok (file, next)⟩ =>
      (⟨trace, entries, .ok (some file)⟩, { index := w.index + 1, cursor := next, ended := false })
    | ⟨trace, entries, .error e⟩ => (⟨trace, entries, .error e⟩, { w with ended := true })

def takeTraced (image : Image) : (skipped : Nat) → Walk → Traced Int DexFile
  | 0, w => do
    match ← (image.advanceTraced w).1 with
    | some file => pure file
    | none => Traced.fail (.broken .finishedWalk)
  | skipped + 1, w =>
    match image.advanceTraced w with
    | (step, w) => do
      match ← step with
      | some _ => image.takeTraced skipped w
      | none => Traced.fail (.broken .finishedWalk)

def dexFileTraced (image : Image) (index : Int) : Traced Int DexFile :=
  if index < 0 ∨ image.dexFileCount ≤ index then
    Traced.fail (.noDexFile index image.dexFileCount)
  else image.takeTraced index.toNat image.walk

def findTraced (image : Image) (location : List UInt8) :
    (left index : Nat) → (cursor : Int) → Traced Int (Option DexFile)
  | 0, _, _ => pure none
  | left + 1, index, cursor => do
    let (file, next) ← image.decodeTraced index cursor
    if file.record.location = location then pure (some file)
    else image.findTraced location left (index + 1) next

def findDexFileTraced (image : Image) (location : List UInt8) : Traced Int (Option DexFile) :=
  image.findTraced location image.dexFileCount 0 image.recordsStart

def findDexFileNamedTraced (image : Image) (location : Text) : Traced Int (Option DexFile) :=
  match Utf8.encode? location with
  | none => Traced.fail .unencodable
  | some bytes => image.findDexFileTraced bytes

/-- What is traced of a search for a class are its walks, one for each dex file. -/
def findClassFromTraced (image : Image) (descriptor : Text) :
    (left index : Nat) → Traced (List Int) (Option ResolvedClass)
  | 0, _ => pure none
  | left + 1, index => do
    let file ← (image.dexFileTraced index).asItem
    match ← ofLogged (image.findClassIn file descriptor) with
    | some c => pure (some c)
    | none => image.findClassFromTraced descriptor left (index + 1)

def findClassTraced (image : Image) (descriptor : Text) :
    Traced (List Int) (Option ResolvedClass) :=
  image.findClassFromTraced descriptor image.dexFileCount 0

/-! Without their traces they are the operations. -/

variable (image : Image)

theorem step_advanceTraced (w : Walk) :
    ((image.advanceTraced w).1.step, (image.advanceTraced w).2) = image.advance w := by
  rw [advanceTraced, advance]
  by_cases h : (w.ended || image.dexFileCount ≤ w.index) = true
  · rw [if_pos h, if_pos h]
    rfl
  · rw [if_neg h, if_neg h, decodeTraced]
    rcases image.decodeEntry w.index w.cursor with ⟨entries, _ | ⟨file, next⟩⟩ <;> rfl

theorem step_takeTraced (skipped : Nat) (w : Walk) :
    (image.takeTraced skipped w).step = image.takeAfter skipped w := by
  induction skipped generalizing w with
  | zero =>
      rw [takeTraced, takeAfter, step_bind, ← step_advanceTraced]
      refine congrArg _ (funext fun found => ?_)
      cases found <;> rfl
  | succ skipped ih =>
      rw [takeTraced, takeAfter, ← step_advanceTraced]
      rcases image.advanceTraced w with ⟨step, w⟩
      dsimp only
      rw [step_bind]
      refine congrArg _ (funext fun found => ?_)
      cases found with
      | none => rfl
      | some file => exact ih w

theorem step_dexFileTraced (index : Int) :
    (image.dexFileTraced index).step = image.dexFile index := by
  rw [dexFileTraced, dexFile]
  by_cases h : index < 0 ∨ image.dexFileCount ≤ index
  · rw [if_pos h, if_pos h]
    rfl
  · rw [if_neg h, if_neg h]
    exact image.step_takeTraced _ _

theorem step_findTraced (location : List UInt8) (left index : Nat) (cursor : Int) :
    (image.findTraced location left index cursor).step =
      image.findFrom location left index cursor := by
  induction left generalizing index cursor with
  | zero => rfl
  | succ left ih =>
      rw [findTraced, findFrom, step_bind]
      refine congrArg _ (funext fun reached => ?_)
      obtain ⟨file, next⟩ := reached
      by_cases h : file.record.location = location
      · simp only [if_pos h]
        rfl
      · simp only [if_neg h]
        exact ih _ _

theorem step_findDexFileNamedTraced (location : Text) :
    (image.findDexFileNamedTraced location).step = image.findDexFileNamed location := by
  rw [findDexFileNamedTraced, findDexFileNamed]
  cases Utf8.encode? location with
  | none => rfl
  | some bytes => exact image.step_findTraced _ _ _ _

theorem step_findClassTraced (descriptor : Text) :
    (image.findClassTraced descriptor).step = image.findClass descriptor := by
  have hfrom : ∀ left index, (image.findClassFromTraced descriptor left index).step =
      image.findClassFrom descriptor left index := by
    intro left
    induction left with
    | zero => exact fun _ => rfl
    | succ left ih =>
        intro index
        rw [findClassFromTraced, findClassFrom, step_bind, asItem, step_dexFileTraced]
        refine congrArg _ (funext fun file => ?_)
        rw [step_bind, ofLogged]
        refine congrArg _ (funext fun found => ?_)
        cases found with
        | some c => rfl
        | none => exact ih _
  exact hfrom _ _

/-! What is traced of a walk. -/

/-- A walk decodes records at these addresses: each one but the last decodes, and the next one is
decoded where it ends. -/
inductive Visits (image : Image) : Int → List Int → Prop
  | stopped (cursor : Int) : Visits image cursor []
  | failed (cursor : Int) (e : Fault) (h : image.decodeNext cursor = .error e) :
      Visits image cursor [cursor]
  | decoded (cursor next : Int) (record : Record) (rest : List Int)
      (h : image.decodeNext cursor = .ok (record, next)) (hrest : Visits image next rest) :
      Visits image cursor (cursor :: rest)

/-- One record decodes and nothing is written, or it fails. -/
theorem decodeEntry_cases (index : Nat) (cursor : Int) :
    (∃ record next, image.decodeNext cursor = .ok (record, next) ∧
      image.decodeEntry index cursor = ⟨[], .ok (⟨index, record⟩, next)⟩) ∨
    ∃ e entries e', image.decodeNext cursor = .error e ∧
      image.decodeEntry index cursor = ⟨entries, .error e'⟩ := by
  rw [decodeEntry]
  cases h : image.decodeNext cursor with
  | ok reached => exact .inl ⟨reached.1, reached.2, rfl, rfl⟩
  | error e => cases e <;> exact .inr ⟨_, _, _, rfl, rfl⟩

/-- One step of a walk: the walk is over, passes a record or ends with one that fails. -/
theorem advanceTraced_cases (w : Walk) :
    image.advanceTraced w = (pure none, { w with ended := true }) ∨
    (∃ record next, image.decodeNext w.cursor = .ok (record, next) ∧
      image.advanceTraced w =
        (⟨[w.cursor], [], .ok (some ⟨w.index, record⟩)⟩, ⟨w.index + 1, next, false⟩)) ∨
    ∃ e entries e', image.decodeNext w.cursor = .error e ∧
      image.advanceTraced w = (⟨[w.cursor], entries, .error e'⟩, { w with ended := true }) := by
  rw [advanceTraced]
  by_cases h : (w.ended || image.dexFileCount ≤ w.index) = true
  · exact .inl (if_pos h)
  · rw [if_neg h, decodeTraced]
    rcases image.decodeEntry_cases w.index w.cursor with
      ⟨record, next, hok, hentry⟩ | ⟨e, entries, e', herror, hentry⟩
    · exact .inr (.inl ⟨record, next, hok, by rw [hentry]⟩)
    · exact .inr (.inr ⟨e, entries, e', herror, by rw [hentry]⟩)

/-- A step and what follows it visit the record of the step and what is visited behind it. -/
theorem visits_advanceTraced (next : DexFile → Walk → Traced Int DexFile)
    (hnext : ∀ file w, image.Visits w.cursor (next file w).trace) (w : Walk) :
    image.Visits w.cursor ((image.advanceTraced w).1 >>= fun found =>
      match found with
      | some file => next file (image.advanceTraced w).2
      | none => Traced.fail (.broken .finishedWalk)).trace := by
  rcases image.advanceTraced_cases w with
    hover | ⟨record, next', hok, hpass⟩ | ⟨e, entries, e', herror, hend⟩
  · rw [hover]
    exact .stopped _
  · rw [hpass]
    exact .decoded _ next' record _ hok (hnext _ ⟨w.index + 1, next', false⟩)
  · rw [hend]
    exact .failed _ e herror

theorem visits_takeTraced (skipped : Nat) (w : Walk) :
    image.Visits w.cursor (image.takeTraced skipped w).trace := by
  induction skipped generalizing w with
  | zero => exact image.visits_advanceTraced (fun file _ => pure file) (fun _ w => .stopped _) w
  | succ skipped ih =>
      exact image.visits_advanceTraced (fun _ w => image.takeTraced skipped w) (fun _ w => ih w) w

theorem visits_dexFileTraced (index : Int) :
    image.Visits image.recordsStart (image.dexFileTraced index).trace := by
  rw [dexFileTraced]
  by_cases h : index < 0 ∨ image.dexFileCount ≤ index
  · rw [if_pos h]
    exact .stopped _
  · rw [if_neg h]
    exact image.visits_takeTraced _ image.walk

theorem visits_findTraced (location : List UInt8) (left index : Nat) (cursor : Int) :
    image.Visits cursor (image.findTraced location left index cursor).trace := by
  induction left generalizing index cursor with
  | zero => exact .stopped _
  | succ left ih =>
      rw [findTraced, decodeTraced]
      rcases image.decodeEntry_cases index cursor with
        ⟨record, next, hok, hentry⟩ | ⟨e, entries, e', herror, hentry⟩
      · rw [hentry, trace_bind_of_ok rfl]
        by_cases h : record.location = location
        · simp only [if_pos h]
          exact .decoded _ next record [] hok (.stopped _)
        · simp only [if_neg h]
          exact .decoded _ next record _ hok (ih _ _)
      · rw [hentry]
        exact .failed _ e herror

theorem visits_findDexFileNamedTraced (location : Text) :
    image.Visits image.recordsStart (image.findDexFileNamedTraced location).trace := by
  rw [findDexFileNamedTraced]
  cases Utf8.encode? location with
  | none => exact .stopped _
  | some bytes => exact image.visits_findTraced _ _ _ _

/-- A record that is taken was reached through all records before it. -/
theorem length_takeTraced {skipped : Nat} {w : Walk} {file : DexFile}
    (h : (image.takeTraced skipped w).step.outcome = .ok file) :
    (image.takeTraced skipped w).trace.length = skipped + 1 := by
  induction skipped generalizing w with
  | zero =>
      rw [takeTraced] at h ⊢
      rcases image.advanceTraced_cases w with
        hover | ⟨record, next, _, hpass⟩ | ⟨e, entries, e', _, hend⟩
      · rw [hover] at h
        cases h
      · rw [hpass]
        rfl
      · rw [hend] at h
        cases h
  | succ skipped ih =>
      rw [takeTraced] at h ⊢
      rcases image.advanceTraced_cases w with
        hover | ⟨record, next, _, hpass⟩ | ⟨e, entries, e', _, hend⟩
      · rw [hover] at h
        cases h
      · rw [hpass] at h ⊢
        have hrest : (image.takeTraced skipped ⟨w.index + 1, next, false⟩).step.outcome =
            .ok file := h
        have hlen := ih hrest
        show (image.takeTraced skipped ⟨w.index + 1, next, false⟩).trace.length + 1 = _
        rw [hlen]
      · rw [hend] at h
        cases h

/-- A search passes the records up to the one that it finds, or all of them. -/
theorem length_findTraced (location : List UInt8) (left index : Nat) (cursor : Int) :
    (∀ file, (image.findTraced location left index cursor).step.outcome = .ok (some file) →
      index + (image.findTraced location left index cursor).trace.length = file.index + 1) ∧
    ((image.findTraced location left index cursor).step.outcome = .ok none →
      (image.findTraced location left index cursor).trace.length = left) := by
  induction left generalizing index cursor with
  | zero =>
      constructor
      · intro file h
        cases h
      · exact fun _ => rfl
  | succ left ih =>
      rw [findTraced, decodeTraced]
      rcases image.decodeEntry_cases index cursor with
        ⟨record, next, _, hentry⟩ | ⟨e, entries, e', _, hentry⟩
      · rw [hentry, trace_bind_of_ok rfl, step_bind, Logged.outcome_bind, ok_bind,
          List.length_append, List.length_singleton]
        by_cases hl : record.location = location
        · simp only [if_pos hl]
          constructor
          · intro file h
            cases h
            rfl
          · intro h
            cases h
        · simp only [if_neg hl]
          obtain ⟨hfound, hnone⟩ := ih (index + 1) next
          constructor
          · intro file h
            have hlen := hfound file h
            omega
          · intro h
            have hlen := hnone h
            omega
      · rw [hentry]
        constructor
        · intro file h
          cases h
        · intro h
          cases h

theorem length_dexFileTraced {index : Int} {file : DexFile}
    (h : (image.dexFile index).outcome = .ok file) :
    ((image.dexFileTraced index).trace.length : Int) = index + 1 := by
  rw [dexFile] at h
  rw [dexFileTraced]
  by_cases hrange : index < 0 ∨ image.dexFileCount ≤ index
  · rw [if_pos hrange] at h
    cases h
  · rw [if_neg hrange] at h ⊢
    rw [← step_takeTraced] at h
    have hlen := image.length_takeTraced h
    omega

/-- A dex file that is taken is one of the reference. -/
theorem Reference.lt_of_taken {image : Image} {files : List DexFile} {fault : Option DecodeFault}
    (href : image.Reference files fault) {index : Nat} {file : DexFile}
    (h : (image.dexFile index).outcome = .ok file) : index < files.length := by
  by_contra hbehind
  rcases Nat.lt_or_ge index image.dexFileCount with hin | hout
  · obtain ⟨e, _, herror⟩ := href.takenBehind (Nat.not_lt.mp hbehind) hin
    rw [herror] at h
    cases h
  · obtain ⟨i, count, herror⟩ := (href.outside index).mpr (.inr (Int.ofNat_le.mpr hout))
    rw [herror] at h
    cases h

/-- The walks of a search for a class are walks from the start of the stream. There is one for
each dex file that is asked, so no more than there are records, and the one that fails. -/
theorem visits_findClassFromTraced {files : List DexFile} {fault : Option DecodeFault}
    (href : image.Reference files fault) (descriptor : Text) (left index : Nat)
    (hindex : index ≤ files.length) :
    (∀ walk ∈ (image.findClassFromTraced descriptor left index).trace,
      image.Visits image.recordsStart walk) ∧
    (image.findClassFromTraced descriptor left index).trace.length ≤ files.length + 1 - index := by
  induction left generalizing index with
  | zero => exact ⟨fun walk hwalk => (nomatch hwalk), Nat.zero_le _⟩
  | succ left ih =>
      have hwalk := image.visits_dexFileTraced index
      have hstep : (image.dexFileTraced index).asItem.step = image.dexFile index :=
        image.step_dexFileTraced index
      rw [findClassFromTraced]
      cases hfile : (image.dexFile index).outcome with
      | error e =>
          rw [trace_bind_of_error (hstep ▸ hfile)]
          refine ⟨fun walk hmem => ?_, ?_⟩
          · cases List.mem_singleton.mp hmem
            exact hwalk
          · rw [asItem, List.length_singleton]
            omega
      | ok file =>
          have hlt := href.lt_of_taken hfile
          obtain ⟨hwalks, hlen⟩ := ih (index + 1) hlt
          rw [trace_bind_of_ok (hstep ▸ hfile), asItem]
          -- behind this dex file the search goes on, or it ends without another walk
          have hrest : ∀ rest : List (List Int), rest = [] ∨
              rest = (image.findClassFromTraced descriptor left (index + 1)).trace →
              (∀ walk ∈ (image.dexFileTraced index).trace :: rest,
                image.Visits image.recordsStart walk) ∧
              ((image.dexFileTraced index).trace :: rest).length ≤ files.length + 1 - index := by
            rintro rest (rfl | rfl)
            · refine ⟨fun walk hmem => ?_, by rw [List.length_singleton]; omega⟩
              cases List.mem_singleton.mp hmem
              exact hwalk
            · refine ⟨fun walk hmem => ?_, by rw [List.length_cons]; omega⟩
              rcases List.mem_cons.mp hmem with rfl | hmem
              · exact hwalk
              · exact hwalks walk hmem
          rcases trace_bind_ofLogged (image.findClassIn file descriptor) _ with
            hnone | ⟨found, hmore⟩
          · exact hrest _ (.inl hnone)
          · cases found with
            | some c => exact hrest _ (.inl hmore)
            | none => exact hrest _ (.inr hmore)

end Image

end OatImage
