import OatImage.Proofs.ImageFaults

/-!
# Walks through the directory

The reference walk decodes a record at the start of the stream, the next one where the
first ends, and so on. Every operation on the directory agrees with it: the walk that
yields all records, the walk that is advanced record by record, the record with an index
and the first record with a location. They differ in how they reach a record, not in which
records they reach, which record fails, and with which failure.
-/
namespace OatImage

/-- What is answered where a walk has no more records: nothing, or its failure. -/
def ending : Option Fault → Decode (Option DexFile)
  | none => .ok none
  | some e => .error e

/-- The answer to a search for a location in what a walk found: the first record with the
location, or else the end of the walk. -/
def Walked.find (w : Walked) (location : List UInt8) : Decode (Option DexFile) :=
  match w.files.find? fun file => file.record.location = location with
  | some file => .ok (some file)
  | none => ending w.failure

namespace Image

open Decode

/-- The record with a position in the reference walk, and the address behind it. -/
def chained (image : Image) : Nat → Decode (Record × Int)
  | 0 => image.decodeNext image.recordsStart
  | k + 1 => do
    let (_, next) ← image.chained k
    image.decodeNext next

/-- The same record as a dex file. -/
def fileAt (image : Image) (k : Nat) : Decode DexFile := do
  let (record, _) ← image.chained k
  pure ⟨k, record⟩

/-- The address at which the reference walk decodes the record with a position. -/
def cursorAt (image : Image) : Nat → Decode Int
  | 0 => .ok image.recordsStart
  | k + 1 => do
    let (_, next) ← image.chained k
    pure next

/-- The reference walk stops after `f` records: that many decode, and if the header declares
one more, that one does not. -/
structure StopsAt (image : Image) (f : Nat) : Prop where
  le : f ≤ image.dexFileCount
  decodes : ∀ k < f, ∃ record next, image.chained k = .ok (record, next)
  fails : f < image.dexFileCount → ∃ e, image.chained f = .error e

variable {image : Image} {f k : Nat} {cursor : Int}

theorem chained_of_cursorAt (h : image.cursorAt k = .ok cursor) :
    image.chained k = image.decodeNext cursor := by
  cases k with
  | zero =>
      cases h
      rfl
  | succ k =>
      obtain ⟨⟨record, next⟩, hk, hn⟩ := bind_eq_ok.mp h
      cases hn
      rw [chained, hk]
      rfl

theorem cursorAt_succ {record : Record} {next : Int} (h : image.chained k = .ok (record, next)) :
    image.cursorAt (k + 1) = .ok next := by
  rw [cursorAt, h]
  rfl

theorem fileAt_of_chained {record : Record} {next : Int}
    (h : image.chained k = .ok (record, next)) : image.fileAt k = .ok ⟨k, record⟩ := by
  rw [fileAt, h]
  rfl

theorem StopsAt.cursorAt (hf : image.StopsAt f) (hk : k ≤ f) :
    ∃ cursor, image.cursorAt k = .ok cursor := by
  cases k with
  | zero => exact ⟨_, rfl⟩
  | succ k =>
      obtain ⟨record, next, h⟩ := hf.decodes k hk
      exact ⟨next, cursorAt_succ h⟩

/-- The reference walk stops, at the first record that does not decode or behind the last. -/
theorem exists_stopsAt (image : Image) : ∃ f, image.StopsAt f := by
  have hfirst : ∀ m ≤ image.dexFileCount,
      (∀ k < m, ∃ record next, image.chained k = .ok (record, next)) ∨
        ∃ f, image.StopsAt f := by
    intro m
    induction m with
    | zero => exact fun _ => .inl fun k hk => absurd hk (Nat.not_lt_zero k)
    | succ m ih =>
        intro hm
        rcases ih (Nat.le_of_succ_le hm) with hall | hstop
        · cases h : image.chained m with
          | error e => exact .inr ⟨m, Nat.le_of_succ_le hm, hall, fun _ => ⟨e, h⟩⟩
          | ok reached =>
              refine .inl fun k hk => ?_
              rcases Nat.lt_succ_iff_lt_or_eq.mp hk with hlt | rfl
              · exact hall k hlt
              · exact ⟨reached.1, reached.2, h⟩
        · exact .inr hstop
  rcases hfirst image.dexFileCount (Nat.le_refl _) with hall | hstop
  · exact ⟨_, Nat.le_refl _, hall, fun h => absurd h (Nat.lt_irrefl _)⟩
  · exact hstop

/-! One record. -/

theorem decodeEntry_ok {record : Record} {next : Int} (hc : image.cursorAt k = .ok cursor)
    (h : image.chained k = .ok (record, next)) :
    image.decodeEntry k cursor = ⟨[], .ok (⟨k, record⟩, next)⟩ := by
  rw [chained_of_cursorAt hc] at h
  rw [decodeEntry, h]
  rfl

theorem decodeEntry_error {e : Fault} (hc : image.cursorAt k = .ok cursor)
    (h : image.chained k = .error e) :
    (image.decodeEntry k cursor).outcome = .error (e.withContext (some k) none none) := by
  rw [chained_of_cursorAt hc] at h
  rw [decodeEntry, Logged.outcome_reporting, h]
  rfl

/-! The whole walk. -/

/-- From a position that the reference walk reaches, a walk to the end yields the records
that are left of the reference walk, and the failure at which that one stops. -/
theorem StopsAt.walkFrom (hf : image.StopsAt f) (left : Nat)
    (hc : image.cursorAt k = .ok cursor) (hk : k ≤ f) (hleft : k + left = image.dexFileCount) :
    (image.walkFrom left k cursor).files.map Except.ok =
        (List.range' k (f - k)).map image.fileAt ∧
      (f = image.dexFileCount → (image.walkFrom left k cursor).failure = none) ∧
      (∀ e, f < image.dexFileCount → image.chained f = .error e →
        (image.walkFrom left k cursor).failure = some (e.withContext (some f) none none)) := by
  induction left generalizing k cursor with
  | zero =>
      have hle := hf.le
      have hfk : f = k := by omega
      subst hfk
      rw [Nat.sub_self]
      exact ⟨rfl, fun _ => rfl, fun e he => absurd he (by omega)⟩
  | succ left ih =>
      rcases Nat.lt_or_eq_of_le hk with hlt | rfl
      · obtain ⟨record, next, hok⟩ := hf.decodes k hlt
        have hwalk : image.walkFrom (left + 1) k cursor =
            ⟨⟨k, record⟩ :: (image.walkFrom left (k + 1) next).files,
              (image.walkFrom left (k + 1) next).failure,
              (image.walkFrom left (k + 1) next).entries⟩ := by
          rw [Image.walkFrom, decodeEntry_ok hc hok]
          rfl
        have hrange : List.range' k (f - k) = k :: List.range' (k + 1) (f - (k + 1)) := by
          rw [show f - k = f - (k + 1) + 1 by omega, List.range'_succ]
        obtain ⟨hfiles, hend, hfail⟩ := ih (cursorAt_succ hok) hlt (by omega)
        rw [hwalk, hrange]
        refine ⟨?_, hend, hfail⟩
        rw [List.map_cons, List.map_cons, fileAt_of_chained hok, hfiles]
      · obtain ⟨e, he⟩ := hf.fails (by omega)
        have hentry := decodeEntry_error hc he
        have hwalk : image.walkFrom (left + 1) k cursor =
            ⟨[], some (e.withContext (some k) none none),
              (image.decodeEntry k cursor).entries⟩ := by
          rw [Image.walkFrom]
          cases hd : image.decodeEntry k cursor with
          | mk entries outcome =>
              rw [hd] at hentry
              cases hentry
              rfl
        rw [hwalk, Nat.sub_self]
        refine ⟨rfl, fun h => absurd h (by omega), fun e' _ he' => ?_⟩
        rw [he] at he'
        cases he'
        rfl

/-! The walk record by record. -/

/-- The walk after some records were asked for, whatever the answers were. -/
def walkAfter (image : Image) : Nat → Walk
  | 0 => image.walk
  | k + 1 => (image.advance (image.walkAfter k)).2

/-- What the walk answers when one more record is asked for. -/
def pull (image : Image) (k : Nat) : Decode (Option DexFile) :=
  (image.advance (image.walkAfter k)).1.outcome

theorem advance_ok {record : Record} {next : Int} (hc : image.cursorAt k = .ok cursor)
    (hk : k < image.dexFileCount) (h : image.chained k = .ok (record, next)) :
    image.advance ⟨k, cursor, false⟩ =
      (⟨[], .ok (some ⟨k, record⟩)⟩, ⟨k + 1, next, false⟩) := by
  have hopen : ¬ ((false || image.dexFileCount ≤ k) = true) := by
    simp only [Bool.false_or, decide_eq_true_eq]
    omega
  rw [advance, if_neg hopen, decodeEntry_ok hc h]

theorem advance_error {e : Fault} (hc : image.cursorAt k = .ok cursor)
    (hk : k < image.dexFileCount) (h : image.chained k = .error e) :
    (image.advance ⟨k, cursor, false⟩).1.outcome =
        .error (e.withContext (some k) none none) ∧
      (image.advance ⟨k, cursor, false⟩).2.ended = true := by
  have hopen : ¬ ((false || image.dexFileCount ≤ k) = true) := by
    simp only [Bool.false_or, decide_eq_true_eq]
    omega
  have hentry := decodeEntry_error hc h
  rw [advance, if_neg hopen]
  cases hd : image.decodeEntry k cursor with
  | mk entries outcome =>
      rw [hd] at hentry
      cases hentry
      exact ⟨rfl, rfl⟩

theorem advance_over {w : Walk} (h : w.ended = true ∨ image.dexFileCount ≤ w.index) :
    image.advance w = (pure none, { w with ended := true }) := by
  have hover : (w.ended || image.dexFileCount ≤ w.index) = true := by
    simp only [Bool.or_eq_true, decide_eq_true_eq]
    exact h
  rw [advance, if_pos hover]

/-- As long as the records decode the walk is where the reference walk is. -/
theorem StopsAt.walkAfter (hf : image.StopsAt f) (hk : k ≤ f) :
    ∃ cursor, image.cursorAt k = .ok cursor ∧ image.walkAfter k = ⟨k, cursor, false⟩ := by
  induction k with
  | zero => exact ⟨_, rfl, rfl⟩
  | succ k ih =>
      obtain ⟨cursor, hc, hw⟩ := ih (Nat.le_of_succ_le hk)
      obtain ⟨record, next, hok⟩ := hf.decodes k hk
      refine ⟨next, cursorAt_succ hok, ?_⟩
      rw [Image.walkAfter, hw, advance_ok hc (Nat.lt_of_lt_of_le hk hf.le) hok]

/-- After the record that fails, or after the end, the walk is over. -/
theorem StopsAt.walkAfter_ended (hf : image.StopsAt f) (hk : f < k) :
    (image.walkAfter k).ended = true := by
  induction k with
  | zero => exact absurd hk (Nat.not_lt_zero f)
  | succ k ih =>
      rcases Nat.lt_succ_iff_lt_or_eq.mp hk with hlt | rfl
      · rw [Image.walkAfter, advance_over (.inl (ih hlt))]
      · obtain ⟨cursor, hc, hw⟩ := hf.walkAfter (Nat.le_refl f)
        rw [Image.walkAfter, hw]
        by_cases h : f < image.dexFileCount
        · obtain ⟨e, he⟩ := hf.fails h
          exact (advance_error hc h he).2
        · rw [advance_over (.inr (Nat.le_of_not_lt h))]

theorem StopsAt.pull_file (hf : image.StopsAt f) (hk : k < f) :
    image.pull k = some <$> image.fileAt k := by
  obtain ⟨cursor, hc, hw⟩ := hf.walkAfter (Nat.le_of_lt hk)
  obtain ⟨record, next, hok⟩ := hf.decodes k hk
  rw [pull, hw, advance_ok hc (Nat.lt_of_lt_of_le hk hf.le) hok, fileAt_of_chained hok]
  rfl

theorem StopsAt.pull_fault {e : Fault} (hf : image.StopsAt f) (h : f < image.dexFileCount)
    (he : image.chained f = .error e) :
    image.pull f = .error (e.withContext (some f) none none) := by
  obtain ⟨cursor, hc, hw⟩ := hf.walkAfter (Nat.le_refl f)
  rw [pull, hw]
  exact (advance_error hc h he).1

theorem StopsAt.pull_end (hf : image.StopsAt f)
    (hk : f < k ∨ k = f ∧ f = image.dexFileCount) : image.pull k = .ok none := by
  rcases hk with hlt | ⟨rfl, hn⟩
  · rw [pull, advance_over (.inl (hf.walkAfter_ended hlt))]
    rfl
  · obtain ⟨cursor, _, hw⟩ := hf.walkAfter (Nat.le_refl k)
    rw [pull, hw, advance_over (.inr (Nat.le_of_eq hn.symm))]
    rfl

/-! The record with an index. -/

theorem StopsAt.takeAfter_file (hf : image.StopsAt f) (skipped : Nat)
    (hc : image.cursorAt k = .ok cursor) (h : k + skipped < f) :
    (image.takeAfter skipped ⟨k, cursor, false⟩).outcome = image.fileAt (k + skipped) := by
  obtain ⟨record, next, hok⟩ := hf.decodes k (by omega)
  have hn := hf.le
  induction skipped generalizing k cursor record next with
  | zero =>
      rw [takeAfter, advance_ok hc (by omega) hok]
      exact (fileAt_of_chained hok).symm
  | succ skipped ih =>
      obtain ⟨record', next', hok'⟩ := hf.decodes (k + 1) (by omega)
      rw [takeAfter, advance_ok hc (by omega) hok]
      have hrec := ih (cursorAt_succ hok) (by omega) record' next' hok'
      rw [show k + (skipped + 1) = k + 1 + skipped by omega, ← hrec]
      rfl

theorem StopsAt.takeAfter_fault {e : Fault} (hf : image.StopsAt f) (skipped : Nat)
    (hc : image.cursorAt k = .ok cursor) (hk : k ≤ f) (h : f ≤ k + skipped)
    (hn : f < image.dexFileCount) (he : image.chained f = .error e) :
    (image.takeAfter skipped ⟨k, cursor, false⟩).outcome =
      .error (e.withContext (some f) none none) := by
  induction skipped generalizing k cursor with
  | zero =>
      have hkf : k = f := Nat.le_antisymm hk h
      subst hkf
      rw [takeAfter, Logged.outcome_bind, (advance_error hc hn he).1]
      rfl
  | succ skipped ih =>
      rcases Nat.lt_or_eq_of_le hk with hlt | rfl
      · obtain ⟨record, next, hok⟩ := hf.decodes k hlt
        rw [takeAfter, advance_ok hc (by omega) hok]
        have hrec := ih (cursorAt_succ hok) hlt (by omega)
        rw [← hrec]
        rfl
      · have hstep := (advance_error hc hn he).1
        rw [takeAfter]
        cases ha : image.advance ⟨k, cursor, false⟩ with
        | mk step w =>
            rw [ha] at hstep
            rw [Logged.outcome_bind, hstep]
            rfl

/-! The first record with a location. -/

theorem findFrom_eq_find (location : List UInt8) (left : Nat) :
    (image.findFrom location left k cursor).outcome =
      (image.walkFrom left k cursor).find location := by
  induction left generalizing k cursor with
  | zero => rfl
  | succ left ih =>
      rw [Image.findFrom, Image.walkFrom, Logged.outcome_bind]
      cases hd : image.decodeEntry k cursor with
      | mk entries outcome =>
          cases outcome with
          | error e => rfl
          | ok reached =>
              obtain ⟨file, next⟩ := reached
              show (if file.record.location = location then pure (some file)
                else image.findFrom location left (k + 1) next).outcome = _
              unfold Walked.find
              by_cases hl : file.record.location = location
              · rw [if_pos hl, List.find?_cons_of_pos (by simpa using hl)]
                rfl
              · rw [if_neg hl, ih, List.find?_cons_of_neg (by simpa using hl)]
                rfl

end Image

end OatImage
