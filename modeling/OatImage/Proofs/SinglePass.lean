import OatImage.Proofs.TracedWalks

/-!
# A search for a class as a single pass

A search for a class reaches each dex file by a walk of its own from the start of the stream. It
comes to what a single pass over the dex files comes to, in which each one is searched as soon as
the walk yields it: to the same answer or the same failure, with the same entries. For a walk that
reaches a dex file writes nothing, and the next one decodes again what it decoded. So a search
ends with the first dex file that does not decode, that has the class or whose search fails, and
what stands behind it is not seen.
-/
namespace OatImage

/-- A step that does not fail has nothing to report. -/
theorem Logged.reporting_ok {α : Type} {d : Decode α} {entry : DecodeFault → Entry}
    {gain : DecodeFault → DecodeFault} {a : α} (h : (reporting d entry gain).outcome = .ok a) :
    reporting d entry gain = ⟨[], .ok a⟩ := by
  cases d with
  | ok b =>
      cases h
      rfl
  | error e => cases e <;> cases h

namespace Image

open Decode

/-- One turn of the pass: the walk yields a dex file, and the file is searched. The pass goes on
where there is no answer. -/
def turn (image : Image) (descriptor : Text) (w : Walk) :
    Logged (Option (Option ResolvedClass)) := do
  match ← (image.advance w).1 with
  | none => pure (some none)
  | some file =>
    match ← image.findClassIn file descriptor with
    | some c => pure (some (some c))
    | none => pure none

/-- What a pass comes to from a walk on, turn after turn up to the first with an answer or a
failure. -/
inductive Passes (image : Image) (descriptor : Text) :
    Walk → Logged (Option ResolvedClass) → Prop
  | answered (w : Walk) (entries : List Entry) (answer : Option ResolvedClass)
      (h : image.turn descriptor w = ⟨entries, .ok (some answer)⟩) :
      Passes image descriptor w ⟨entries, .ok answer⟩
  | failed (w : Walk) (entries : List Entry) (e : Fault)
      (h : image.turn descriptor w = ⟨entries, .error e⟩) :
      Passes image descriptor w ⟨entries, .error e⟩
  | passed (w : Walk) (entries : List Entry) (rest : Logged (Option ResolvedClass))
      (h : image.turn descriptor w = ⟨entries, .ok none⟩)
      (hrest : Passes image descriptor (image.advance w).2 rest) :
      Passes image descriptor w ⟨entries ++ rest.entries, rest.outcome⟩

/-- The dex files before a position decode, and none of them has the class. -/
def Lacks (image : Image) (descriptor : Text) (k : Nat) : Prop :=
  ∀ j < k, ∃ file, image.fileAt j = .ok file ∧
    (image.findClassIn file descriptor).outcome = .ok none

/-- A search is a single pass over the dex files. Behind those without the class it ends with the
first one that does not decode, and with the search of the first one that has the class or fails;
if there is none it ends without a class. -/
structure IsSinglePass (image : Image) (descriptor : Text)
    (search : Logged (Option ResolvedClass)) : Prop where
  passes : ∀ result, image.Passes descriptor image.walk result ↔ result = search
  unreadable : ∀ k < image.dexFileCount, image.Lacks descriptor k →
    ∀ d, image.fileAt k = .error (.decode d) →
      search = ⟨[recordEntry k d], .error (.decode (d.withContext (some k) none none))⟩
  decided : ∀ k < image.dexFileCount, image.Lacks descriptor k →
    ∀ file, image.fileAt k = .ok file →
      (image.findClassIn file descriptor).outcome ≠ .ok none →
        search = image.findClassIn file descriptor
  absent : image.Lacks descriptor image.dexFileCount → search = ⟨[], .ok none⟩

variable {image : Image} {descriptor : Text} {k : Nat} {cursor : Int}

/-- A pass comes to one result. -/
theorem Passes.unique {w : Walk} {result result' : Logged (Option ResolvedClass)}
    (h : image.Passes descriptor w result) (h' : image.Passes descriptor w result') :
    result = result' := by
  induction h generalizing result' with
  | answered w entries answer h =>
      cases h' with
      | answered _ _ _ h' =>
          cases h.symm.trans h'
          rfl
      | failed _ _ _ h' => exact nomatch h.symm.trans h'
      | passed _ _ _ h' _ => exact nomatch h.symm.trans h'
  | failed w entries e h =>
      cases h' with
      | answered _ _ _ h' => exact nomatch h.symm.trans h'
      | failed _ _ _ h' =>
          cases h.symm.trans h'
          rfl
      | passed _ _ _ h' _ => exact nomatch h.symm.trans h'
  | passed w entries rest h hrest ih =>
      cases h' with
      | answered _ _ _ h' => exact nomatch h.symm.trans h'
      | failed _ _ _ h' => exact nomatch h.symm.trans h'
      | passed _ _ rest' h' hrest' =>
          cases h.symm.trans h'
          rw [ih hrest']

/-! How far a walk of its own goes. -/

theorem exists_of_cursorAt_succ {next : Int} (h : image.cursorAt (k + 1) = .ok next) :
    ∃ cursor record, image.cursorAt k = .ok cursor ∧ image.chained k = .ok (record, next) := by
  obtain ⟨⟨record, next'⟩, hchained, hnext⟩ := bind_eq_ok.mp h
  cases hnext
  cases k with
  | zero => exact ⟨_, record, rfl, hchained⟩
  | succ k =>
      obtain ⟨⟨before, cursor⟩, hbefore, _⟩ := bind_eq_ok.mp hchained
      exact ⟨cursor, record, cursorAt_succ hbefore, hchained⟩

/-- Every walk from the start passes the records that decode, without an entry. -/
theorem takeAfter_of_cursorAt (hc : image.cursorAt k = .ok cursor) (hk : k ≤ image.dexFileCount)
    (skipped : Nat) : image.takeAfter (k + skipped) image.walk =
      image.takeAfter skipped ⟨k, cursor, false⟩ := by
  induction k generalizing cursor skipped with
  | zero =>
      cases hc
      rw [Nat.zero_add]
      rfl
  | succ k ih =>
      obtain ⟨before, record, hbefore, hchained⟩ := exists_of_cursorAt_succ hc
      have hpass : image.takeAfter (skipped + 1) ⟨k, before, false⟩ =
          image.takeAfter skipped ⟨k + 1, cursor, false⟩ := by
        rw [takeAfter, advance_ok hbefore hk hchained]
        rfl
      rw [Nat.add_right_comm, Nat.add_assoc, ih hbefore (Nat.le_of_succ_le hk), hpass]

theorem dexFile_of_cursorAt (hc : image.cursorAt k = .ok cursor) (hk : k < image.dexFileCount) :
    image.dexFile k = image.takeAfter 0 ⟨k, cursor, false⟩ := by
  rw [dexFile_of_lt hk]
  exact takeAfter_of_cursorAt hc (Nat.le_of_lt hk) 0

theorem dexFile_of_chained {record : Record} {next : Int} (hc : image.cursorAt k = .ok cursor)
    (hk : k < image.dexFileCount) (h : image.chained k = .ok (record, next)) :
    image.dexFile k = ⟨[], .ok ⟨k, record⟩⟩ := by
  rw [dexFile_of_cursorAt hc hk, takeAfter, advance_ok hc hk h]
  rfl

/-- The walk to a record that does not decode ends as the pass does. -/
theorem dexFile_of_advance {entries : List Entry} {e : Fault} {w : Walk}
    (hc : image.cursorAt k = .ok cursor) (hk : k < image.dexFileCount)
    (h : image.advance ⟨k, cursor, false⟩ = (⟨entries, .error e⟩, w)) :
    image.dexFile k = ⟨entries, .error e⟩ := by
  rw [dexFile_of_cursorAt hc hk, takeAfter, h]
  rfl

/-- A record that does not decode leaves one entry, with its position. -/
theorem advance_of_fault {d : DecodeFault} (hc : image.cursorAt k = .ok cursor)
    (hk : k < image.dexFileCount) (h : image.chained k = .error (.decode d)) :
    image.advance ⟨k, cursor, false⟩ =
      (⟨[recordEntry k d], .error (.decode (d.withContext (some k) none none))⟩,
        ⟨k, cursor, true⟩) := by
  have hentry : image.decodeEntry k cursor =
      ⟨[recordEntry k d], .error (.decode (d.withContext (some k) none none))⟩ := by
    rw [chained_of_cursorAt hc] at h
    rw [decodeEntry, h]
    rfl
  have hopen : ¬ (false || image.dexFileCount ≤ k) = true := by
    simpa only [Bool.false_or, decide_eq_true_eq, Nat.not_le] using hk
  rw [advance, if_neg hopen, hentry]

/-! The search is the pass. -/

/-- The search goes on behind a dex file without the class. -/
theorem findClassFrom_of_chained {record : Record} {next : Int} (left : Nat)
    (hc : image.cursorAt k = .ok cursor) (hk : k < image.dexFileCount)
    (h : image.chained k = .ok (record, next)) :
    image.findClassFrom descriptor (left + 1) k =
      image.findClassIn ⟨k, record⟩ descriptor >>= fun found =>
        match found with
        | some c => pure (some c)
        | none => image.findClassFrom descriptor left (k + 1) := by
  rw [findClassFrom, dexFile_of_chained hc hk h]
  rfl

/-- So does the pass. -/
theorem turn_of_chained {record : Record} {next : Int} (descriptor : Text)
    (hc : image.cursorAt k = .ok cursor) (hk : k < image.dexFileCount)
    (h : image.chained k = .ok (record, next)) :
    image.turn descriptor ⟨k, cursor, false⟩ =
      image.findClassIn ⟨k, record⟩ descriptor >>= fun found =>
        match found with
        | some c => pure (some (some c))
        | none => pure none := by
  rw [turn, advance_ok hc hk h]
  rfl

/-- From a position that the walk reaches on, the search is the pass. -/
theorem passes_findClassFrom (left : Nat) (hc : image.cursorAt k = .ok cursor)
    (hleft : k + left = image.dexFileCount) :
    image.Passes descriptor ⟨k, cursor, false⟩ (image.findClassFrom descriptor left k) := by
  induction left generalizing k cursor with
  | zero =>
      have hover : image.advance ⟨k, cursor, false⟩ = (pure none, ⟨k, cursor, true⟩) :=
        advance_over (.inr (Nat.le_of_eq hleft.symm))
      apply Passes.answered
      rw [turn, hover]
      rfl
  | succ left ih =>
      have hk : k < image.dexFileCount := by omega
      cases hchained : image.chained k with
      | error e =>
          have hfail := (advance_error hc hk hchained).1
          rcases hstep : image.advance ⟨k, cursor, false⟩ with ⟨⟨entries, outcome⟩, w⟩
          rw [hstep] at hfail
          cases hfail
          rw [findClassFrom, dexFile_of_advance hc hk hstep]
          apply Passes.failed
          rw [turn, hstep]
          rfl
      | ok reached =>
          obtain ⟨record, next⟩ := reached
          have hturn := turn_of_chained descriptor hc hk hchained
          rw [findClassFrom_of_chained left hc hk hchained]
          rcases hsearch : image.findClassIn ⟨k, record⟩ descriptor with ⟨entries, outcome⟩
          rw [hsearch] at hturn
          cases outcome with
          | error e => exact .failed _ entries e hturn
          | ok found =>
              cases found with
              | some c => exact .answered _ (entries ++ []) (some c) hturn
              | none =>
                  have hpass : image.turn descriptor ⟨k, cursor, false⟩ = ⟨entries, .ok none⟩ := by
                    rw [hturn]
                    exact congrArg (Logged.mk · _) (List.append_nil entries)
                  have hrest := ih (cursorAt_succ hchained) (by omega)
                  have hnext : (image.advance ⟨k, cursor, false⟩).2 = ⟨k + 1, next, false⟩ := by
                    rw [advance_ok hc hk hchained]
                  rw [← hnext] at hrest
                  exact .passed _ entries _ hpass hrest

/-! Where the search ends. -/

/-- A search in one dex file that ends without a failure writes nothing. -/
theorem findClassIn_ok {file : DexFile} {found : Option ResolvedClass}
    (h : (image.findClassIn file descriptor).outcome = .ok found) :
    image.findClassIn file descriptor = ⟨[], .ok found⟩ := by
  rw [findClassIn] at h ⊢
  generalize Decode.withContext none (some file.location) (some descriptor)
    (file.module image >>= fun m => m.locate descriptor) = located at h ⊢
  cases located with
  | error e => cases h
  | ok definition =>
      cases definition with
      | none =>
          cases h
          rfl
      | some definition =>
          have hmap : (some <$> image.resolve file definition (some descriptor)).outcome =
              .ok found := h
          show some <$> image.resolve file definition (some descriptor) = ⟨[], .ok found⟩
          rw [Logged.outcome_map] at hmap
          cases hresolved : (image.resolve file definition (some descriptor)).outcome with
          | error e =>
              rw [hresolved] at hmap
              cases hmap
          | ok c =>
              rw [hresolved] at hmap
              cases hmap
              have hsilent : image.resolve file definition (some descriptor) = ⟨[], .ok c⟩ :=
                Logged.reporting_ok hresolved
              rw [hsilent]
              rfl

/-- Behind the dex files without the class the search is where the walk is. -/
theorem findClass_of_lacks (hk : k ≤ image.dexFileCount) (h : image.Lacks descriptor k) :
    image.findClass descriptor = image.findClassFrom descriptor (image.dexFileCount - k) k ∧
      ∃ cursor, image.cursorAt k = .ok cursor := by
  induction k with
  | zero => exact ⟨rfl, _, rfl⟩
  | succ k ih =>
      obtain ⟨hsearch, cursor, hc⟩ :=
        ih (Nat.le_of_succ_le hk) fun j hj => h j (Nat.lt_succ_of_lt hj)
      obtain ⟨file, hfile, hnone⟩ := h k (Nat.lt_succ_self k)
      obtain ⟨⟨record, next⟩, hchained, heq⟩ := bind_eq_ok.mp hfile
      cases heq
      refine ⟨?_, next, cursorAt_succ hchained⟩
      have hleft : image.dexFileCount - k = image.dexFileCount - (k + 1) + 1 := by omega
      rw [hsearch, hleft, findClassFrom_of_chained _ hc hk hchained, findClassIn_ok hnone]
      rfl

theorem chained_of_fileAt_error {e : Fault} (h : image.fileAt k = .error e) :
    image.chained k = .error e := by
  cases hreached : image.chained k with
  | error e' =>
      rw [fileAt, hreached] at h
      cases h
      rfl
  | ok reached =>
      rw [fileAt, hreached] at h
      cases h

/-- A record that does not decode is the failure of the search. -/
theorem findClass_of_unreadable (hk : k < image.dexFileCount) (h : image.Lacks descriptor k)
    {d : DecodeFault} (hfile : image.fileAt k = .error (.decode d)) :
    image.findClass descriptor =
      ⟨[recordEntry k d], .error (.decode (d.withContext (some k) none none))⟩ := by
  obtain ⟨hsearch, cursor, hc⟩ := findClass_of_lacks (Nat.le_of_lt hk) h
  have hleft : image.dexFileCount - k = image.dexFileCount - (k + 1) + 1 := by omega
  have hstep := advance_of_fault hc hk (chained_of_fileAt_error hfile)
  rw [hsearch, hleft, findClassFrom, dexFile_of_advance hc hk hstep]
  rfl

/-- A dex file that decides the search is the last one that is searched. -/
theorem findClass_of_decided (hk : k < image.dexFileCount) (h : image.Lacks descriptor k)
    {file : DexFile} (hfile : image.fileAt k = .ok file)
    (hdecided : (image.findClassIn file descriptor).outcome ≠ .ok none) :
    image.findClass descriptor = image.findClassIn file descriptor := by
  obtain ⟨hsearch, cursor, hc⟩ := findClass_of_lacks (Nat.le_of_lt hk) h
  have hleft : image.dexFileCount - k = image.dexFileCount - (k + 1) + 1 := by omega
  obtain ⟨⟨record, next⟩, hchained, heq⟩ := bind_eq_ok.mp hfile
  cases heq
  rw [hsearch, hleft, findClassFrom_of_chained _ hc hk hchained]
  rcases hin : image.findClassIn ⟨k, record⟩ descriptor with ⟨entries, outcome⟩
  rw [hin] at hdecided
  cases outcome with
  | error e => rfl
  | ok found =>
      cases found with
      | none => exact absurd rfl hdecided
      | some c => exact congrArg (Logged.mk · _) (List.append_nil entries)

/-- A search for a class is a single pass: it reads as far as the first dex file that decides it,
and whatever fails up to there is its failure. -/
theorem findClass_isSinglePass (image : Image) (descriptor : Text) :
    image.IsSinglePass descriptor (image.findClass descriptor) := by
  have hpass : image.Passes descriptor image.walk (image.findClass descriptor) :=
    passes_findClassFrom image.dexFileCount rfl (Nat.zero_add _)
  constructor
  · intro result
    constructor
    · exact fun h => h.unique hpass
    · rintro rfl
      exact hpass
  · intro k hk hlacks d hfile
    exact findClass_of_unreadable hk hlacks hfile
  · intro k hk hlacks file hfile hdecided
    exact findClass_of_decided hk hlacks hfile hdecided
  · intro hlacks
    obtain ⟨hsearch, _⟩ := findClass_of_lacks (Nat.le_refl _) hlacks
    rw [hsearch, Nat.sub_self]
    rfl

end Image

end OatImage
