import OatImage.Proofs.ImageFaults
import OatImage.Proofs.MovedModules
import OatImage.Proofs.Walks
import OatImage.ResolvedMethod

/-!
# Operations on a moved image

An image extends another one if its region does, and its header and instruction set are the
same. Then every operation on the first image is tracked by the same operation on the second:
the store and the header, each record of the directory and every walk through them, classes
with their records, methods with their code slots. What an operation is given moves with it:
cursors, dex files, classes and methods that were found before.

Absolute addresses occur in the header, in a record of the directory, in a class record and in
a code slot. Everything else in an answer is an offset, an index or text.
-/
namespace OatImage

open Decode

def Header.moveBy (d : Int) (h : Header) : Header := { h with address := h.address + d }

def Record.moveBy (d : Int) (r : Record) : Record :=
  { r with dexPointer := r.dexPointer + d, address := r.address + d }

def DexFile.moveBy (d : Int) (f : DexFile) : DexFile := { f with record := f.record.moveBy d }

def Walk.moveBy (d : Int) (w : Walk) : Walk := { w with cursor := w.cursor + d }

def ClassRecord.moveBy (d : Int) (c : ClassRecord) : ClassRecord :=
  { c with address := c.address + d, table := c.table.map (· + d) }

/-- A code offset counts from the start of the image, so only the slot itself moves. -/
def CodeSlot.moveBy (d : Int) (s : CodeSlot) : CodeSlot := { s with address := s.address + d }

def ResolvedClass.moveBy (d : Int) (c : ResolvedClass) : ResolvedClass :=
  { c with file := c.file.moveBy d, record := c.record.moveBy d }

def ResolvedMethod.moveBy (d : Int) (x : ResolvedMethod) : ResolvedMethod :=
  { x with owner := x.owner.moveBy d, slot := x.slot.map (CodeSlot.moveBy d) }

theorem InstructionSet.codePointer_add {isa : InstructionSet} {d : Int}
    (h : d % 2 = 0 ∨ isa.isTagged = false) (address : Int) :
    isa.codePointer (address + d) = isa.codePointer address + d := by
  unfold codePointer
  by_cases htag : isa.isTagged = true
  · have heven : d % 2 = 0 := h.resolve_right fun hno => by rw [htag] at hno; cases hno
    rw [if_pos htag, if_pos htag]
    omega
  · rw [if_neg htag, if_neg htag]

/-- An entry point without a tag gains one when it moves by an odd distance. -/
example : InstructionSet.codePointer .arm (4096 + 1) ≠
    InstructionSet.codePointer .arm 4096 + 1 := by decide

/-- The same bytes, header and instruction set at other addresses. -/
def Image.moveBy (d : Int) (image : Image) : Image :=
  { image with region := image.region.moveBy d, header := image.header.moveBy d }

section
variable {d : Int} {cut : Prop} {r r' : Region}

theorem Header.decode_tracks (h : r.Extends d cut r') {address address' : Int}
    (ha : address' = address + d) :
    Tracks d cut (Header.moveBy d) (Header.decode r address) (Header.decode r' address') := by
  refine (h.readBytes ha rfl "OAT magic").bind fun magic _ => ?_
  refine (h.readBytes (by omega) rfl "OAT version").bind fun version _ => ?_
  refine (h.check ha _ "OAT header").bind fun _ _ => ?_
  refine (h.word 4 (by omega) "OAT header").bind fun checksum _ => ?_
  refine (h.word 4 (by omega) "OAT header").bind fun instructionSetCode _ => ?_
  refine (h.word 4 (by omega) "OAT header").bind fun features _ => ?_
  refine (h.word 4 (by omega) "OAT header").bind fun dexFileCount _ => ?_
  refine (h.word 4 (by omega) "OAT header").bind fun executableOffset _ => ?_
  refine (h.u32s (by omega) _ "OAT trampolines").bind fun trampolines _ => ?_
  refine (h.i32 (by omega) "image_patch_delta").bind fun imagePatchDelta _ => ?_
  refine (h.word 4 (by omega) "OAT header").bind fun imageChecksum _ => ?_
  refine (h.word 4 (by omega) "OAT header").bind fun imageDataBegin _ => ?_
  refine (h.word 4 (by omega) "OAT header").bind fun keyValueStoreSize _ => ?_
  subst ha
  exact Tracks.pure _

namespace KeyValueStore

/-- The limit of the pairs lies in the window, so a zero byte is found on both sides or on
neither one. Behind the first one no address is negative any more. -/
theorem readFrom_tracks (h : r.Extends d cut r') {limit limit' : Int} (hin : limit ≤ r.stop)
    (hl : limit' = limit + d) (steps : Nat) {cursor cursor' : Int} (hc : cursor' = cursor + d)
    (hsign : r.Alike d 0 cursor limit) (store : KeyValueStore) :
    Tracks d cut (fun s => s) (readFrom r limit steps cursor store)
      (readFrom r' limit' steps cursor' store) := by
  induction steps generalizing cursor cursor' store with
  | zero => exact Tracks.ok store
  | succ steps ih =>
      refine Tracks.ite (by omega) (fun _ => Tracks.ok store) fun _ => ?_
      have hkey := h.findByte hsign hc hl hin
      refine Tracks.ite (by omega) (fun _ => Tracks.inImage .unterminatedKey hc) fun hfound => ?_
      have hnext : r'.findByte cursor' 0 limit' + 1 = r.findByte cursor 0 limit + 1 + d := by
        omega
      have hbehind : r.Alike d 0 (r.findByte cursor 0 limit + 1) limit :=
        Region.alike_of_nonneg (by omega) (by omega)
      have hvalue := h.findByte hbehind hnext hl hin
      refine Tracks.ite (by omega) (fun _ => Tracks.inImage .unterminatedValue hnext)
        fun hfound' => ?_
      refine (h.readBytes hc (by omega) "read").bind fun key _ => ?_
      refine (h.readBytes hnext (by omega) "read").bind fun value _ => ?_
      have hrange := Region.findByte_range (Int.not_lt.mp hfound')
      exact ih (by omega) (Region.alike_of_nonneg (by omega) (by omega)) _

theorem read_tracks (h : r.Extends d cut r') {start start' : Int} (hs : start' = start + d)
    (size : Int)
    (hsign : r.contains start size = true → r.Alike d 0 start (start + size)) :
    Tracks d cut (fun s => s) (read r start size) (read r' start' size) := by
  refine (h.check hs size "key-value store").bind fun _ hcheck => ?_
  have hcontains := Region.contains_of_check hcheck
  have hin := Region.contains_iff.mp hcontains
  exact readFrom_tracks h hin.2.2 (by omega) _ hs (hsign hcontains) []

end KeyValueStore

namespace ClassRecord

theorem decode_tracks (h : r.Extends d cut r') (address : Option Int) :
    Tracks d cut (moveBy d) (decode r address) (decode r' (address.map (· + d))) := by
  cases address with
  | none => exact Tracks.error (.decode { cause := .zeroClassOffset })
  | some address =>
      show Tracks d cut _ (decode r (some address)) (decode r' (some (address + d)))
      refine (h.i16 rfl "OatClass status").bind fun status _ => ?_
      refine (h.word 2 (by omega) "OatClass type").bind fun code _ => ?_
      match Coverage.ofCode? code with
      | none => exact Tracks.error (.inImage (.unknownClassKind code) address)
      | some .none => exact Tracks.pure _
      | some .all =>
          rw [Int.add_right_comm address d 4]
          exact Tracks.pure (ClassRecord.mk address status .all none (some (address + 4)))
      | some .some =>
          refine (h.word 4 (by omega) "OatClass bitmap size").bind fun size _ => ?_
          refine (h.readBytes (by omega) rfl "OatClass bitmap").bind fun bitmap _ => ?_
          rw [show address + d + 8 + (size : Int) = address + 8 + size + d by omega]
          exact Tracks.pure
            (ClassRecord.mk address status .some (some bitmap) (some (address + 8 + size)))

/-- The entry of a method in the table is looked up without a read. -/
theorem entryIndex_natCast (c : ClassRecord) (k : Nat) : ∃ entry, c.entryIndex k = .ok entry := by
  unfold entryIndex
  cases c.bitmap with
  | none => exact ⟨_, rfl⟩
  | some bitmap =>
      dsimp only
      rw [Bitmap.isSet_natCast]
      by_cases h : Bitmap.bit bitmap k = true
      · rw [h, Bitmap.rank_of_bit h]
        exact ⟨_, rfl⟩
      · rw [Bool.not_eq_true] at h
        rw [h]
        exact ⟨_, rfl⟩

theorem codeSlot_tracks (h : r.Extends d cut r') (c : ClassRecord) (k : Nat) :
    Tracks d cut (Option.map (CodeSlot.moveBy d)) (codeSlot r c k)
      (codeSlot r' (c.moveBy d) k) := by
  unfold codeSlot moveBy
  cases c.table with
  | none => exact Tracks.ok none
  | some table =>
      obtain ⟨entry, hentry⟩ := c.entryIndex_natCast k
      show Tracks d cut _ (c.entryIndex k >>= _) (c.entryIndex k >>= _)
      rw [hentry]
      cases entry with
      | none => exact Tracks.ok none
      | some entry =>
          have ha : table + d + 4 * entry = table + 4 * entry + d := by omega
          refine (h.word 4 ha "OatMethodOffsets").bind fun codeOffset _ => ?_
          rw [ha]
          exact Tracks.pure (some (CodeSlot.mk (table + 4 * entry) codeOffset))

end ClassRecord

end

/-! Steps with a journal. What they write is no part of their outcome. -/

theorem Logged.bind_tracks {α β γ δ : Type} {d : Int} {cut : Prop} {move : α → β} {next : γ → δ}
    {x : Logged α} {x' : Logged β} {f : α → Logged γ} {f' : β → Logged δ}
    (h : Tracks d cut move x.outcome x'.outcome)
    (hf : ∀ a, x.outcome = .ok a → Tracks d cut next (f a).outcome (f' (move a)).outcome) :
    Tracks d cut next (x >>= f).outcome (x' >>= f').outcome := by
  rw [Logged.outcome_bind, Logged.outcome_bind]
  exact h.bind hf

theorem Logged.liftM_bind_tracks {α β γ δ : Type} {d : Int} {cut : Prop} {move : α → β}
    {next : γ → δ} {x : Decode α} {x' : Decode β} {f : α → Logged γ} {f' : β → Logged δ}
    (h : Tracks d cut move x x')
    (hf : ∀ a, Tracks d cut next (f a).outcome (f' (move a)).outcome) :
    Tracks d cut next (liftM x >>= f).outcome (liftM x' >>= f').outcome := by
  have hlift : Tracks d cut move (liftM x : Logged α).outcome (liftM x' : Logged β).outcome := by
    rw [Logged.outcome_liftM, Logged.outcome_liftM]
    exact h
  exact Logged.bind_tracks hlift fun a _ => hf a

/-- The second walk found what the first one found, moved; or the first one ended with a failure
to decode where bytes may be cut off, and the second one found the same up to there. -/
def Walked.Tracks (d : Int) (cut : Prop) (w w' : Walked) : Prop :=
  (w'.files = w.files.map (DexFile.moveBy d) ∧ w'.failure = w.failure.map (Fault.moveBy d)) ∨
    cut ∧ (∃ e, w.failure = some (.decode e)) ∧ w.files.map (DexFile.moveBy d) <+: w'.files

/-- The second image shows the bytes of the first one, moved, under the same header; where bytes
may be cut off from the first one it may go on behind them. -/
structure Image.Extends (d : Int) (cut : Prop) (image image' : Image) : Prop where
  region : image.region.Extends d cut image'.region
  header : image'.header = image.header.moveBy d
  instructionSet : image'.instructionSet = image.instructionSet

namespace Image

variable {d : Int} {cut : Prop} {image image' : Image}

theorem extends_moveBy (h : image.region.Backed) : image.Extends d cut (image.moveBy d) where
  region := h.extends_moveBy
  header := rfl
  instructionSet := rfl

theorem extends_ofHeader {r r' : Region} (h : r.Extends d cut r') (header : Header)
    (asked : Option InstructionSet) :
    (ofHeader r header asked).Extends d cut (ofHeader r' (header.moveBy d) asked) where
  region := h
  header := rfl
  instructionSet := rfl

namespace Extends

variable (h : image.Extends d cut image')
include h

theorem storeStart_eq : image'.storeStart = image.storeStart + d := by
  have hb := h.region.begin_eq
  simp only [storeStart, begin, hb, h.header]
  exact Int.add_right_comm _ _ _

theorem recordsStart_eq : image'.recordsStart = image.recordsStart + d := by
  simp only [recordsStart, h.storeStart_eq, h.header]
  exact Int.add_right_comm _ _ _

theorem dexFileCount_eq : image'.dexFileCount = image.dexFileCount := by
  simp only [dexFileCount, h.header, Header.moveBy]

theorem pointer_eq (offset : Int) : image'.pointer offset = (image.pointer offset).map (· + d) := by
  have hb := h.region.begin_eq
  simp only [pointer, begin, hb]
  by_cases ho : offset = 0
  · rw [if_pos ho, if_pos ho]
    rfl
  · rw [if_neg ho, if_neg ho]
    exact congrArg some (Int.add_right_comm _ _ _)

theorem keyValueStore (hd : image.region.Unsigned d) :
    Tracks d cut (fun s => s) image.keyValueStore image'.keyValueStore := by
  have hsize : image'.header.keyValueStoreSize = image.header.keyValueStoreSize := by
    rw [h.header]
    rfl
  unfold Image.keyValueStore
  rw [hsize]
  exact KeyValueStore.read_tracks h.region h.storeStart_eq _ fun _ => hd.alike

theorem storeValue (hd : image.region.Unsigned d) (key : String) :
    Tracks d cut (fun v => v) (image.storeValue key) (image'.storeValue key) :=
  (h.keyValueStore hd).bind fun store _ => Tracks.pure (store.get? key)

/-! The directory. -/

theorem decodeNext {cursor cursor' : Int} (hc : cursor' = cursor + d) :
    Tracks d cut (Prod.map (Record.moveBy d) (· + d)) (image.decodeNext cursor)
      (image'.decodeNext cursor') := by
  subst hc
  refine (h.region.word 4 rfl "dex file location size").bind fun length _ => ?_
  refine (h.region.readBytes (by omega) rfl "dex file location").bind fun location _ => ?_
  refine (h.region.word 4 (by omega) "dex file location checksum").bind fun checksum _ => ?_
  refine (h.region.word 4 (by omega) "dex file offset").bind fun dexOffset _ => ?_
  rw [h.pointer_eq]
  cases image.pointer dexOffset with
  | none => exact Tracks.inImage .zeroDexOffset (by omega)
  | some dexPointer =>
      refine (Dex.classDefCount_tracks h.region rfl).bind fun count _ => ?_
      refine (h.region.u32s (by omega) count _).bind fun classOffsets _ => ?_
      refine .inl (congrArg Except.ok ?_)
      simp only [Prod.map, Record.moveBy, Prod.mk.injEq, Record.mk.injEq, true_and]
      omega

/-- What the decoder of a record answers, as a dex file with a position. -/
theorem decodeEntry (index : Nat) {cursor cursor' : Int} (hc : cursor' = cursor + d) :
    Tracks d cut (Prod.map (DexFile.moveBy d) (· + d)) (image.decodeEntry index cursor).outcome
      (image'.decodeEntry index cursor').outcome := by
  simp only [Image.decodeEntry, Logged.outcome_reporting]
  refine Tracks.withContext ?_ (some index) none none
  refine (h.decodeNext hc).bind ?_
  rintro ⟨record, next⟩ _
  exact Tracks.pure (DexFile.mk index record, next)

/-- A step of a walk: both walks go on alike, or the first one fails to decode where bytes may
be cut off, and is over. -/
theorem advance (w : Walk) :
    ((image'.advance (w.moveBy d)).1.outcome =
        (image.advance w).1.outcome.moveBy d (Option.map (DexFile.moveBy d)) ∧
      (image'.advance (w.moveBy d)).2 = (image.advance w).2.moveBy d) ∨
    cut ∧ (∃ e, (image.advance w).1.outcome = .error (.decode e)) ∧
      (image.advance w).2.ended = true := by
  have hentry : Tracks d cut (Prod.map (DexFile.moveBy d) (· + d))
      (image.decodeEntry w.index w.cursor).outcome
      (image'.decodeEntry (w.moveBy d).index (w.moveBy d).cursor).outcome :=
    h.decodeEntry w.index rfl
  have hover : ((w.moveBy d).ended || decide (image'.dexFileCount ≤ (w.moveBy d).index)) =
      (w.ended || decide (image.dexFileCount ≤ w.index)) := by
    rw [h.dexFileCount_eq]
    rfl
  unfold Image.advance
  rw [hover]
  by_cases hend : (w.ended || decide (image.dexFileCount ≤ w.index)) = true
  · rw [if_pos hend, if_pos hend]
    exact .inl ⟨rfl, rfl⟩
  · rw [if_neg hend, if_neg hend]
    revert hentry
    rcases image.decodeEntry w.index w.cursor with ⟨entries, outcome⟩
    rcases image'.decodeEntry (w.moveBy d).index (w.moveBy d).cursor with ⟨entries', outcome'⟩
    rintro (rfl | ⟨hcut, e, rfl⟩)
    · cases outcome with
      | ok found => exact .inl ⟨rfl, rfl⟩
      | error e => exact .inl ⟨rfl, rfl⟩
    · exact .inr ⟨hcut, ⟨e, rfl⟩, rfl⟩

theorem advance_tracks (w : Walk) :
    Tracks d cut (Option.map (DexFile.moveBy d)) (image.advance w).1.outcome
      (image'.advance (w.moveBy d)).1.outcome := by
  rcases h.advance w with ⟨houtcome, _⟩ | ⟨hcut, hfail, _⟩
  · exact .inl houtcome
  · exact .inr ⟨hcut, hfail⟩

/-- By induction on the number of records left: both walks yield a record and go on from there,
or the first one stops. -/
theorem walkFrom (left index : Nat) {cursor cursor' : Int} (hc : cursor' = cursor + d) :
    (image.walkFrom left index cursor).Tracks d cut (image'.walkFrom left index cursor') := by
  induction left generalizing index cursor cursor' with
  | zero => exact .inl ⟨rfl, rfl⟩
  | succ left ih =>
      have hentry := h.decodeEntry index hc
      unfold Image.walkFrom
      revert hentry
      rcases image.decodeEntry index cursor with ⟨entries, outcome⟩
      rcases image'.decodeEntry index cursor' with ⟨entries', outcome'⟩
      rintro (rfl | ⟨hcut, e, rfl⟩)
      · cases outcome with
        | ok found =>
            obtain ⟨file, next⟩ := found
            rcases ih (index + 1) (rfl : next + d = next + d) with
              ⟨hfiles, hfail⟩ | ⟨hcut, hfail, hinitial⟩
            · exact .inl ⟨congrArg (file.moveBy d :: ·) hfiles, hfail⟩
            · exact .inr ⟨hcut, hfail, List.cons_prefix_cons.mpr ⟨rfl, hinitial⟩⟩
        | error e => exact .inl ⟨rfl, rfl⟩
      · exact .inr ⟨hcut, ⟨e, rfl⟩, List.nil_prefix⟩

theorem dexFiles : image.dexFiles.Tracks d cut image'.dexFiles := by
  unfold Image.dexFiles
  rw [h.dexFileCount_eq]
  exact h.walkFrom _ 0 h.recordsStart_eq

theorem walk_eq : image'.walk = image.walk.moveBy d := by
  unfold Image.walk
  rw [h.recordsStart_eq]
  rfl

/-- A walk that is over stays over, so both walks are in the same state up to the failure of
the first one. -/
theorem walkAfter (k : Nat) :
    image'.walkAfter k = (image.walkAfter k).moveBy d ∨
      cut ∧ (image.walkAfter k).ended = true := by
  induction k with
  | zero => exact .inl h.walk_eq
  | succ k ih =>
      show (image'.advance (image'.walkAfter k)).2 =
          (image.advance (image.walkAfter k)).2.moveBy d ∨
        cut ∧ (image.advance (image.walkAfter k)).2.ended = true
      rcases ih with heq | ⟨hcut, hended⟩
      · rw [heq]
        rcases h.advance (image.walkAfter k) with ⟨_, hafter⟩ | ⟨hcut, _, hended⟩
        · exact .inl hafter
        · exact .inr ⟨hcut, hended⟩
      · rw [advance_over (.inl hended)]
        exact .inr ⟨hcut, rfl⟩

/-- Asked for one more record, both walks answer alike, or the first one has failed where bytes
may be cut off. After its failure it has no more records. -/
theorem pull (k : Nat) :
    Tracks d cut (Option.map (DexFile.moveBy d)) (image.pull k) (image'.pull k) ∨
      cut ∧ image.pull k = .ok none := by
  unfold Image.pull
  rcases h.walkAfter k with heq | ⟨hcut, hended⟩
  · rw [heq]
    exact .inl (h.advance_tracks (image.walkAfter k))
  · rw [advance_over (.inl hended)]
    exact .inr ⟨hcut, rfl⟩

theorem takeAfter (skipped : Nat) (w : Walk) :
    Tracks d cut (DexFile.moveBy d) (image.takeAfter skipped w).outcome
      (image'.takeAfter skipped (w.moveBy d)).outcome := by
  induction skipped generalizing w with
  | zero =>
      refine Logged.bind_tracks (h.advance_tracks w) fun found _ => ?_
      cases found with
      | none => exact Tracks.error (.broken .finishedWalk)
      | some file => exact Tracks.ok file
  | succ skipped ih =>
      simp only [Image.takeAfter]
      rcases h.advance w with ⟨houtcome, hafter⟩ | ⟨hcut, ⟨e, he⟩, _⟩
      · refine Logged.bind_tracks (.inl houtcome) fun found _ => ?_
        cases found with
        | none => exact Tracks.error (.broken .finishedWalk)
        | some file =>
            rw [hafter]
            exact ih (image.advance w).2
      · refine .inr ⟨hcut, e, ?_⟩
        rw [Logged.outcome_bind, he]
        rfl

theorem dexFile (index : Int) :
    Tracks d cut (DexFile.moveBy d) (image.dexFile index).outcome
      (image'.dexFile index).outcome := by
  have hcount := h.dexFileCount_eq
  unfold Image.dexFile
  rw [hcount, h.walk_eq]
  by_cases hi : index < 0 ∨ (image.dexFileCount : Int) ≤ index
  · rw [if_pos hi, if_pos hi]
    exact Tracks.error (.noDexFile index image.dexFileCount)
  · rw [if_neg hi, if_neg hi]
    exact h.takeAfter _ image.walk

theorem findFrom (location : List UInt8) (left index : Nat) {cursor cursor' : Int}
    (hc : cursor' = cursor + d) :
    Tracks d cut (Option.map (DexFile.moveBy d)) (image.findFrom location left index cursor).outcome
      (image'.findFrom location left index cursor').outcome := by
  induction left generalizing index cursor cursor' with
  | zero => exact Tracks.ok none
  | succ left ih =>
      refine Logged.bind_tracks (h.decodeEntry index hc) fun (file, next) _ => ?_
      by_cases hfile : file.record.location = location
      · have hfile' : (file.moveBy d).record.location = location := hfile
        simp only [Prod.map, hfile, hfile', if_true]
        exact Tracks.ok (some file)
      · have hfile' : ¬ (file.moveBy d).record.location = location := hfile
        simp only [Prod.map, hfile, hfile', if_false]
        exact ih (index + 1) rfl

theorem findDexFile (location : List UInt8) :
    Tracks d cut (Option.map (DexFile.moveBy d)) (image.findDexFile location).outcome
      (image'.findDexFile location).outcome := by
  unfold Image.findDexFile
  rw [h.dexFileCount_eq]
  exact h.findFrom location _ 0 h.recordsStart_eq

theorem findDexFileNamed (location : Text) :
    Tracks d cut (Option.map (DexFile.moveBy d)) (image.findDexFileNamed location).outcome
      (image'.findDexFileNamed location).outcome := by
  unfold Image.findDexFileNamed
  cases Utf8.encode? location with
  | none => exact Tracks.error .unencodable
  | some bytes => exact h.findDexFile bytes

/-! Classes. -/

theorem module (file : DexFile) :
    Tracks d cut (Dex.Module.moveBy d) (file.module image) ((file.moveBy d).module image') :=
  Dex.Module.load_tracks h.region rfl

theorem classRecord (file : DexFile) (index : Int) :
    Tracks d cut (ClassRecord.moveBy d) (image.classRecord file index)
      (image'.classRecord (file.moveBy d) index) := by
  have hoffsets : (file.moveBy d).record.classOffsets = file.record.classOffsets := rfl
  unfold Image.classRecord
  rw [hoffsets]
  cases file.record.classOffsets[index.toNat]? with
  | none => exact Tracks.error (.decode { cause := .noClassOffset _ })
  | some offset =>
      dsimp only
      rw [h.pointer_eq]
      exact ClassRecord.decode_tracks h.region _

theorem resolve (file : DexFile) (definition : Dex.ClassDef) (asked : Option Text) :
    Tracks d cut (ResolvedClass.moveBy d) (image.resolve file definition asked).outcome
      (image'.resolve (file.moveBy d) definition asked).outcome := by
  simp only [Image.resolve, Logged.outcome_reporting]
  refine Tracks.withContext ?_ _ _ _
  exact (h.classRecord file definition.index).bind fun record _ =>
    Tracks.pure (ResolvedClass.mk file definition record)

section
variable (hd : image.region.Unsigned d)
include hd

/-- A question to the module of a dex file, the module being whole. -/
theorem inModule {α : Type} (file : DexFile) {ask : Dex.Module → Decode α}
    (hask : ∀ m : Dex.Module, m.window.Backed → m.window.Unsigned d →
      Tracks d cut (fun a => a) (ask m) (ask (m.moveBy d))) :
    Tracks d cut (fun a => a) (file.module image >>= ask)
      ((file.moveBy d).module image' >>= ask) :=
  (h.module file).bind fun m hm => hask m (Dex.Module.window_of_load h.region.backed hm).1
    (Dex.Module.unsigned_of_load h.region.backed hd hm)

theorem findClassIn (file : DexFile) (descriptor : Text) :
    Tracks d cut (Option.map (ResolvedClass.moveBy d))
      (image.findClassIn file descriptor).outcome
      (image'.findClassIn (file.moveBy d) descriptor).outcome := by
  have hlocate := h.inModule hd file fun m hm hmd => Dex.Module.locate_tracks hm hmd descriptor
  refine Logged.liftM_bind_tracks
    (hlocate.withContext none (some file.location) (some descriptor)) fun found => ?_
  cases found with
  | none => exact Tracks.ok none
  | some definition =>
      dsimp only
      rw [Logged.outcome_map, Logged.outcome_map]
      exact (h.resolve file definition (some descriptor)).map fun _ => rfl

theorem classAt (file : DexFile) (index : Int) :
    Tracks d cut (ResolvedClass.moveBy d) (image.classAt file index).outcome
      (image'.classAt (file.moveBy d) index).outcome := by
  have hdef := h.inModule hd file fun m hm hmd => Dex.Module.classDef_tracks hm hmd index
  exact Logged.liftM_bind_tracks (hdef.withContext (some index) (some file.location) none)
    fun definition => h.resolve file definition none

theorem findClassFrom (descriptor : Text) (left index : Nat) :
    Tracks d cut (Option.map (ResolvedClass.moveBy d))
      (image.findClassFrom descriptor left index).outcome
      (image'.findClassFrom descriptor left index).outcome := by
  induction left generalizing index with
  | zero => exact Tracks.ok none
  | succ left ih =>
      refine Logged.bind_tracks (h.dexFile index) fun file _ => ?_
      refine Logged.bind_tracks (h.findClassIn hd file descriptor) fun found _ => ?_
      cases found with
      | none => exact ih (index + 1)
      | some c => exact Tracks.ok (some c)

theorem findClass (descriptor : Text) :
    Tracks d cut (Option.map (ResolvedClass.moveBy d)) (image.findClass descriptor).outcome
      (image'.findClass descriptor).outcome := by
  unfold Image.findClass
  rw [h.dexFileCount_eq]
  exact h.findClassFrom hd descriptor _ 0

end

/-! Methods. -/

theorem bind (c : ResolvedClass) (x : Dex.Method) :
    Tracks d cut (ResolvedMethod.moveBy d) (image.bind c x).outcome
      (image'.bind (c.moveBy d) x).outcome := by
  simp only [Image.bind, Logged.outcome_reporting]
  refine Tracks.withContext ?_ _ _ _
  exact (ClassRecord.codeSlot_tracks h.region c.record x.position).bind fun slot _ =>
    Tracks.pure (ResolvedMethod.mk c x slot)

/-- A slot that moves with its method still names the same code offset. -/
theorem entryPoint (x : ResolvedMethod) :
    (x.moveBy d).entryPoint image' = (x.entryPoint image).map (· + d) := by
  have hb := h.region.begin_eq
  unfold ResolvedMethod.entryPoint ResolvedMethod.moveBy
  cases x.slot with
  | none => rfl
  | some slot =>
      simp only [Option.map_some, begin, hb, CodeSlot.moveBy]
      exact congrArg some (Int.add_right_comm _ _ _)

theorem codePointer
    (hd : d % 2 = 0 ∨ image.instructionSet.isTagged = false) (x : ResolvedMethod) :
    (x.moveBy d).codePointer image' = (x.codePointer image).map (· + d) := by
  unfold ResolvedMethod.codePointer
  rw [h.entryPoint]
  cases x.entryPoint image with
  | none => rfl
  | some address =>
      simp only [Option.map_some, Image.codePointer, h.instructionSet]
      exact congrArg some (InstructionSet.codePointer_add hd address)

section
variable (hd : image.region.Unsigned d)
include hd

theorem findIn (kind : String)
    {find : Dex.Module → Dex.ClassDef → Text → Text → Decode (Option Dex.Method)}
    (c : ResolvedClass) (name signature : Text)
    (hfind : ∀ m : Dex.Module, m.window.Backed → m.window.Unsigned d →
      Tracks d cut (fun x => x) (find m c.definition name signature)
        (find (m.moveBy d) c.definition name signature)) :
    Tracks d cut (Option.map (ResolvedMethod.moveBy d))
      (image.findIn kind find c name signature).outcome
      (image'.findIn kind find (c.moveBy d) name signature).outcome := by
  refine Logged.bind_tracks (Tracks.ok () : Tracks d cut (fun u => u) _ _) fun _ _ => ?_
  refine Logged.liftM_bind_tracks (h.inModule hd c.file hfind) fun found => ?_
  cases found with
  | none => exact Tracks.ok none
  | some x =>
      dsimp only
      rw [Logged.outcome_map, Logged.outcome_map]
      exact (h.bind c x).map fun _ => rfl

theorem findDirectMethod (c : ResolvedClass) (name signature : Text) :
    Tracks d cut (Option.map (ResolvedMethod.moveBy d))
      (image.findDirectMethod c name signature).outcome
      (image'.findDirectMethod (c.moveBy d) name signature).outcome :=
  h.findIn hd "direct" c name signature fun _ hm hmd =>
    Dex.Module.findDirect_tracks hm hmd c.definition name signature

theorem findVirtualMethod (c : ResolvedClass) (name signature : Text) :
    Tracks d cut (Option.map (ResolvedMethod.moveBy d))
      (image.findVirtualMethod c name signature).outcome
      (image'.findVirtualMethod (c.moveBy d) name signature).outcome :=
  h.findIn hd "virtual" c name signature fun _ hm hmd =>
    Dex.Module.findVirtual_tracks hm hmd c.definition name signature

theorem findMethodIn (c : ResolvedClass) (name signature : Text) :
    Tracks d cut (Option.map (ResolvedMethod.moveBy d))
      (image.findMethodIn c name signature).outcome
      (image'.findMethodIn (c.moveBy d) name signature).outcome := by
  refine Logged.bind_tracks (h.findDirectMethod hd c name signature) fun found _ => ?_
  cases found with
  | some x => exact Tracks.ok (some x)
  | none =>
      refine Logged.bind_tracks (h.findVirtualMethod hd c name signature) fun found _ => ?_
      cases found with
      | some x => exact Tracks.ok (some x)
      | none => exact Tracks.ok none

theorem findMethod (descriptor name signature : Text) :
    Tracks d cut (Option.map (ResolvedMethod.moveBy d))
      (image.findMethod descriptor name signature).outcome
      (image'.findMethod descriptor name signature).outcome := by
  refine Logged.bind_tracks (h.findClass hd descriptor) fun found _ => ?_
  cases found with
  | none => exact Tracks.ok none
  | some c => exact h.findMethodIn hd c name signature

end

end Extends

end Image

end OatImage
