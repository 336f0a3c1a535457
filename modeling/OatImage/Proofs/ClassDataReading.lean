import OatImage.Proofs.Layout
import OatImage.Proofs.NumberRuns
import OatImage.Proofs.Sessions
import OatImage.Proofs.TracedWalks

/-!
# Class data

Class data is a run of numbers: four counts, the numbers of the fields and three numbers for each
method. Where forms of all of them stand in the window of a module, the two lists of methods are
the listed ones: the differences add up anew in each list, and the positions count through both.
Where the window ends too early, or a number takes more than five bytes, the lists are refused as
a whole and every time they are asked for. The loops of the reader take a number from the window
at each turn, so the window bounds them and not the counts.
-/
namespace OatImage

namespace Dex

open Decode Layout
open Traced (step_bind_of_eq)

/-! A run of numbers as class data. -/

/-- The numbers of listed methods, taken three by three. -/
def listed : List Nat → List Listed
  | difference :: flags :: code :: rest => ⟨difference, flags, code⟩ :: listed rest
  | _ => []

theorem listed_flatMap (xs : List Listed) : listed (xs.flatMap Listed.numbers) = xs := by
  induction xs with
  | nil => rfl
  | cons x xs ih =>
      rw [List.flatMap_cons]
      show ⟨x.difference, x.flags, x.code⟩ :: listed (xs.flatMap Listed.numbers) = _
      rw [ih]

theorem length_flatMap_numbers (xs : List Listed) :
    (xs.flatMap Listed.numbers).length = 3 * xs.length := by
  induction xs with
  | nil => rfl
  | cons x xs ih =>
      rw [List.flatMap_cons, List.length_append, ih, List.length_cons]
      show 3 + 3 * xs.length = _
      omega

theorem exists_flatMap_numbers {count : Nat} {ns : List Nat} (h : ns.length = 3 * count) :
    ∃ xs : List Listed, xs.length = count ∧ xs.flatMap Listed.numbers = ns := by
  induction count generalizing ns with
  | zero => exact ⟨[], rfl, (List.length_eq_zero_iff.mp h).symm⟩
  | succ count ih =>
      match ns with
      | difference :: flags :: code :: rest =>
          simp only [List.length_cons] at h
          obtain ⟨xs, hlen, hxs⟩ := ih (show rest.length = 3 * count by omega)
          exact ⟨⟨difference, flags, code⟩ :: xs, congrArg Nat.succ hlen, congrArg _ hxs⟩
      | [] | [_] | [_, _] =>
          simp only [List.length_cons, List.length_nil] at h
          omega

/-- The methods of a list whose first one has a position, where `index` is the one before it. -/
def methodsOf (isDirect : Bool) : (position index : Nat) → List Listed → List Method
  | _, _, [] => []
  | position, index, x :: xs =>
    ⟨index + x.difference, x.flags, x.code, position, isDirect⟩ ::
      methodsOf isDirect (position + 1) (index + x.difference) xs

/-- The index of a method is the sum of the differences up to its own. -/
theorem getElem?_methodsOf (isDirect : Bool) (position index : Nat) (xs : List Listed) (k : Nat) :
    (methodsOf isDirect position index xs)[k]? = xs[k]?.map fun x =>
      ⟨index + Numeral.total ((xs.take (k + 1)).map Listed.difference), x.flags, x.code,
        position + k, isDirect⟩ := by
  induction xs generalizing position index k with
  | nil => rfl
  | cons x xs ih =>
      cases k with
      | zero => rfl
      | succ k =>
          rw [methodsOf, List.getElem?_cons_succ, ih, List.getElem?_cons_succ,
            List.take_succ_cons, List.map_cons, Nat.add_right_comm position 1 k]
          simp only [Numeral.total, List.foldr_cons, Nat.add_assoc]

theorem length_methodsOf (isDirect : Bool) (position index : Nat) (xs : List Listed) :
    (methodsOf isDirect position index xs).length = xs.length := by
  induction xs generalizing position index with
  | nil => rfl
  | cons x xs ih => rw [methodsOf, List.length_cons, List.length_cons, ih]

/-- The numbers of class data, in their order. -/
def numbersOf (statics instances : Nat) (fields : List Nat) (direct virtual : List Listed) :
    List Nat :=
  statics :: instances :: direct.length :: virtual.length ::
    (fields ++ (direct.flatMap Listed.numbers ++ virtual.flatMap Listed.numbers))

/-- How many numbers class data has that begins with these: at first only the four counts. -/
def numberCount : List Nat → Nat
  | statics :: instances :: direct :: virtual :: _ =>
    4 + (2 * (statics + instances) + (3 * direct + 3 * virtual))
  | _ => 4

theorem numberCount_append {counts : List Nat} (h : counts.length = 4) (rest : List Nat) :
    numberCount (counts ++ rest) = numberCount counts := by
  match counts with
  | [_, _, _, _] => rfl

theorem four_le_numberCount (ns : List Nat) : 4 ≤ numberCount ns := by
  match ns with
  | _ :: _ :: _ :: _ :: _ => exact Nat.le_add_right 4 _
  | [] | [_] | [_, _] | [_, _, _] => exact Nat.le_refl 4

theorem length_numbersOf {statics instances : Nat} {fields : List Nat}
    (direct virtual : List Listed) (h : fields.length = 2 * (statics + instances)) :
    (numbersOf statics instances fields direct virtual).length =
      numberCount (numbersOf statics instances fields direct virtual) := by
  simp only [numbersOf, numberCount, List.length_cons, List.length_append,
    length_flatMap_numbers, h]
  omega

theorem exists_numbersOf {ns : List Nat} (h : ns.length = numberCount ns) :
    ∃ statics instances fields direct virtual, fields.length = 2 * (statics + instances) ∧
      ns = numbersOf statics instances fields direct virtual := by
  match ns with
  | [] | [_] | [_, _] | [_, _, _] => cases h
  | statics :: instances :: d :: v :: rest =>
      simp only [numberCount, List.length_cons] at h
      have hfields : (rest.take (2 * (statics + instances))).length =
          2 * (statics + instances) := by
        rw [List.length_take]
        omega
      have hfirst : ((rest.drop (2 * (statics + instances))).take (3 * d)).length = 3 * d := by
        rw [List.length_take, List.length_drop]
        omega
      have hsecond : ((rest.drop (2 * (statics + instances))).drop (3 * d)).length = 3 * v := by
        rw [List.length_drop, List.length_drop]
        omega
      obtain ⟨direct, rfl, hdirect⟩ := exists_flatMap_numbers hfirst
      obtain ⟨virtual, rfl, hvirtual⟩ := exists_flatMap_numbers hsecond
      refine ⟨statics, instances, _, direct, virtual, hfields, ?_⟩
      rw [numbersOf, hdirect, hvirtual, List.take_append_drop, List.take_append_drop]

/-- The lists of methods that a run of numbers stands for. -/
def classDataOf : List Nat → ClassData
  | statics :: instances :: direct :: _ :: rest =>
    let numbers := rest.drop (2 * (statics + instances))
    ⟨methodsOf true 0 0 (listed (numbers.take (3 * direct))),
      methodsOf false direct 0 (listed (numbers.drop (3 * direct)))⟩
  | _ => ⟨[], []⟩

theorem classDataOf_numbersOf {statics instances : Nat} {fields : List Nat}
    (direct virtual : List Listed) (h : fields.length = 2 * (statics + instances)) :
    classDataOf (numbersOf statics instances fields direct virtual) =
      ⟨methodsOf true 0 0 direct, methodsOf false direct.length 0 virtual⟩ := by
  have hlen := length_flatMap_numbers direct
  simp only [classDataOf, numbersOf, List.drop_left' h, List.take_left' hlen,
    List.drop_left' hlen, listed_flatMap]

namespace Module

variable (m : Module)

/-! The reader reads the run. -/

theorem skipNumbers_eq (count : Nat) (cursor : Int) :
    m.skipNumbers count cursor = Prod.snd <$> m.numbers count cursor := by
  induction count generalizing cursor with
  | zero => rfl
  | succ count ih =>
      rw [skipNumbers, numbers]
      cases m.uleb128 cursor with
      | error e => rfl
      | ok read =>
          simp only [ok_bind, ih]
          cases m.numbers count read.2 <;> rfl

theorem methodList_eq (isDirect : Bool) (count position index : Nat) (cursor : Int) :
    m.methodList isDirect count position index cursor =
      (fun read => (methodsOf isDirect position index (listed read.1), read.2)) <$>
        m.numbers (3 * count) cursor := by
  induction count generalizing position index cursor with
  | zero => rfl
  | succ count ih =>
      rw [methodList, show 3 * (count + 1) = 3 * count + 1 + 1 + 1 by omega, numbers]
      cases m.uleb128 cursor with
      | error e => rfl
      | ok difference =>
          simp only [ok_bind, numbers]
          cases m.uleb128 difference.2 with
          | error e => rfl
          | ok flags =>
              simp only [ok_bind]
              cases m.uleb128 flags.2 with
              | error e => rfl
              | ok code =>
                  simp only [ok_bind, ih]
                  cases m.numbers (3 * count) code.2 <;> rfl

/-- Reads the numbers of class data: the four counts, then as many more as they say. -/
def classNumbers (cursor : Int) : Decode (List Nat × Int) := do
  let (counts, cursor) ← m.numbers 4 cursor
  let (rest, cursor) ← m.numbers (numberCount counts - 4) cursor
  pure (counts ++ rest, cursor)

theorem readClassData_eq (cursor : Int) :
    m.readClassData cursor = (fun read => classDataOf read.1) <$> m.classNumbers cursor := by
  rw [readClassData, classNumbers]
  simp only [numbers]
  cases m.uleb128 cursor with
  | error e => rfl
  | ok statics =>
  simp only [ok_bind]
  cases m.uleb128 statics.2 with
  | error e => rfl
  | ok instances =>
  simp only [ok_bind]
  cases m.uleb128 instances.2 with
  | error e => rfl
  | ok direct =>
  simp only [ok_bind]
  cases m.uleb128 direct.2 with
  | error e => rfl
  | ok virtual =>
      show _ = _ <$> (m.numbers (4 + (2 * (statics.1 + instances.1) +
        (3 * direct.1 + 3 * virtual.1)) - 4) virtual.2 >>= fun read =>
          pure ([statics.1, instances.1, direct.1, virtual.1] ++ read.1, read.2))
      rw [Nat.add_sub_cancel_left, numbers_add]
      simp only [ok_bind, skipNumbers_eq, methodList_eq]
      cases hfields : m.numbers (2 * (statics.1 + instances.1)) virtual.2 with
      | error e => rfl
      | ok fields =>
          have hlen : fields.1.length = _ := length_numbers hfields
          simp only [numbers_add, Except.map_ok, ok_bind]
          cases hdirect : m.numbers (3 * direct.1) fields.2 with
          | error e => rfl
          | ok methods =>
              have hmethods : methods.1.length = _ := length_numbers hdirect
              simp only [Except.map_ok, ok_bind]
              cases m.numbers (3 * virtual.1) methods.2 with
              | error e => rfl
              | ok rest =>
                  show Except.ok _ = Except.ok (classDataOf (statics.1 :: instances.1 :: direct.1 ::
                    virtual.1 :: (fields.1 ++ (methods.1 ++ rest.1))))
                  simp only [classDataOf, List.drop_left' hlen, List.take_left' hmethods,
                    List.drop_left' hmethods]

section
variable {m} {o : Nat} {cursor : Int}
variable (hback : m.window.Backed) (hbegin : m.window.begin = m.address)
include hback hbegin

theorem classNumbers_eq_ok_iff {ns : List Nat} {next : Int}
    (ho : o ≤ m.window.contents.length) (ha : cursor = m.address + o) :
    m.classNumbers cursor = .ok (ns, next) ↔ ns.length = numberCount ns ∧ ∃ forms,
      AreForms ns forms ∧ At m.window.contents o forms ∧ next = cursor + forms.length := by
  rw [classNumbers, bind_eq_ok]
  constructor
  · rintro ⟨⟨counts, next₁⟩, hcounts, h⟩
    obtain ⟨⟨rest, next₂⟩, hrest, h⟩ := bind_eq_ok.mp h
    cases h
    obtain ⟨hfour, first, hfirst, hat, rfl⟩ :=
      (numbers_eq_ok_iff hback hbegin ho ha).mp hcounts
    obtain ⟨hmore, second, hsecond, hats, rfl⟩ :=
      (numbers_eq_ok_iff hback hbegin hat.length_le (show cursor + first.length =
        m.address + ((o + first.length : Nat) : Int) by omega)).mp hrest
    have hle := four_le_numberCount counts
    refine ⟨?_, first ++ second, AreForms.append_iff.mpr ⟨_, _, hfirst, hsecond, rfl⟩,
      At.append.mpr ⟨hat, hats⟩, ?_⟩
    · rw [numberCount_append hfour, List.length_append, hfour, hmore]
      omega
    · rw [List.length_append]
      omega
  · rintro ⟨hlen, forms, hforms, hat, rfl⟩
    have hle := four_le_numberCount ns
    have hfour : (ns.take 4).length = 4 := by
      rw [List.length_take]
      omega
    rw [← List.take_append_drop 4 ns] at hforms
    obtain ⟨first, second, hfirst, hsecond, rfl⟩ := AreForms.append_iff.mp hforms
    obtain ⟨hat, hats⟩ := At.append.mp hat
    refine ⟨_, (numbers_eq_ok_iff hback hbegin ho ha).mpr ⟨hfour, first, hfirst, hat, rfl⟩, ?_⟩
    refine bind_eq_ok.mpr ⟨(ns.drop 4, cursor + (first ++ second).length), ?_, ?_⟩
    · refine (numbers_eq_ok_iff hback hbegin hat.length_le
        (show cursor + first.length = m.address + ((o + first.length : Nat) : Int) by omega)).mpr
          ⟨?_, second, hsecond, hats, ?_⟩
      · rw [← numberCount_append hfour (ns.drop 4), List.take_append_drop, List.length_drop, hlen]
      · rw [List.length_append]
        omega
    · show Except.ok _ = Except.ok _
      rw [List.take_append_drop]

theorem classNumbers_error_iff (ho : o ≤ m.window.contents.length) (ha : cursor = m.address + o) :
    (∃ e, m.classNumbers cursor = .error e) ↔ ∃ ns forms, ns.length < numberCount ns ∧
      AreForms ns forms ∧ At m.window.contents o forms ∧
      (CutNumber m.window.contents (o + forms.length) ∨
        LongNumber m.window.contents (o + forms.length)) := by
  rw [classNumbers]
  constructor
  · rintro ⟨e, h⟩
    rcases bind_eq_error.mp h with h | ⟨⟨counts, next⟩, hcounts, h⟩
    · obtain ⟨ns, forms, hlen, hrest⟩ := (numbers_error_iff hback hbegin ho ha).mp ⟨e, h⟩
      exact ⟨ns, forms, hlen.trans_le (four_le_numberCount ns), hrest⟩
    · obtain ⟨hfour, first, hfirst, hat, rfl⟩ :=
        (numbers_eq_ok_iff hback hbegin ho ha).mp hcounts
      rcases bind_eq_error.mp h with h | ⟨_, _, h⟩
      · obtain ⟨ns, second, hlen, hsecond, hats, hstop⟩ :=
          (numbers_error_iff hback hbegin hat.length_le (by omega)).mp ⟨e, h⟩
        refine ⟨counts ++ ns, first ++ second, ?_,
          AreForms.append_iff.mpr ⟨_, _, hfirst, hsecond, rfl⟩, At.append.mpr ⟨hat, hats⟩, ?_⟩
        · rw [numberCount_append hfour, List.length_append]
          omega
        · rwa [List.length_append, ← Nat.add_assoc]
      · cases h
  · rintro ⟨ns, forms, hlen, hforms, hat, hstop⟩
    by_cases hfew : ns.length < 4
    · obtain ⟨e, h⟩ :=
        (numbers_error_iff hback hbegin ho ha).mpr ⟨ns, forms, hfew, hforms, hat, hstop⟩
      exact ⟨e, by rw [h]; rfl⟩
    · have hfour : (ns.take 4).length = 4 := by
        rw [List.length_take]
        omega
      rw [← List.take_append_drop 4 ns] at hforms hlen
      rw [numberCount_append hfour, List.length_append, hfour] at hlen
      obtain ⟨first, second, hfirst, hsecond, rfl⟩ := AreForms.append_iff.mp hforms
      obtain ⟨hat, hats⟩ := At.append.mp hat
      rw [List.length_append, ← Nat.add_assoc] at hstop
      obtain ⟨e, h⟩ := (numbers_error_iff hback hbegin hat.length_le (show cursor + first.length =
        m.address + ((o + first.length : Nat) : Int) by omega)).mpr
          ⟨ns.drop 4, second, Nat.lt_sub_of_add_lt (by rwa [Nat.add_comm]), hsecond, hats, hstop⟩
      have hcounts := (numbers_eq_ok_iff hback hbegin ho ha).mpr ⟨hfour, first, hfirst, hat, rfl⟩
      refine ⟨e, ?_⟩
      rw [hcounts]
      simp only [ok_bind, h, error_bind]

end

end Module

/-- Forms of the numbers of class data stand at an offset. -/
def NumbersAt (bytes : List UInt8) (offset statics instances : Nat) (fields : List Nat)
    (direct virtual : List Listed) : Prop :=
  fields.length = 2 * (statics + instances) ∧ ∃ forms,
    AreForms (numbersOf statics instances fields direct virtual) forms ∧ At bytes offset forms

/-- No class data stands at an offset: it lies behind the bytes, or behind some of the numbers
that there are to be the bytes end, or a number is too long. -/
inductive FlawedAt (bytes : List UInt8) (offset : Nat) : Prop
  | behind (h : bytes.length < offset)
  | number (ns : List Nat) (forms : List UInt8) (hmore : ns.length < numberCount ns)
      (hforms : AreForms ns forms) (hat : At bytes offset forms)
      (h : CutNumber bytes (offset + forms.length) ∨ LongNumber bytes (offset + forms.length))

/-- The lists of methods are the listed ones. -/
structure IsDecoded (direct virtual : List Listed) (data : ClassData) : Prop where
  lengths : data.direct.length = direct.length ∧ data.virtual.length = virtual.length
  directMethods : ∀ k : Nat, data.direct[k]? = direct[k]?.map fun x =>
    ⟨Numeral.total ((direct.take (k + 1)).map Listed.difference), x.flags, x.code, k, true⟩
  virtualMethods : ∀ k : Nat, data.virtual[k]? = virtual[k]?.map fun x =>
    ⟨Numeral.total ((virtual.take (k + 1)).map Listed.difference), x.flags, x.code,
      direct.length + k, false⟩
  /-- The positions count through both lists. -/
  positions : ∀ (k : Nat) (x : Method), data.methods[k]? = some x →
    x.position = k ∧ (x.isDirect = true ↔ k < direct.length)

theorem isDecoded_methodsOf (direct virtual : List Listed) :
    IsDecoded direct virtual
      ⟨methodsOf true 0 0 direct, methodsOf false direct.length 0 virtual⟩ where
  lengths := ⟨length_methodsOf _ _ _ _, length_methodsOf _ _ _ _⟩
  directMethods k := by
    rw [getElem?_methodsOf]
    simp only [Nat.zero_add]
  virtualMethods k := by
    rw [getElem?_methodsOf]
    simp only [Nat.zero_add]
  positions := by
    intro k x hx
    have hlen := length_methodsOf true 0 0 direct
    replace hx : (methodsOf true 0 0 direct ++ methodsOf false direct.length 0 virtual)[k]? =
      some x := hx
    by_cases hk : k < direct.length
    · rw [List.getElem?_append_left (by omega), getElem?_methodsOf] at hx
      obtain ⟨y, _, rfl⟩ := Option.map_eq_some_iff.mp hx
      exact ⟨Nat.zero_add k, iff_of_true rfl hk⟩
    · rw [List.getElem?_append_right (by omega), getElem?_methodsOf, hlen] at hx
      obtain ⟨y, _, rfl⟩ := Option.map_eq_some_iff.mp hx
      exact ⟨Nat.add_sub_cancel' (Nat.le_of_not_lt hk), iff_of_false Bool.false_ne_true hk⟩

namespace Module

variable {m : Module}

section
variable (hback : m.window.Backed) (hbegin : m.window.begin = m.address)
include hback hbegin

theorem readClassData_of_numbersAt {offset statics instances : Nat} {fields : List Nat}
    {direct virtual : List Listed}
    (h : NumbersAt m.window.contents offset statics instances fields direct virtual) :
    m.readClassData (m.addressOf offset) =
      .ok ⟨methodsOf true 0 0 direct, methodsOf false direct.length 0 virtual⟩ := by
  obtain ⟨hfields, forms, hforms, hat⟩ := h
  have hnumbers := (classNumbers_eq_ok_iff hback hbegin
    (Nat.le_of_add_right_le hat.length_le) rfl).mpr
      ⟨length_numbersOf direct virtual hfields, forms, hforms, hat, rfl⟩
  rw [readClassData_eq, addressOf, hnumbers, Except.map_ok, classDataOf_numbersOf _ _ hfields]

theorem readClassData_of_flawedAt {offset : Nat} (h : FlawedAt m.window.contents offset) :
    ∃ e, m.readClassData (m.addressOf offset) = .error e := by
  have hnumbers : ∃ e, m.classNumbers (m.addressOf offset) = .error e := by
    cases h with
    | behind h =>
        obtain ⟨e, he⟩ := (uleb128_error_iff hback hbegin (o := offset) rfl).mpr
          (.inl ⟨by omega, by
            rw [List.drop_of_length_le (by omega)]
            exact nofun⟩)
        refine ⟨e, ?_⟩
        rw [classNumbers, numbers, addressOf, he]
        rfl
    | number ns forms hmore hforms hat h =>
        exact (classNumbers_error_iff hback hbegin (Nat.le_of_add_right_le hat.length_le) rfl).mpr
          ⟨ns, forms, hmore, hforms, hat, h⟩
  obtain ⟨e, he⟩ := hnumbers
  exact ⟨e, by rw [readClassData_eq, he]; rfl⟩

/-- At every offset class data stands, or none does. -/
theorem numbersAt_or_flawedAt (offset : Nat) :
    (∃ statics instances fields direct virtual,
      NumbersAt m.window.contents offset statics instances fields direct virtual) ∨
    FlawedAt m.window.contents offset := by
  by_cases ho : offset ≤ m.window.contents.length
  · cases h : m.classNumbers (m.addressOf offset) with
    | ok read =>
        obtain ⟨hlen, forms, hforms, hat, _⟩ := (classNumbers_eq_ok_iff hback hbegin ho rfl).mp h
        obtain ⟨statics, instances, fields, direct, virtual, hfields, hns⟩ := exists_numbersOf hlen
        exact .inl ⟨statics, instances, fields, direct, virtual, hfields, forms, hns ▸ hforms, hat⟩
    | error e =>
        obtain ⟨ns, forms, hmore, hforms, hat, hstop⟩ :=
          (classNumbers_error_iff hback hbegin ho rfl).mp ⟨e, h⟩
        exact .inr (.number ns forms hmore hforms hat hstop)
  · exact .inr (.behind (Nat.lt_of_not_le ho))

/-- In class data that is decoded each method stands at its position. -/
theorem positions_of_classData {c : ClassDef} {data : ClassData} (h : m.classData c = .ok data)
    {k : Nat} {x : Method} (hx : data.methods[k]? = some x) : x.position = k := by
  by_cases hzero : c.dataOffset = 0
  · rw [classData, if_pos hzero] at h
    cases h
    cases hx
  · rw [classData, if_neg hzero] at h
    rcases numbersAt_or_flawedAt hback hbegin c.dataOffset with
      ⟨_, _, _, direct, virtual, hnumbers⟩ | hflaw
    · rw [readClassData_of_numbersAt hback hbegin hnumbers] at h
      cases h
      exact ((isDecoded_methodsOf direct virtual).positions k x hx).1
    · obtain ⟨e, he⟩ := readClassData_of_flawedAt hback hbegin hflaw
      rw [he] at h
      cases h

end

/-! The turns of the loops. -/

/-- A number together with the address at which it is read. -/
def ulebTraced (m : Module) (cursor : Int) : Traced Int (Nat × Int) :=
  ⟨[cursor], Logged.ofDecode (m.uleb128 cursor)⟩

def skipTraced (m : Module) : (count : Nat) → (cursor : Int) → Traced Int Int
  | 0, cursor => pure cursor
  | count + 1, cursor => do
    let (_, cursor) ← m.ulebTraced cursor
    m.skipTraced count cursor

def methodsTraced (m : Module) (isDirect : Bool) :
    (count position index : Nat) → (cursor : Int) → Traced Int (List Method × Int)
  | 0, _, _, cursor => pure ([], cursor)
  | count + 1, position, index, cursor => do
    let (difference, cursor) ← m.ulebTraced cursor
    let (accessFlags, cursor) ← m.ulebTraced cursor
    let (codeOffset, cursor) ← m.ulebTraced cursor
    let first : Method :=
      { index := index + difference, accessFlags, codeOffset, position, isDirect }
    let (rest, cursor) ← m.methodsTraced isDirect count (position + 1) (index + difference) cursor
    pure (first :: rest, cursor)

/-- Class data together with the addresses at which its numbers are read, in order. -/
def readTraced (m : Module) (cursor : Int) : Traced Int ClassData := do
  let (staticFields, cursor) ← m.ulebTraced cursor
  let (instanceFields, cursor) ← m.ulebTraced cursor
  let (directCount, cursor) ← m.ulebTraced cursor
  let (virtualCount, cursor) ← m.ulebTraced cursor
  let cursor ← m.skipTraced (2 * (staticFields + instanceFields)) cursor
  let (direct, cursor) ← m.methodsTraced true directCount 0 0 cursor
  let (virtual, _) ← m.methodsTraced false virtualCount directCount 0 cursor
  pure ⟨direct, virtual⟩

section
variable {α β : Type} {x : Traced Int α} {cursor : Int}

theorem step_skipTraced (count : Nat) (cursor : Int) :
    (m.skipTraced count cursor).step = Logged.ofDecode (m.skipNumbers count cursor) := by
  induction count generalizing cursor with
  | zero => rfl
  | succ count ih => exact step_bind_of_eq rfl fun read => ih read.2

theorem step_methodsTraced (isDirect : Bool) (count position index : Nat) (cursor : Int) :
    (m.methodsTraced isDirect count position index cursor).step =
      Logged.ofDecode (m.methodList isDirect count position index cursor) := by
  induction count generalizing position index cursor with
  | zero => rfl
  | succ count ih =>
      exact step_bind_of_eq rfl fun _ => step_bind_of_eq rfl fun _ => step_bind_of_eq rfl fun _ =>
        step_bind_of_eq (ih _ _ _) fun _ => rfl

/-- Without the addresses it is the reader of class data. -/
theorem step_readTraced (cursor : Int) :
    (m.readTraced cursor).step = Logged.ofDecode (m.readClassData cursor) :=
  step_bind_of_eq rfl fun _ => step_bind_of_eq rfl fun _ => step_bind_of_eq rfl fun _ =>
    step_bind_of_eq rfl fun _ => step_bind_of_eq (step_skipTraced _ _) fun _ =>
      step_bind_of_eq (step_methodsTraced _ _ _ _ _) fun _ =>
        step_bind_of_eq (step_methodsTraced _ _ _ _ _) fun _ => rfl

/-- No more numbers are read than there are bytes in front of the stop, and one. -/
def Ends (m : Module) (cursor : Int) (x : Traced Int α) : Prop :=
  cursor + x.trace.length ≤ max cursor m.window.stop + 1

/-- Each number that is read takes the cursor on. -/
def Advances (m : Module) (cursor : Int) (x : Traced Int α) (next : α → Int) : Prop :=
  m.Ends cursor x ∧ ∀ a, x.step.outcome = .ok a →
    cursor + x.trace.length ≤ next a ∧ next a ≤ max cursor m.window.stop

theorem Ends.pure (cursor : Int) (a : α) : m.Ends cursor (Pure.pure a) := by
  show cursor + (0 : Nat) ≤ _
  omega

theorem Advances.pure (a : α) {next : α → Int} (h : next a = cursor) :
    m.Advances cursor (Pure.pure a) next := by
  refine ⟨Ends.pure cursor a, fun b hb => ?_⟩
  cases hb
  show cursor + (0 : Nat) ≤ next a ∧ _
  omega

theorem Advances.bind_ends {next : α → Int} (hx : m.Advances cursor x next)
    {f : α → Traced Int β} (hf : ∀ a, m.Ends (next a) (f a)) : m.Ends cursor (x >>= f) := by
  cases h : x.step.outcome with
  | error e =>
      rw [Ends, Traced.trace_bind_of_error h]
      exact hx.1
  | ok a =>
      have hfirst := hx.2 a h
      have hrest := hf a
      rw [Ends] at hrest
      rw [Ends, Traced.trace_bind_of_ok h, List.length_append]
      omega

theorem Advances.bind {next : α → Int} (hx : m.Advances cursor x next) {f : α → Traced Int β}
    {next' : β → Int} (hf : ∀ a, m.Advances (next a) (f a) next') :
    m.Advances cursor (x >>= f) next' := by
  refine ⟨hx.bind_ends fun a => (hf a).1, fun b hb => ?_⟩
  rw [Traced.step_bind, Logged.outcome_bind] at hb
  obtain ⟨a, ha, hb⟩ := bind_eq_ok.mp hb
  have hfirst := hx.2 a ha
  have hrest := (hf a).2 b hb
  rw [Traced.trace_bind_of_ok ha, List.length_append]
  omega

theorem ulebTraced_advances (cursor : Int) : m.Advances cursor (m.ulebTraced cursor) Prod.snd := by
  refine ⟨?_, fun read hread => ?_⟩
  · show cursor + (1 : Nat) ≤ _
    omega
  · have hrange := Region.ulebFrom_range (asModule_eq_ok.mp hread)
    show cursor + (1 : Nat) ≤ read.2 ∧ _
    omega

theorem skipTraced_advances (count : Nat) (cursor : Int) :
    m.Advances cursor (m.skipTraced count cursor) id := by
  induction count generalizing cursor with
  | zero => exact Advances.pure cursor rfl
  | succ count ih => exact (ulebTraced_advances cursor).bind fun read => ih read.2

theorem methodsTraced_advances (isDirect : Bool) (count position index : Nat) (cursor : Int) :
    m.Advances cursor (m.methodsTraced isDirect count position index cursor) Prod.snd := by
  induction count generalizing position index cursor with
  | zero => exact Advances.pure ([], cursor) rfl
  | succ count ih =>
      exact (ulebTraced_advances cursor).bind fun _ => (ulebTraced_advances _).bind fun _ =>
        (ulebTraced_advances _).bind fun _ => (ih _ _ _).bind fun _ => Advances.pure _ rfl

/-- Whatever the counts are, class data is read in as many turns as there are bytes for. -/
theorem readTraced_ends (cursor : Int) : m.Ends cursor (m.readTraced cursor) :=
  (ulebTraced_advances cursor).bind_ends fun _ => (ulebTraced_advances _).bind_ends fun _ =>
    (ulebTraced_advances _).bind_ends fun _ => (ulebTraced_advances _).bind_ends fun _ =>
      (skipTraced_advances _ _).bind_ends fun _ => (methodsTraced_advances _ _ _ _ _).bind_ends
        fun _ => (methodsTraced_advances _ _ _ _ _).bind_ends fun _ => Ends.pure _ _

end

/-- The definitions of the class objects after questions. -/
def madeThrough (m : Module) : List ClassDef → List Question → List ClassDef
  | made, [] => made
  | made, q :: rest => m.madeThrough (madeAfter made (m.answer made q)) rest

/-- In every session a question about a class object with a definition gets one answer, each time
it is asked. -/
def AlwaysAnswers (m : Module) (c : ClassDef) (q : Nat → Question) (answer : Decode Answer) :
    Prop :=
  ∀ (made : List ClassDef) (qs : List Question) (k place : Nat), qs[k]? = some (q place) →
    (m.madeThrough made (qs.take k))[place]? = some c →
      (Session.answers m (.fresh made) qs)[k]? = some answer

theorem alwaysAnswers_of {c : ClassDef} {q : Nat → Question} {answer : Decode Answer}
    (h : ∀ (made : List ClassDef) (place : Nat), made[place]? = some c →
      m.answer made (q place) = answer) : m.AlwaysAnswers c q answer := by
  intro made qs
  rw [Session.answers_of_isOf m (Kept.isOf_fresh m made), Kept.made_fresh]
  induction qs generalizing made with
  | nil =>
      intro k place hk
      cases hk
  | cons first rest ih =>
      have hfirst : (Session.ask m (.fresh made) first).1 = m.answer made first :=
        Session.ask_fresh m made first
      intro k place hk hplace
      rw [Session.freshAnswers, hfirst]
      cases k with
      | zero =>
          cases hk
          rw [h made place hplace]
          rfl
      | succ k => exact ih (madeAfter made (m.answer made first)) k place hk hplace

theorem alwaysAnswers_ofObject {c : ClassDef} (q : Nat → Question) (f : ClassData → Decode Answer)
    (hq : ∀ made place, m.answer made (q place) = m.ofObject made place f) :
    m.AlwaysAnswers c q (m.classData c >>= f) := by
  apply alwaysAnswers_of
  intro made place hplace
  rw [hq, ofObject, hplace]

/-- What stands at the data offset of a class decides about its lists of methods. -/
structure DecodesClassData (m : Module) (c : ClassDef) : Prop where
  decided : (∃ statics instances fields direct virtual,
      NumbersAt m.window.contents c.dataOffset statics instances fields direct virtual) ∨
    FlawedAt m.window.contents c.dataOffset
  /-- From forms of the numbers the listed methods are read. -/
  lists : ∀ statics instances fields direct virtual,
    NumbersAt m.window.contents c.dataOffset statics instances fields direct virtual →
      ∃ data, m.classData c = .ok data ∧ IsDecoded direct virtual data ∧
        m.AlwaysAnswers c .directMethods (.ok (.methods data.direct)) ∧
        m.AlwaysAnswers c .virtualMethods (.ok (.methods data.virtual))
  /-- A flaw in any of the numbers is a failure of both lists, now and later. -/
  refused : FlawedAt m.window.contents c.dataOffset →
    ∃ e, e.IsModule ∧ m.classData c = .error e ∧
      m.AlwaysAnswers c .directMethods (.error e) ∧
      m.AlwaysAnswers c .virtualMethods (.error e)
  /-- The reader ends after as many turns as there are bytes for, and one. -/
  ends : (m.readTraced (m.addressOf c.dataOffset)).step = Logged.ofDecode (m.classData c) ∧
    ((m.readTraced (m.addressOf c.dataOffset)).trace.length : Int) ≤
      max 0 (m.window.stop - m.addressOf c.dataOffset) + 1

/-- In every module that opens, the class data of a class is decoded or refused as a whole. -/
theorem load_decodesClassData {r : Region} {address : Int} (h : load r address = .ok m)
    (c : ClassDef) (hdata : c.dataOffset ≠ 0) : m.DecodesClassData c := by
  obtain ⟨hback, hbegin, _⟩ := backed_of_load h
  have hread : m.classData c = m.readClassData (m.addressOf c.dataOffset) := if_neg hdata
  have hdirect : m.AlwaysAnswers c .directMethods
      (m.classData c >>= fun data => .ok (.methods data.direct)) :=
    alwaysAnswers_ofObject .directMethods _ fun _ _ => rfl
  have hvirtual : m.AlwaysAnswers c .virtualMethods
      (m.classData c >>= fun data => .ok (.methods data.virtual)) :=
    alwaysAnswers_ofObject .virtualMethods _ fun _ _ => rfl
  refine ⟨numbersAt_or_flawedAt hback hbegin _, ?_, fun hflaw => ?_, ?_, ?_⟩
  · intro statics instances fields direct virtual hnumbers
    have hok := hread.trans (readClassData_of_numbersAt hback hbegin hnumbers)
    rw [hok] at hdirect hvirtual
    exact ⟨_, hok, isDecoded_methodsOf direct virtual, hdirect, hvirtual⟩
  · obtain ⟨e, he⟩ := readClassData_of_flawedAt hback hbegin hflaw
    have herror := hread.trans he
    rw [herror] at hdirect hvirtual
    exact ⟨e, classData_failsOnly hback c e herror, herror, hdirect, hvirtual⟩
  · rw [hread]
    exact step_readTraced _
  · have hends := readTraced_ends (m := m) (m.addressOf c.dataOffset)
    rw [Ends] at hends
    omega

/-- The numbers of class data with one field, two direct methods and a virtual one, but for the
first number. -/
def listingRest : List UInt8 := [0, 2, 1, 5, 1, 3, 1, 0, 9, 8, 16, 7, 1, 0]

/-- A module that declares a size and has this class data behind its header. The count of static
fields is 1, which is not in its shortest form. -/
def listingModule (size : Nat) : List UInt8 :=
  magicBytes ++ [0x30, 0x33, 0x35, 0] ++ List.replicate 24 0 ++ wordBytes [size, 112, endianTag] ++
    List.replicate 68 0 ++ [0x81, 0] ++ listingRest

def listingRegion (size : Nat) : Region := ⟨⟨(listingModule size).toArray⟩, 4096, 4224⟩

def listingClass : ClassDef := ⟨0, 0, [], 0, 0, 112⟩

theorem padded_areForms (bytes : List UInt8) (h : ∀ b ∈ bytes, b < 0x80) :
    AreForms (1 :: bytes.map UInt8.toNat) ([0x81, 0] ++ bytes) :=
  have hone : IsForm 1 [0x81, 0] := .more (b := 0x81) (by decide) (.last (b := 0) (by decide))
  .cons hone (by decide) (AreForms.of_lt h)

/-- The lists are read from the whole module. Eight bytes of class data are not enough for both of
them, and then there is none. -/
theorem load_decodesClassData_listingModule :
    (∃ m data, load (listingRegion 128) 4096 = .ok m ∧ m.classData listingClass = .ok data ∧
      IsDecoded [⟨3, 1, 0⟩, ⟨9, 8, 16⟩] [⟨7, 1, 0⟩] data ∧
      m.AlwaysAnswers listingClass .virtualMethods (.ok (.methods data.virtual))) ∧
    ∃ m e, load (listingRegion 120) 4096 = .ok m ∧ e.IsModule ∧
      m.AlwaysAnswers listingClass .directMethods (.error e) := by
  constructor
  · have hlies : LiesAt (listingRegion 128) 4096 ((listingModule 128).take 128) := by
      decide +kernel
    obtain ⟨m, hm, hcontents, _⟩ := hlies.exists_load (p := fun _ => true) (by decide +kernel)
    have hnumbers : NumbersAt m.window.contents 112 1 0 [5, 1] [⟨3, 1, 0⟩, ⟨9, 8, 16⟩]
        [⟨7, 1, 0⟩] := by
      rw [hcontents]
      exact ⟨rfl, _, padded_areForms listingRest (by decide +kernel), by decide +kernel⟩
    obtain ⟨data, hdata, hdecoded, _, hvirtual⟩ :=
      (load_decodesClassData hm listingClass (by decide)).lists _ _ _ _ _ hnumbers
    exact ⟨m, data, hm, hdata, hdecoded, hvirtual⟩
  · have hlies : LiesAt (listingRegion 120) 4096 ((listingModule 120).take 120) := by
      decide +kernel
    obtain ⟨m, hm, hcontents, _⟩ := hlies.exists_load (p := fun _ => true) (by decide +kernel)
    have hflaw : FlawedAt m.window.contents 112 := by
      rw [hcontents]
      exact .number (1 :: (listingRest.take 6).map UInt8.toNat) _ (by decide)
        (padded_areForms _ (by decide +kernel)) (by decide +kernel)
        (.inl ⟨by decide +kernel, by decide +kernel⟩)
    obtain ⟨e, he, _, hdirect, _⟩ :=
      (load_decodesClassData hm listingClass (by decide)).refused hflaw
    exact ⟨m, e, hm, he, hdirect⟩

end Module

end Dex

end OatImage
