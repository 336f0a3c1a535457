import Mathlib.Data.List.Forall2
import OatImage.Proofs.JsonLines
import OatImage.Proofs.LetterCases
import OatImage.Proofs.ScopedRecords

/-!
# Log files in JSON

A logger with a JSON file writes a line for each call that reaches its threshold, in the order of
the calls, and nothing else. A line reads as one table that says what the call said: its level, its
message, the operation that is innermost at it, and its context. Since no line has a line feed in
it, whatever the texts hold, the file splits into its lines again, and none of them can be forged by
a text.

The calls of timed scopes are among them. Their messages can always be made: a template with a
place for a text, and maybe one for a number of seconds behind it, has the two in their places.
-/
namespace OatImage.Log

namespace Template

variable {before after : List Char}

theorem parts_append (h : '%' ∉ before) (rest : List Char) :
    parts (before ++ rest) = (parts rest).map (before.map .char ++ ·) := by
  induction before with
  | nil => exact Option.map_id_apply.symm
  | cons c before ih =>
      have hc : c ≠ '%' := fun hc => h (hc ▸ List.mem_cons_self)
      have hbefore : '%' ∉ before := fun hmem => h (.tail c hmem)
      rw [List.cons_append, parts.eq_4 _ _ (fun _ hmark _ => hc hmark) hc, ih hbefore,
        Option.map_map]
      rfl

theorem parts_of_notMem (h : '%' ∉ after) : parts after = some (after.map .char) := by
  have happend := parts_append h []
  rw [List.append_nil, parts.eq_1, Option.map_some, List.append_nil] at happend
  exact happend

/-- A place for a value of any kind. -/
def textPlace : Place :=
  { key := none, flags := {}, width := .absent, precision := .absent, form := 's' }

theorem parts_textPlace (rest : List Char) :
    parts ('%' :: 's' :: rest) = (parts rest).map (.place textPlace :: ·) := by
  rw [parts.eq_3 _ (by rintro _ ⟨⟩)]
  rfl

theorem fill_chars (chars : List Char) (entries : Option (List (String × Value)))
    (more : List Part) (values : List Value) :
    fill entries (chars.map .char ++ more) values =
      (fill entries more values).map (chars ++ ·) := by
  induction chars with
  | nil => exact Option.map_id_apply.symm
  | cons c chars ih =>
      rw [List.map_cons, List.cons_append, fill, ih, Option.map_map]
      rfl

theorem put_text (text : String) : put {} 0 none 's' (.text text) = some text.toList := by
  simp only [put, pad, Nat.zero_sub, List.replicate_zero, List.nil_append, Bool.false_eq_true,
    if_false, Value.plain]

theorem fill_textPlace (more : List Part) (text : String) (values : List Value) :
    fill none (.place textPlace :: more) (.text text :: values) =
      (fill none more values).map (text.toList ++ ·) := by
  rw [fill]
  simp only [textPlace, valuesFor, size, Option.bind_eq_bind, Option.bind_some, Option.getD_none,
    Option.map_none, Option.pure_def]
  rw [if_neg (by decide), show (0 : Int).natAbs = 0 from rfl, put_text]
  cases fill none more values
  all_goals rfl

/-- A place for a number with three digits behind the point. -/
def secondsPlace : Place :=
  { key := none, flags := {}, width := .absent, precision := .fixed 3, form := 'f' }

theorem parts_secondsPlace (rest : List Char) :
    parts ('%' :: '.' :: '3' :: 'f' :: rest) = (parts rest).map (.place secondsPlace :: ·) := by
  rw [parts.eq_3 _ (by rintro _ ⟨⟩)]
  rfl

theorem fill_secondsPlace (more : List Part) (x : Double) (values : List Value) :
    fill none (.place secondsPlace :: more) (.real x :: values) =
      (fill none more values).map ((seconds x).toList ++ ·) := by
  have hput : put {} 0 (some 3) 'f' (.real x) = some (seconds x).toList := by
    rw [seconds, String.toList_ofList]
    rfl
  have hbound : bounded (3 : Nat) = some 3 := rfl
  rw [fill]
  simp only [secondsPlace, valuesFor, size, Option.bind_eq_bind, Option.bind_some,
    Option.getD_none, Option.map_some, hbound, Option.pure_def]
  rw [if_neg (by decide), show (0 : Int).natAbs = 0 from rfl, show (3 : Int).toNat = 3 from rfl,
    hput]
  cases fill none more values
  all_goals rfl

/-- A text in the one place of a template. -/
theorem message_text (hbefore : '%' ∉ before) (hafter : '%' ∉ after) (text : String) :
    message (String.ofList (before ++ '%' :: 's' :: after)) [.text text] =
      some (String.ofList (before ++ text.toList ++ after)) := by
  have hparts : parts (before ++ '%' :: 's' :: after) =
      some (before.map .char ++ .place textPlace :: after.map .char) := by
    rw [parts_append hbefore, parts_textPlace, parts_of_notMem hafter]
    rfl
  have hend : fill none (after.map .char) [] = some after := by
    have hchars := fill_chars after none [] []
    rw [List.append_nil] at hchars
    exact hchars.trans (congrArg some (List.append_nil after))
  rw [message, if_neg (by simp), String.toList_ofList, hparts]
  simp only [entriesOf, fill_chars, fill_textPlace, hend, Option.map_some, List.append_assoc]

/-- The message of a timed scope that is left. -/
theorem message_completed (label : String) (x : Double) :
    message "Completed: %s (%.3f sec)" [.text label, .real x] =
      some ("Completed: " ++ label ++ " (" ++ seconds x ++ " sec)") := by
  have hparts : parts "Completed: %s (%.3f sec)".toList =
      some ("Completed: ".toList.map .char ++ .place textPlace :: (" (".toList.map .char ++
        .place secondsPlace :: " sec)".toList.map .char)) := by
    have htemplate : "Completed: %s (%.3f sec)".toList = "Completed: ".toList ++
        '%' :: 's' :: (" (".toList ++ '%' :: '.' :: '3' :: 'f' :: " sec)".toList) := rfl
    rw [htemplate, parts_append (by decide), parts_textPlace, parts_append (by decide),
      parts_secondsPlace, parts_of_notMem (by decide)]
    rfl
  have hend : fill none (" sec)".toList.map .char) [] = some " sec)".toList := rfl
  rw [message, if_neg (by simp), hparts]
  simp only [entriesOf, fill_chars, fill_textPlace, fill_secondsPlace, hend, Option.map_some]
  rw [Option.some.injEq, ← String.toList_inj, String.toList_ofList]
  simp only [String.toList_append, List.append_assoc]

end Template

/-- The text of a log file: each line with a line feed behind it. -/
def Logger.fileText (l : Logger) : List Char := l.lines.flatMap fun line => line.toList ++ ['\n']

/-! What a call says, apart from how its record is made and written. -/

/-- Nothing, a text or a whole number stands under each name. -/
def GivenContext.IsPlain (c : GivenContext) : Prop :=
  ∀ p ∈ c, p.2 = .none ∨ (∃ s, p.2 = .text s) ∨ ∃ n, p.2 = .integer n

/-- The message of the call can be made, and its context is of texts and whole numbers. -/
structure Call.IsPlain (c : Call) : Prop where
  formats : (Template.message c.template c.values).isSome = true
  context : c.context.IsPlain

def Step.IsPlain : Step → Prop
  | .log now level template values context =>
    Call.IsPlain { now, level, template, values, context }
  | _ => True

/-- What is noted under a name of what was given under it: nothing of nothing, and an address that
is a whole number in hexadecimal. -/
def notedUnder (name : String) : Option Value → Option Value
  | some .none => none
  | some (.integer n) => some (if name = "address" then .text (Numeral.hex n) else .integer n)
  | given => given

/-- The context as a line has it: what there is to note, in one order. -/
structure Notes (given : GivenContext) (noted : List (String × Value)) : Prop where
  ordered : (noted.map Prod.fst).Sublist ["descriptor", "index", "location", "address"]
  under : ∀ name ∈ ["descriptor", "index", "location", "address"],
    noted.lookup name = notedUnder name (given.lookup name)

/-- The entries of a table say what a call said that was made with a logger for a tool during an
operation, when it was made, and nothing else. -/
structure Call.IsSaidBy (c : Call) (tool : String) (operation : Option String)
    (entries : List (String × Value)) : Prop where
  keys : (entries.map Prod.fst).Sublist
    ["timestamp", "level", "logger", "message", "tool_name", "operation", "context"]
  timestamp : entries.lookup "timestamp" = some (.text c.now.utc)
  level : entries.lookup "level" = some (.text c.level.name)
  logger : entries.lookup "logger" = some (.text ("artscope." ++ tool))
  message : ∃ message, Template.message c.template c.values = some message ∧
    entries.lookup "message" = some (.text message)
  tool : entries.lookup "tool_name" = some (.text tool)
  operation : entries.lookup "operation" = operation.map .text
  context : ∃ noted, Notes c.context noted ∧
    entries.lookup "context" = if noted = [] then none else some (.table noted)

/-- A line has no line feed in it and reads as a table that says what a call said. -/
def Call.HasLine (tool : String) (operation : Option String) (c : Call) (line : String) : Prop :=
  '\n' ∉ line.toList ∧
    ∃ entries, JsonText.read line = some (.table entries) ∧ c.IsSaidBy tool operation entries

variable {α : Type} {c : Call} {l : Logger}

section Notes

variable {key : α → String} {g : α → Option Value}

theorem keys_filterMap (key : α → String) (g : α → Option Value) (items : List α) :
    ((items.filterMap fun a => (g a).map (key a, ·)).map Prod.fst).Sublist (items.map key) := by
  induction items with
  | nil => exact .slnil
  | cons a items ih =>
      cases h : g a with
      | none =>
          rw [List.filterMap_cons_none (by rw [h]; rfl), List.map_cons]
          exact ih.cons _
      | some v =>
          rw [List.filterMap_cons_some (by rw [h]; rfl), List.map_cons, List.map_cons]
          exact ih.cons_cons _

theorem lookup_filterMap [DecidableEq α] (hkey : Function.Injective key) (g : α → Option Value)
    (items : List α) (a : α) :
    (items.filterMap fun a => (g a).map (key a, ·)).lookup (key a) =
      if a ∈ items then g a else none := by
  induction items with
  | nil => rfl
  | cons b items ih =>
      by_cases hab : a = b
      · subst hab
        rw [if_pos List.mem_cons_self]
        cases hb : g a with
        | none =>
            rw [List.filterMap_cons_none (by rw [hb]; rfl), ih, hb, ite_self]
        | some v =>
            rw [List.filterMap_cons_some (by rw [hb]; rfl), List.lookup_cons_self]
      · have hother : (key a == key b) = false := beq_false_of_ne fun h => hab (hkey h)
        simp only [List.mem_cons, hab, false_or]
        cases hb : g b with
        | none =>
            rw [List.filterMap_cons_none (by rw [hb]; rfl), ih]
        | some v =>
            rw [List.filterMap_cons_some (by rw [hb]; rfl), List.lookup_cons, hother, ← ih]

end Notes

theorem Field.name_injective : Function.Injective Field.name := by
  intro f f' h
  cases f <;> cases f' <;> first | rfl | exact absurd h (by decide)

/-- The context of the record of a call, as it is written. -/
def GivenContext.written (c : GivenContext) : List (String × Value) :=
  c.known.map fun (f, v) => (f.name, Record.noted f v)

theorem noted_integer (f : Field) (n : Int) : Record.noted f (.integer n) =
    if f.name = "address" then .text (Numeral.hex n) else .integer n := by
  cases f
  all_goals rfl

theorem noted_text (f : Field) (s : String) : Record.noted f (.text s) = .text s := by
  cases f
  all_goals rfl

theorem GivenContext.IsPlain.of_lookup {given : GivenContext} (h : given.IsPlain) {name : String}
    {v : Value} (hgiven : given.lookup name = some v) :
    v = .none ∨ (∃ s, v = .text s) ∨ ∃ n, v = .integer n := by
  obtain ⟨before, after, rfl, -⟩ := List.lookup_eq_some_iff.mp hgiven
  exact h (name, v) (List.mem_append_right before List.mem_cons_self)

/-- What is written is what is noted under each field. -/
theorem GivenContext.written_eq (h : c.context.IsPlain) : c.context.written =
    Field.all.filterMap fun f =>
      (notedUnder f.name (c.context.lookup f.name)).map (f.name, ·) := by
  rw [written, known, List.map_filterMap]
  refine congrArg (List.filterMap · Field.all) (funext fun f => ?_)
  cases hgiven : c.context.lookup f.name with
  | none => rfl
  | some v =>
      rcases h.of_lookup hgiven with rfl | ⟨s, rfl⟩ | ⟨n, rfl⟩
      · rfl
      · exact congrArg (fun v => some (f.name, v)) (noted_text f s)
      · exact congrArg (fun v => some (f.name, v)) (noted_integer f n)

theorem notedUnder_exact {given : GivenContext} (h : given.IsPlain) {name : String} {v : Value}
    (hv : notedUnder name (given.lookup name) = some v) : JsonText.IsExact v := by
  cases hgiven : given.lookup name with
  | none =>
      rw [hgiven] at hv
      cases hv
  | some w =>
      rw [hgiven] at hv
      rcases h.of_lookup hgiven with rfl | ⟨s, rfl⟩ | ⟨n, rfl⟩
      · cases hv
      · cases hv
        exact .text s
      · obtain rfl := Option.some.inj hv
        split
        · exact .text _
        · exact .integer n

theorem GivenContext.written_exact (h : c.context.IsPlain) :
    ∀ e ∈ c.context.written, JsonText.IsExact e.2 := by
  intro e he
  rw [written_eq h] at he
  obtain ⟨f, -, hf⟩ := List.mem_filterMap.mp he
  obtain ⟨v, hv, rfl⟩ := Option.map_eq_some_iff.mp hf
  exact notedUnder_exact h hv

theorem Notes.written (h : c.context.IsPlain) : Notes c.context c.context.written := by
  rw [GivenContext.written_eq h]
  refine ⟨keys_filterMap Field.name _ Field.all, fun name hname => ?_⟩
  obtain ⟨f, hf, rfl⟩ := List.mem_map.mp (show name ∈ Field.all.map Field.name from hname)
  have hlookup := lookup_filterMap Field.name_injective
    (fun f => notedUnder f.name (c.context.lookup f.name)) Field.all f
  rwa [if_pos hf] at hlookup

/-- The entries of the table that is written of a call. -/
def Call.entries (c : Call) (l : Logger) (operation : Option String) (message : String) :
    List (String × Value) :=
  [("timestamp", .text c.now.utc), ("level", .text c.level.name), ("logger", .text l.name),
    ("message", .text message), ("tool_name", .text l.tool)] ++
  (operation.map fun name => ("operation", Value.text name)).toList ++
  if c.context.written = [] then [] else [("context", .table c.context.written)]

theorem toValue_record (l : Logger) (operation : Option String) (c : Call) (message : String) :
    (l.record operation c).toValue message = .table (c.entries l operation message) := by
  have hempty : (c.context.known.isEmpty = true) = (c.context.written = []) := by
    rw [List.isEmpty_iff, GivenContext.written, List.map_eq_nil_iff]
  simp only [Record.toValue, Logger.record, Call.entries, hempty]
  rfl

theorem Call.isSaidBy_entries (hcontext : c.context.IsPlain) {message : String}
    (hmessage : Template.message c.template c.values = some message) (l : Logger)
    (operation : Option String) :
    c.IsSaidBy l.tool operation (c.entries l operation message) where
  keys := by
    have hoperation : ((operation.map fun name => ("operation", Value.text name)).toList.map
        Prod.fst).Sublist ["operation"] := by
      cases operation with
      | none => exact List.nil_sublist _
      | some name => exact List.Sublist.refl _
    have hnotes : ((if c.context.written = [] then []
        else [("context", Value.table c.context.written)]).map Prod.fst).Sublist ["context"] := by
      split
      · exact List.nil_sublist _
      · exact List.Sublist.refl _
    rw [Call.entries, List.map_append, List.map_append]
    exact ((List.Sublist.refl _).append hoperation).append hnotes
  timestamp := rfl
  level := rfl
  logger := rfl
  message := ⟨message, hmessage, rfl⟩
  tool := rfl
  operation := by
    unfold Call.entries
    cases operation with
    | none =>
        split
        all_goals rfl
    | some name => rfl
  context := by
    refine ⟨c.context.written, .written hcontext, ?_⟩
    unfold Call.entries
    cases operation
    all_goals
      split
      all_goals rfl

theorem Call.entries_exact (hcontext : c.context.IsPlain) (l : Logger)
    (operation : Option String) (message : String) :
    JsonText.IsExact (.table (c.entries l operation message)) := by
  refine .table ?_
  unfold Call.entries
  simp only [List.forall_mem_append, List.forall_mem_cons]
  refine ⟨⟨⟨.text _, .text _, .text _, .text _, .text _, by rintro e ⟨⟩⟩, ?_⟩, ?_⟩
  · cases operation with
    | none => rintro e ⟨⟩
    | some name =>
        intro e he
        obtain rfl := List.mem_singleton.mp he
        exact .text name
  · split
    · rintro e ⟨⟩
    · intro e he
      obtain rfl := List.mem_singleton.mp he
      exact .table (GivenContext.written_exact hcontext)

/-- The line of a call whose message can be made. -/
theorem Call.IsPlain.exists_line (h : c.IsPlain) (l : Logger) (operation : Option String) :
    ∃ line, (l.record operation c).line? true = some line ∧ c.HasLine l.tool operation line := by
  obtain ⟨message, hmessage⟩ := Option.isSome_iff_exists.mp h.formats
  have hexact := entries_exact h.context l operation message
  refine ⟨JsonText.line .unicode (.table (c.entries l operation message)), ?_, ?_, ?_⟩
  · have hline := congrArg (Option.map fun message =>
      JsonText.line .unicode ((l.record operation c).toValue message)) hmessage
    rw [Option.map_some, toValue_record] at hline
    exact hline
  · intro hfeed
    exact absurd (hexact.line_printed .unicode '\n' hfeed) (by decide)
  · exact ⟨_, hexact.read_line .unicode, isSaidBy_entries h.context hmessage l operation⟩

/-! The calls of a run. -/

/-- A text is given to a template with one place. -/
theorem isPlain_of_text (now : Instant) (level : Level) (label : String)
    {template before after : String}
    (h : template = String.ofList (before.toList ++ '%' :: 's' :: after.toList))
    (hbefore : '%' ∉ before.toList) (hafter : '%' ∉ after.toList) :
    Call.IsPlain { now, level, template, values := [.text label] } where
  formats := by
    rw [h, Template.message_text hbefore hafter]
    rfl
  context := by rintro p ⟨⟩

theorem isPlain_of_call? {s : Step} (h : s.IsPlain) {opened : List Opened}
    (hc : s.call? opened = some c) : c.IsPlain := by
  cases s with
  | operation name => cases hc
  | timed now label =>
      have htemplate : "Started: %s" =
          String.ofList ("Started: ".toList ++ '%' :: 's' :: "".toList) := rfl
      cases hc
      exact isPlain_of_text now .debug label htemplate (by decide) (by decide)
  | leave now elapsed failed =>
      obtain ⟨⟩ | ⟨⟨⟩ | label, outer⟩ := opened
      · cases hc
      · cases hc
      · cases hc
        constructor
        · rw [Template.message_completed]
          rfl
        · rintro p ⟨⟩
  | log now level template values context =>
      rw [Step.call?] at hc
      split at hc
      · cases hc
        exact h
      · cases hc

theorem forall_mem_calls {threshold : Nat} {start : Option String} {steps : List Step}
    (h : ∀ s ∈ steps, s.IsPlain) (opened : List Opened) :
    ∀ p ∈ calls threshold start opened steps, p.2.IsPlain := by
  induction steps generalizing opened with
  | nil => rintro p ⟨⟩
  | cons s rest ih =>
      obtain ⟨hs, hrest⟩ := List.forall_mem_cons.mp h
      refine List.forall_mem_append.mpr ⟨fun p hp => ?_, ih hrest _⟩
      obtain ⟨c, hc, rfl⟩ := List.mem_map.mp hp
      rw [reaching, Option.mem_toList, Option.filter_eq_some_iff] at hc
      exact isPlain_of_call? hs hc.1

theorem forall₂_filterMap {α β : Type} {R : α → β → Prop} {f : α → Option β} {items : List α}
    (h : ∀ a ∈ items, ∃ b, f a = some b ∧ R a b) : List.Forall₂ R items (items.filterMap f) := by
  induction items with
  | nil => exact .nil
  | cons a items ih =>
      obtain ⟨⟨b, hb, hab⟩, hrest⟩ := List.forall_mem_cons.mp h
      rw [List.filterMap_cons_some hb]
      exact .cons hab (ih hrest)

/-- Lines with a line feed behind each split into the lines again. -/
theorem splitOn_flatMap {lines : List String} (h : ∀ line ∈ lines, '\n' ∉ line.toList) :
    (lines.flatMap fun line => line.toList ++ ['\n']).splitOn '\n' =
      lines.map String.toList ++ [[]] := by
  induction lines with
  | nil => rfl
  | cons line lines ih =>
      obtain ⟨hline, hlines⟩ := List.forall_mem_cons.mp h
      have hne : ∀ c ∈ line.toList, (c == '\n') = false :=
        fun c hc => beq_false_of_ne fun hfeed => hline (hfeed ▸ hc)
      rw [List.flatMap_cons, List.append_assoc, List.singleton_append, List.splitOn_eq_splitOnP,
        List.splitOnP_append_cons_of_forall_mem hne _ (beq_self_eq_true _),
        ← List.splitOn_eq_splitOnP, ih hlines]
      rfl

theorem forall₂_lines {steps : List Step} {opened : List Opened} (hjson : l.asJson = true)
    (hfile : l.hasFile = true) (hnew : l.records = []) (hopen : openAfter steps = some opened)
    (hplain : ∀ s ∈ steps, s.IsPlain) :
    List.Forall₂ (fun (operation, c) line => c.HasLine l.tool operation line)
      (calls l.threshold l.operation [] steps) (l.run steps).lines := by
  -- a record is made for each call, and a line is made of each record on its own
  obtain ⟨now, scopes, -, hrun⟩ := Logger.run_eq .start hopen
  have hlines : (l.run steps).lines = (calls l.threshold l.operation [] steps).filterMap
      fun (operation, c) => (l.record operation c).line? true := by
    rw [hrun, Logger.lines, if_pos hfile, hnew, hjson, List.nil_append, List.filterMap_map]
    rfl
  rw [hlines]
  exact forall₂_filterMap fun (operation, c) hc =>
    (forall_mem_calls hplain [] (operation, c) hc).exists_line l operation

/-- A new logger with a JSON file has, after any steps, one line for each call that reaches its
threshold, in the order of the calls. Each line says what its call said, and the text of the file
splits into these lines. -/
theorem Logger.run_lines {tool level : String} {steps : List Step} {opened : List Opened}
    (h : forTool tool level true true = .ok l) (hopen : openAfter steps = some opened)
    (hplain : ∀ s ∈ steps, s.IsPlain) :
    List.Forall₂ (fun (operation, c) line => c.HasLine tool operation line)
        (calls l.threshold none [] steps) (l.run steps).lines ∧
      (l.run steps).fileText.splitOn '\n' = (l.run steps).lines.map String.toList ++ [[]] := by
  rw [forTool] at h
  cases hthreshold : Log.threshold level with
  | error e =>
      rw [hthreshold] at h
      cases h
  | ok threshold =>
      rw [hthreshold] at h
      obtain rfl := Except.ok.inj h
      have hlines := forall₂_lines (l := ⟨tool, threshold, true, true, none, [], []⟩) rfl rfl rfl
        hopen hplain
      exact ⟨hlines, splitOn_flatMap ((List.forall₂_and_left _ _).mp hlines.flip).1⟩

/-- A message and a location that look like the end of a line and another record behind it. -/
def forgingCall : Call :=
  { now := ⟨"12:00:00", "11:00:00"⟩, level := .error, template := "no class in %s"
    values := [.text "a.oat\"\x7d\n\x7b\"level\": \"DEBUG\\"]
    context := [("address", .integer 0x70001000), ("location", .text "base.apk\x00\n"),
      ("index", .none)] }

def forgingSteps : List Step :=
  [.operation "find_method",
    .log forgingCall.now forgingCall.level forgingCall.template forgingCall.values
      forgingCall.context,
    .timed forgingCall.now "walk", .leave forgingCall.now (.finite false 3 (-1)) true,
    .leave forgingCall.now (.finite false 2 0) true]

theorem Logger.run_lines_forgingSteps : ∃ l, forTool "oatwalk" "INFO" true true = .ok l ∧
    openAfter forgingSteps = some [] ∧ (∀ s ∈ forgingSteps, s.IsPlain) ∧
    ∃ line, (l.run forgingSteps).lines = [line] ∧
      forgingCall.HasLine "oatwalk" (some "find_method") line ∧
      (l.run forgingSteps).fileText.splitOn '\n' = [line.toList, []] := by
  have hopen : openAfter forgingSteps = some [] := rfl
  have hcall : forgingCall.IsPlain := by
    constructor
    · exact Option.isSome_iff_exists.mpr ⟨_, Template.message_text
        (show '%' ∉ "no class in ".toList by decide) (show '%' ∉ "".toList by decide) _⟩
    · simp only [forgingCall, GivenContext.IsPlain, List.forall_mem_cons]
      exact ⟨.inr (.inr ⟨_, rfl⟩), .inr (.inl ⟨_, rfl⟩), .inl trivial, by rintro p ⟨⟩⟩
  have hplain : ∀ s ∈ forgingSteps, s.IsPlain := by
    simp only [forgingSteps, List.forall_mem_cons]
    exact ⟨trivial, hcall, trivial, trivial, trivial, by rintro s ⟨⟩⟩
  have hcapitals : LetterCase.upper "INFO" = "INFO" :=
    LetterCase.upper_of_capitals (by simp)
  have hl : forTool "oatwalk" "INFO" true true =
      .ok { tool := "oatwalk", threshold := 20, asJson := true, hasFile := true } := by
    rw [forTool, Log.threshold, hcapitals]
    rfl
  have hnotable : forgingCall.context.IsNotable := ⟨rfl, List.mergeSort_nil⟩
  have hcalls : calls 20 none [] forgingSteps = [(some "find_method", forgingCall)] := by
    simp only [forgingSteps, calls, Step.call?, if_pos hnotable]
    rfl
  obtain ⟨hlines, hfile⟩ := run_lines hl hopen hplain
  rw [hcalls, List.forall₂_cons_left_iff] at hlines
  obtain ⟨line, more, hline, hmore, heq⟩ := hlines
  rw [List.forall₂_nil_left_iff.mp hmore] at heq
  refine ⟨_, hl, hopen, hplain, line, heq, hline, ?_⟩
  rw [hfile, heq]
  rfl

end OatImage.Log
