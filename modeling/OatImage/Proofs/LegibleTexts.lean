import Mathlib.Data.List.TakeWhile
import OatImage.Proofs.EscapedTexts
import OatImage.Proofs.LetterCases
import OatImage.Terminal.Screen

/-!
# Legible texts

A text is legible if the only markup in it are styles of the console, each of which is opened and
closed again around a few words. Everything else is plain, or a text that the terminal escaped.
Only plain text stands behind an escaped one, since a bracket may open there.

A terminal is to print whatever is legible. A screen reads every legible text, so one without
width, on which nothing is drawn, prints it.
-/
namespace OatImage

namespace Terminal

/-! What is legible. -/

/-- No character of a text means something in markup. -/
def IsPlain (text : String) : Prop := ∀ c ∈ text.toList, c ≠ '[' ∧ c ≠ ']' ∧ c ≠ '\\'

/-- Words that stand in a style. A sign may stand before them in brackets. -/
inductive IsLabel : String → Prop
  | plain {text : String} : IsPlain text → IsLabel text
  | signed {sign : Char} {text : String} : 128 ≤ sign.toNat → IsPlain text →
      IsLabel ("[" ++ String.singleton sign ++ "]" ++ text)

section
variable {ε : Type} (t : Terminal ε)

inductive Legible : String → Prop
  | empty : Legible ""
  | plain {text rest : String} : IsPlain text → Legible rest → Legible (text ++ rest)
  | styled {style label rest : String} : style ∈ Style.consoleNames → IsLabel label →
      Legible rest → Legible (Console.styled style label ++ rest)
  | escaped {text rest : String} : IsPlain rest → Legible (t.escape text ++ rest)

/-- The styles of the columns of tables. -/
def columnStyles : List String := ["", "bold", "dim", "bright_white", "bright_cyan"]

/-- All texts of a table are legible, and its columns have styles of tables. -/
structure LegibleTable (table : ShownTable) : Prop where
  title : t.Legible table.title
  caption : ∀ text ∈ table.caption, t.Legible text
  heads : ∀ text ∈ table.columns, t.Legible text
  cells : ∀ row ∈ table.rows, ∀ text ∈ row, t.Legible text
  styles : ∀ style ∈ table.styles.getD [], style ∈ columnStyles

/-- Values are texts that are put on lines in the usual way. -/
def LegiblePrinted : Printed → Prop
  | .panel body => t.Legible body
  | .rule title => t.Legible title
  | .status text => t.Legible text
  | .values v => ∃ texts : List String, v = { items := texts.map .text } ∧
      ∀ text ∈ texts, t.Legible text
  | .table table => t.LegibleTable table

/-- Whatever is legible is printed. -/
def Prints : Prop :=
  ∀ ps : List Printed, (∀ p ∈ ps, t.LegiblePrinted p) → ∃ lines, t.print ps = .ok lines

/-- Something legible is not printed, for a reason. -/
def Refuses (e : ε) : Prop :=
  ∃ ps : List Printed, (∀ p ∈ ps, t.LegiblePrinted p) ∧ t.print ps = .error e

end

variable {ε : Type} {t : Terminal ε} {text rest : String}

theorem isPlain_of_all
    (h : text.toList.all (fun c => c ≠ '[' && c ≠ ']' && c ≠ '\\') = true) : IsPlain text := by
  intro c hc
  have hc := List.all_eq_true.mp h c hc
  simp only [Bool.and_eq_true, decide_eq_true_eq] at hc
  exact ⟨hc.1.1, hc.1.2, hc.2⟩

theorem IsPlain.append (h : IsPlain text) (hrest : IsPlain rest) : IsPlain (text ++ rest) := by
  intro c hc
  rw [String.toList_append, List.mem_append] at hc
  exact hc.elim (h c) (hrest c)

theorem IsPlain.notMem (h : IsPlain text) :
    '[' ∉ text.toList ∧ ']' ∉ text.toList ∧ '\\' ∉ text.toList :=
  ⟨fun hmem => (h _ hmem).1 rfl, fun hmem => (h _ hmem).2.1 rfl, fun hmem => (h _ hmem).2.2 rfl⟩

theorem IsPlain.legible (h : IsPlain text) : t.Legible text := by
  rw [← String.append_empty (s := text)]
  exact .plain h .empty

end Terminal

namespace Style

theorem colorName_ne_badNumber {word : String} (h : components? (LetterCase.lower word) = none)
    (text : String) : colorName word ≠ .error (.badNumber text) := by
  unfold colorName
  dsimp only
  split
  · nofun
  · rw [h]
    cases palette? (LetterCase.lower word) with
    | none => nofun
    | some n =>
        dsimp only
        split <;> nofun

theorem colorOf_ne_badNumber {word : String} (h : components? (LetterCase.lower word) = none)
    (part text : String) : colorOf part word ≠ .error (.badNumber text) := by
  unfold colorOf
  split
  · nofun
  · exact colorName_ne_badNumber h text

theorem readWords_ne_badNumber {word : String} (h : components? (LetterCase.lower word) = none)
    (hlower : LetterCase.lower word = word)
    (text : String) : readWords {} [word] ≠ .error (.badNumber text) := by
  have hcolor := colorOf_ne_badNumber h "color" text
  rw [readWords.eq_def]
  dsimp only
  rw [hlower]
  split
  case h_2 | h_4 | h_6 => rename_i heq; cases heq
  case h_7 =>
    cases attribute? _ with
    | some name => nofun
    | none =>
        cases hc : colorOf "color" _ with
        | ok color => nofun
        | error flaw =>
            intro heq
            rw [hc] at hcolor
            cases heq
            exact hcolor rfl
  all_goals nofun

theorem components?_eq_none {word : String} (h : word.startsWith "rgb(" = false) :
    components? word = none := by
  have hargument : argument? "rgb" word = none := by
    simp [argument?, h]
  rw [components?, hargument]
  rfl

/-- A word that is its own lower case and no colour in components has a normal form. -/
theorem normalize_of_word {word : String} (hwords : words word = [word])
    (hlower : LetterCase.lower word = word) (h : word.startsWith "rgb(" = false) :
    ∃ name, normalize word = .ok name := by
  have hread := readWords_ne_badNumber (by rw [hlower, components?_eq_none h]) hlower
  unfold normalize parse
  rw [hwords]
  split
  case h_1 s _ => exact ⟨s.text, rfl⟩
  case h_3 => exact ⟨_, rfl⟩
  case h_2 text hparse =>
    by_cases hempty : (word = "" || trim word.toList = ['n', 'o', 'n', 'e']) = true
    · rw [if_pos hempty] at hparse
      cases hparse
    · rw [if_neg hempty] at hparse
      exact absurd hparse (hread text)

end Style

namespace Style

variable {style : String}

/-- The styles of the console have normal forms. -/
theorem exists_normalize (h : style ∈ consoleNames) : ∃ name, normalize style = .ok name := by
  have hwords : ∀ style ∈ consoleNames, words style = [style] := by decide
  have hsmall : ∀ style ∈ consoleNames, style.toList.all
      (fun c => c.toNat = 46 || 97 ≤ c.toNat && c.toNat ≤ 122) = true := by decide
  have hstart : ∀ style ∈ consoleNames, style.startsWith "rgb(" = false := by
    simp [consoleNames]
  refine normalize_of_word (hwords _ h) (LetterCase.lower_of_small fun c hc => ?_) (hstart _ h)
  simpa using List.all_eq_true.mp (hsmall _ h) c hc

end Style

namespace Markup

open Terminal (IsLabel IsPlain)

variable {before text rest inner : List Char} {position : Nat} {opened opened' : List OpenTag}
  {ps : List Piece}

/-! What is drawn of pieces. -/

/-- Pieces are drawn where some tags are open, however many stand before them. -/
def Draws (opened : List OpenTag) (ps : List Piece) : Prop :=
  ∀ tags, ∃ body, render true tags opened ps = .ok body

theorem draws_nil : Draws opened [] := fun _ => ⟨[], rfl⟩

theorem Draws.plain (h : Draws opened ps) (text : List Char) :
    Draws opened (.plain text :: ps) := by
  intro tags
  obtain ⟨body, hbody⟩ := h tags
  simp only [render, hbody]
  exact ⟨_, rfl⟩

theorem Draws.plainThen (h : Draws opened ps) (reversed : List Char) :
    Draws opened (plainThen reversed ps) := by
  unfold Markup.plainThen
  split
  · exact h
  · exact h.plain _

theorem Draws.tag (h : Draws opened' ps) (happly : apply opened inner position = .ok opened') :
    Draws opened (.tag inner position :: ps) := by
  intro tags
  obtain ⟨body, hbody⟩ := h (tags + 1)
  simp only [render, happly, bind, Except.bind, hbody]
  exact ⟨_, rfl⟩

theorem ArePlain.draws (h : ArePlain ps) : Draws opened ps := by
  induction ps with
  | nil => exact draws_nil
  | cons p ps ih =>
      obtain ⟨text, rfl⟩ := h p List.mem_cons_self
      exact (ih fun q hq => h q (List.mem_cons_of_mem _ hq)).plain text

theorem splitTag_of_notMem (h : '=' ∉ inner) : splitTag inner = (inner, []) := by
  have hall : ∀ c ∈ inner, decide (c ≠ '=') = true := by
    intro c hc
    rw [decide_eq_true_eq]
    rintro rfl
    exact h hc
  rw [splitTag, List.takeWhile_eq_self_iff.mpr hall, List.dropWhile_eq_nil_iff.mpr hall]
  rfl

/-! How legible texts are read. -/

/-- A text is drawn, whatever plain text and open tags stand before it. -/
def IsRead (text : List Char) : Prop :=
  ∀ before position opened, Draws opened (pieces before 0 position text)

theorem isRead_nil : IsRead [] := by
  intro before position opened
  rw [pieces_nil]
  exact draws_nil.plainThen _

theorem isRead_escape (s : String) (hopen : '[' ∉ rest) (hclose : ']' ∉ rest) :
    IsRead ((escape s).toList ++ rest) :=
  fun _ _ _ => (arePlain_escape s hopen hclose).draws

theorem IsRead.append (h : IsRead rest) (hopen : '[' ∉ text) (hslash : '\\' ∉ text) :
    IsRead (text ++ rest) := by
  intro before position opened
  rw [pieces_append hopen hslash]
  exact h _ _ _

/-- A label is read as it stands: the bracket before a sign starts no tag. -/
theorem pieces_label {label : String} (h : IsLabel label) :
    pieces before 0 position (label.toList ++ rest) =
      pieces (label.toList.reverse ++ before) 0 (position + label.toList.length) rest := by
  cases h with
  | plain h => exact pieces_append h.notMem.1 h.notMem.2.2
  | @signed sign text hsign h =>
      have hlabel : ("[" ++ String.singleton sign ++ "]" ++ text).toList =
          '[' :: (sign :: ']' :: text.toList) := by
        simp
      have hne : ∀ c : Char, c.toNat < 128 → sign ≠ c := by
        rintro c hc rfl
        omega
      have hletter : ¬ sign ≤ 'z' := by
        intro hle
        have hle : sign.toNat ≤ 'z'.toNat := hle
        exact absurd (Nat.le_trans hsign hle) (by decide)
      have hstart : isTagStart sign = false := by
        simp [isTagStart, hletter, hne '#' (by decide), hne '/' (by decide), hne '@' (by decide)]
      have hopen : '[' ∉ sign :: ']' :: text.toList := by
        simp [(hne '[' (by decide)).symm, h.notMem.1]
      have hslash : '\\' ∉ sign :: ']' :: text.toList := by
        simp [(hne '\\' (by decide)).symm, h.notMem.2.2]
      have hbracket : tag? ('[' :: (sign :: ']' :: text.toList ++ rest)) = none :=
        tag?_open_eq_none_iff.mpr (.inl hstart)
      rw [hlabel, List.cons_append, pieces_cons hbracket (by decide), pieces_append hopen hslash,
        List.reverse_cons (a := '['), List.append_assoc, List.length_cons (a := '[')]
      congr 1
      omega

/-- A style is opened and closed again. -/
theorem apply_style {style : String} (h : style ∈ Style.consoleNames) (opened : List OpenTag) :
    ∃ tag, (∀ position, apply opened style.toList position = .ok (tag :: opened)) ∧
      ∀ position, apply (tag :: opened) ('/' :: style.toList) position = .ok opened := by
  have hword : ∀ style ∈ Style.consoleNames, style.toList ≠ [] ∧
      style.toList.contains '=' = false ∧ style.toList.contains '/' = false ∧
      Style.trim style.toList = style.toList := by decide
  obtain ⟨hne, hequals, hslash, htrim⟩ := hword _ h
  rw [List.contains_eq_mem, decide_eq_false_iff_not] at hequals hslash
  obtain ⟨name, hname⟩ := Style.exists_normalize h
  rw [← String.ofList_toList (s := style)] at hname
  generalize style.toList = inner at *
  refine ⟨⟨name, []⟩, fun position => ?_, fun position => ?_⟩
  · rw [apply, splitTag_of_notMem hequals]
    dsimp only
    split
    · exact absurd List.mem_cons_self hslash
    · rw [hname]
      rfl
  · have hequals' : '=' ∉ '/' :: inner := by
      rw [List.mem_cons, not_or]
      exact ⟨by decide, hequals⟩
    rw [apply, splitTag_of_notMem hequals']
    show (if Style.trim inner = [] then _ else _) = _
    rw [htrim, if_neg hne, hname]
    simp [closeNamed, OpenTag.close, bind, Except.bind, pure, Except.pure]

theorem IsRead.styled {style label : String} (h : IsRead rest) (hstyle : style ∈ Style.consoleNames)
    (hlabel : IsLabel label) : IsRead ('[' :: (style.toList ++ ']' ::
      (label.toList ++ '[' :: ('/' :: style.toList ++ ']' :: rest)))) := by
  have htags : ∀ style ∈ Style.consoleNames,
      tag? ('[' :: (style.toList ++ [']'])) = some (style.toList, []) ∧
      tag? ('[' :: ('/' :: style.toList ++ [']'])) = some ('/' :: style.toList, []) := by decide
  obtain ⟨hopens, hcloses⟩ := htags _ hstyle
  intro before position opened
  obtain ⟨tag, hopened, hclosed⟩ := apply_style hstyle opened
  rw [pieces_tag (tag?_inner hopens _), pieces_label hlabel, pieces_tag (tag?_inner hcloses _)]
  exact ((((h _ _ _).tag (hclosed _)).plainThen _).tag (hopened _)).plainThen _

end Markup

namespace Screen

open Terminal (Legible LegiblePrinted Prints)

variable {width : Nat} {s : String}

theorem isRead_of_legible (h : (terminal width).Legible s) : Markup.IsRead s.toList := by
  induction h with
  | empty => exact Markup.isRead_nil
  | plain hplain _ ih =>
      rw [String.toList_append]
      exact ih.append hplain.notMem.1 hplain.notMem.2.2
  | styled hstyle hlabel _ ih =>
      have hread := ih.styled hstyle hlabel
      simpa [Console.styled] using hread
  | escaped hrest =>
      rw [String.toList_append]
      exact Markup.isRead_escape _ hrest.notMem.1 hrest.notMem.2.1

theorem exists_shown (h : (terminal width).Legible s) :
    ∃ body, Markup.shown true s = .ok body :=
  isRead_of_legible h [] 0 [] 0

/-- The portions of texts that are read. -/
theorem exists_portions {texts : List String} (h : ∀ text ∈ texts, (terminal width).Legible text)
    (v : ShownValues) (hv : v.markup = true ∧ v.emoji = true) (front : List (List Glyph)) :
    ∃ ps, Portion.portions v front (texts.map .text) = .ok ps := by
  induction texts generalizing front with
  | nil => exact ⟨_, rfl⟩
  | cons text texts ih =>
      rw [List.forall_mem_cons] at h
      obtain ⟨body, hbody⟩ := exists_shown h.1
      obtain ⟨ps, hps⟩ := ih h.2 (body :: front)
      refine ⟨ps, ?_⟩
      rw [List.map_cons, Portion.portions, Portion.itemText?, if_pos hv.1, hv.2, hbody]
      exact hps

/-- Without width nothing is drawn of what is read. -/
theorem exists_draw {p : Printed} (h : (terminal 0).LegiblePrinted p) :
    ∃ text, draw 0 p = .ok text := by
  cases p with
  | panel body =>
      obtain ⟨body, hbody⟩ := exists_shown h
      exact ⟨"", by rw [draw, panel, hbody]; rfl⟩
  | rule title => exact ⟨"", rfl⟩
  | status text =>
      obtain ⟨body, hbody⟩ := exists_shown h
      exact ⟨"", by rw [draw, hbody]; rfl⟩
  | values v =>
      obtain ⟨texts, rfl, htexts⟩ := h
      obtain ⟨ps, hps⟩ := exists_portions htexts { items := texts.map .text } ⟨rfl, rfl⟩ []
      exact ⟨"", by rw [draw, Portion.text, hps]; rfl⟩
  | table t => exact ⟨"", rfl⟩

/-- A screen without width prints whatever is legible. -/
theorem terminal_prints : (terminal 0).Prints := by
  intro ps h
  have htexts : ∃ texts, ps.mapM (draw 0) = .ok texts := by
    induction ps with
    | nil => exact ⟨[], rfl⟩
    | cons p ps ih =>
        rw [List.forall_mem_cons] at h
        obtain ⟨text, htext⟩ := exists_draw h.1
        obtain ⟨texts, htexts⟩ := ih h.2
        refine ⟨text :: texts, ?_⟩
        rw [List.mapM_cons, htext, htexts]
        rfl
  obtain ⟨texts, htexts⟩ := htexts
  have htext : text 0 ps = .ok (String.join texts) := by
    rw [text, htexts]
    rfl
  refine ⟨((String.join texts).splitOn "\n").dropLast, ?_⟩
  show (text 0 ps >>= fun text => pure ((text.splitOn "\n").dropLast)) = _
  rw [htext]
  rfl

end Screen

end OatImage
