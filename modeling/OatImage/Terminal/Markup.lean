import OatImage.Terminal.Action
import OatImage.Terminal.Emoji
import OatImage.Terminal.Glyph

/-!
# Markup

Text for the terminal may hold tags in square brackets, which choose a style and are not
shown. A tag opens with a bracket and one of the letters a to z, `#`, `/` or `@`, and runs to
the next closing bracket; no bracket opens inside it. A backslash before a tag makes it plain
text, and two backslashes before a tag stand for one. `escape` makes any text plain.

A tag that starts with a slash closes the last open tag of its name, or the last open one if
it names none. One that closes nothing is a failure. Tags left open close at the end. The name
of an emoji in plain text stands for the emoji, unless a tag stands inside it.
-/
namespace OatImage.Markup

def isTagStart (c : Char) : Bool := ('a' ≤ c && c ≤ 'z') || c = '#' || c = '/' || c = '@'

/-- The characters up to the next closing bracket, and those after it. No bracket may open
in between. -/
def upToClose : List Char → Option (List Char × List Char)
  | [] => none
  | c :: rest =>
    if c = ']' then some ([], rest)
    else if c = '[' then none
    else (upToClose rest).map fun (inner, after) => (c :: inner, after)

/-- The inside of the tag that a text starts with, and the text after the tag. -/
def tag? : List Char → Option (List Char × List Char)
  | bracket :: c :: rest =>
    if bracket = '[' && isTagStart c then
      (upToClose rest).map fun (inner, after) => (c :: inner, after)
    else none
  | _ => none

theorem upToClose_length {text inner after : List Char}
    (h : upToClose text = some (inner, after)) : after.length < text.length := by
  induction text generalizing inner after with
  | nil => simp [upToClose] at h
  | cons c rest ih =>
    unfold upToClose at h
    split at h
    · simp only [Option.some.injEq, Prod.mk.injEq] at h
      simp [← h.2]
    · split at h
      · simp at h
      · simp only [Option.map_eq_some_iff] at h
        obtain ⟨⟨i, a⟩, hi, hp⟩ := h
        simp only [Prod.mk.injEq] at hp
        have := ih hi
        rw [hp.2] at this
        simp only [List.length_cons]
        omega

theorem tag?_length {text inner after : List Char} (h : tag? text = some (inner, after)) :
    after.length < text.length := by
  unfold tag? at h
  split at h
  · split at h
    · simp only [Option.map_eq_some_iff] at h
      obtain ⟨⟨i, a⟩, hi, hp⟩ := h
      simp only [Prod.mk.injEq] at hp
      have := upToClose_length hi
      rw [hp.2] at this
      simp only [List.length_cons]
      omega
    · simp at h
  · simp at h

/-- Puts a backslash before every tag and doubles the `pending` backslashes that stand
directly before it. -/
def escapeTags (pending : Nat) (text : List Char) : List Char :=
  match h : tag? text with
  | some (inner, after) =>
    have := tag?_length h
    List.replicate (2 * pending + 1) '\\' ++ '[' :: inner ++ ']' :: escapeTags 0 after
  | none =>
    match text with
    | [] => List.replicate pending '\\'
    | c :: rest =>
      if c = '\\' then escapeTags (pending + 1) rest
      else List.replicate pending '\\' ++ c :: escapeTags 0 rest
termination_by text.length
decreasing_by
  · assumption
  · simp
  · simp

/-- The text with a second backslash at its end if it ends in a single one. -/
def doubleLast (text : List Char) : List Char :=
  match text.reverse with
  | '\\' :: '\\' :: _ => text
  | '\\' :: _ => text ++ ['\\']
  | _ => text

def escape (text : String) : String := String.ofList (doubleLast (escapeTags 0 text.toList))

inductive Piece
  | plain (text : List Char)
  | tag (inner : List Char) (position : Nat)
deriving DecidableEq, Repr

/-- Plain text in which a backslash and a bracket are written as the bracket. -/
def unescapeBrackets : List Char → List Char
  | '\\' :: '[' :: rest => '[' :: unescapeBrackets rest
  | c :: rest => c :: unescapeBrackets rest
  | [] => []

/-- A piece of plain text in front of others; no piece for no text. -/
def plainThen (reversed : List Char) (rest : List Piece) : List Piece :=
  if reversed.isEmpty then rest else .plain (unescapeBrackets reversed.reverse) :: rest

/-- The pieces of a text. `before` is the plain text read last, reversed, `pending` the number
of backslashes after it, and `position` the number of characters before the text. -/
def pieces (before : List Char) (pending position : Nat) (text : List Char) : List Piece :=
  match h : tag? text with
  | some (inner, after) =>
    let next := position + inner.length + 2
    let slashes := List.replicate (pending / 2) '\\'
    let rest := fun (shown : List Piece) =>
      plainThen before ((if slashes.isEmpty then [] else [.plain slashes]) ++ shown)
    if pending % 2 = 1 then
      rest (.plain ('[' :: inner ++ [']']) :: pieces [] 0 next after)
    else rest (.tag inner position :: pieces [] 0 next after)
  | none =>
    match text with
    | [] => plainThen (List.replicate pending '\\' ++ before) []
    | c :: rest =>
      if c = '\\' then pieces before (pending + 1) (position + 1) rest
      else pieces (c :: List.replicate pending '\\' ++ before) 0 (position + 1) rest
termination_by text.length
decreasing_by
  · exact tag?_length h
  · exact tag?_length h
  · simp
  · simp

/-- An open tag: the normal form of its name, and what stands behind an equals sign. -/
structure OpenTag where
  name : String
  argument : List Char
deriving DecidableEq, Repr

/-- Closes a tag. The values of an action are read only then. -/
def OpenTag.close (t : OpenTag) : Drawing Unit :=
  if t.name.startsWith "@" ∧ t.argument ≠ [] then Action.check t.argument else .ok ()

/-- The name in a tag, up to the first equals sign, and the text behind that sign. -/
def splitTag (inner : List Char) : List Char × List Char :=
  (inner.takeWhile (· ≠ '='), (inner.dropWhile (· ≠ '=')).tail)

/-- The tag that a closing tag without a name closes, before the other open ones. -/
def closeLast (opened : List OpenTag) (position : Nat) : Drawing (List OpenTag) :=
  match opened with
  | [] => .error (.nothingToClose position)
  | tag :: rest => do
    tag.close
    pure rest

def closeNamed (opened : List OpenTag) (name : String) (inner : List Char) (position : Nat) :
    Drawing (List OpenTag) :=
  match opened.find? fun tag => tag.name = name with
  | none => .error (.unmatched (String.ofList inner) position)
  | some tag => do
    tag.close
    pure (opened.eraseP fun tag => tag.name = name)

/-- The open tags after a tag, the last one first. -/
def apply (opened : List OpenTag) (inner : List Char) (position : Nat) :
    Drawing (List OpenTag) := do
  let (name, argument) := splitTag inner
  match name with
  | '/' :: closing =>
    let closing := Style.trim closing
    if closing = [] then closeLast opened position
    else closeNamed opened (← Style.normalize (String.ofList closing)) inner position
  | name => pure (⟨← Style.normalize (String.ofList name), argument⟩ :: opened)

def isControl (c : Char) : Bool := c.toNat ∈ [7, 8, 11, 12, 13]

/-- Text that is no markup, as it is shown. -/
def plain (emoji : Bool) (text : List Char) : List Char :=
  (if emoji then Emoji.replace text else text).filter fun c => !isControl c

/-- The text of pieces behind so many tags, if every closing tag has a tag to close. Text inside
tags is in a part. -/
def render (emoji : Bool) (tags : Nat) : (opened : List OpenTag) → List Piece → Drawing (List Glyph)
  | _, [] => .ok []
  | opened, .plain text :: rest => do
    let more ← render emoji tags opened rest
    let shown := Glyph.plain (plain emoji text)
    pure ((if opened.isEmpty then shown else Glyph.within tags shown) ++ more)
  | opened, .tag inner position :: rest => do
    render emoji (tags + 1) (← apply opened inner position) rest

def shown (emoji : Bool) (markup : String) : Drawing (List Glyph) :=
  render emoji 0 [] (pieces [] 0 0 markup.toList)

end OatImage.Markup
