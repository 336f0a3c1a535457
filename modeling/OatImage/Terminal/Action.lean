import OatImage.Terminal.ScreenFault
import OatImage.Terminal.Style

/-!
# Actions

A tag whose name starts with `@` may say behind an equals sign what a click does: a name, a name
with values in parentheses, or values alone. An action shows nothing, but its values have to be
well formed: brackets close in pairs, texts end, and operands and signs take turns.
-/
namespace OatImage.Action

inductive Token
  | opening (c : Char)
  | closing
  | name
  | number
  | text
  | comma
  | dot
  | colon
  | equals
  | sign
  | stray
deriving DecidableEq, Repr

inductive Mode
  | between
  | word
  | number
  | text (quote : Char)
  | escaped (quote : Char)
deriving DecidableEq, Repr

def isNamePart (c : Char) : Bool := c.isAlphanum || c = '_' || 0x80 ≤ c.toNat

def closes (opening closing : Char) : Bool :=
  (opening = '(' && closing = ')') || (opening = '\x7b' && closing = '\x7d')

/-- The token of a character that is no bracket and belongs to no word or text. -/
def token (c : Char) : Token :=
  if c = ',' then .comma
  else if c = '.' then .dot
  else if c = ':' then .colon
  else if c = '=' then .equals
  else if c ∈ ['+', '-', '*', '/', '%', '@', '<', '>', '|', '&', '^', '~'] then .sign
  else .stray

def unended : String := "unterminated string literal (detected at line 1)"

/-- The tokens of a text, or the words for a bracket or a text that does not end. `opened` holds
the open brackets, the last one first. -/
def scan (opened : List Char) (mode : Mode) : List Char → Except String (List Token)
  | [] =>
    match mode, opened with
    | .text _, _ | .escaped _, _ => .error unended
    | _, [] => .ok []
    | _, c :: _ => .error ("'" ++ String.singleton c ++ "' was never closed")
  | c :: rest =>
    match mode with
    | .escaped quote => scan opened (.text quote) rest
    | .text quote =>
      if c = quote then scan opened .between rest
      else scan opened (if c = '\\' then .escaped quote else mode) rest
    | _ =>
      if mode ≠ .between && isNamePart c || mode = .number && c = '.' then scan opened mode rest
      else if c.isDigit then (scan opened .number rest).map (.number :: ·)
      else if isNamePart c then (scan opened .word rest).map (.name :: ·)
      else if Style.isBlank c then scan opened .between rest
      else if c = '\'' || c = '"' then (scan opened (.text c) rest).map (.text :: ·)
      else if c = '(' || c = '\x7b' then
        (scan (c :: opened) .between rest).map (.opening c :: ·)
      else if c = ')' || c = '\x7d' then
        match opened with
        | [] => .error ("unmatched '" ++ String.singleton c ++ "'")
        | o :: more =>
          if closes o c then (scan more .between rest).map (.closing :: ·)
          else
            .error ("closing parenthesis '" ++ String.singleton c ++
              "' does not match opening parenthesis '" ++ String.singleton o ++ "'")
      else if c = '\\' then .error "unexpected character after line continuation character"
      else (scan opened .between rest).map (token c :: ·)

def isOperand (t : Token) : Bool := t = .name || t = .number || t = .text

def invalid : String := "invalid syntax"

/-- Two equals signs, or one behind another sign, make one sign. -/
def joinSigns : List Token → List Token
  | .equals :: .equals :: rest => .sign :: joinSigns rest
  | .sign :: .equals :: rest => .sign :: joinSigns rest
  | t :: rest => t :: joinSigns rest
  | [] => []

/-- The open brackets after a token behind an operand, or what is wrong with the token there.
`opened` holds those before it, the last one first. -/
def afterOperand (opened : List Char) (last : Token) : Token → Except String (List Char)
  | .closing => .ok opened.tail
  | .comma | .dot | .sign => .ok opened
  | .opening c => if c = '(' then .ok (c :: opened) else .error invalid
  | .equals =>
    if opened = [] then .error invalid
    else if last = .name then
      .error "invalid syntax. Maybe you meant '==' or ':=' instead of '='?"
    else .error "cannot assign to literal here. Maybe you meant '==' instead of '='?"
  | .colon => if opened.head? = some '\x7b' then .ok opened else .error invalid
  | .stray => .error invalid
  | t =>
    if last = .text && t = .text then .ok opened
    else if opened = [] || last = .name && t = .text then .error invalid
    else .error (invalid ++ ". Perhaps you forgot a comma?")

/-- The open brackets after a token where an operand has to stand, or what is wrong with it. -/
def atOperand (opened : List Char) (last : Token) : Token → Except String (List Char)
  | .opening c => .ok (c :: opened)
  | .closing =>
    match last with
    | .opening _ | .comma => .ok opened.tail
    | _ => .error invalid
  | .name | .number | .text | .sign => .ok opened
  | _ => .error invalid

def endsOperand (t : Token) : Bool := isOperand t || t = .closing

/-- What is wrong with the first token that does not belong where it stands. `last` is the token
before. -/
def orderFlaw? (opened : List Char) (last : Token) : List Token → Option String
  | [] => if endsOperand last || last = .comma then none else some invalid
  | t :: rest =>
    match (if endsOperand last then afterOperand opened last t else atOperand opened last t) with
    | .ok opened => orderFlaw? opened t rest
    | .error why => some why

def flaw? (text : List Char) : Option String :=
  match scan [] .between text with
  | .error why => some why
  | .ok tokens => orderFlaw? [] .comma (joinSigns tokens)

/-- The values of an action: what stands in parentheses behind its name, nothing for a name
alone, and else the whole text. -/
def values (text : List Char) : List Char :=
  let behind := text.dropWhile fun c => isNamePart c || c = '.'
  if behind = [] then ['(', ')']
  else if behind.head? = some '(' && behind.getLast? = some ')' && '\n' ∉ behind then behind
  else text

def check (text : List Char) : Drawing Unit :=
  let read := values (Style.trim text)
  match flaw? read with
  | none => .ok ()
  | some why => .error (.badAction (String.ofList read) (String.ofList text) why)

end OatImage.Action
