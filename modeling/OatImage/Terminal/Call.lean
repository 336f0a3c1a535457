import OatImage.Terminal.Shown

/-!
# Calls

What is to be shown may be told in values: the name of a kind of part, and what it is made of in
order or by name. A text may be any value, which then is shown plain. A call has to give what its
kind of part is made of, nothing else and nothing twice.
-/
namespace OatImage

structure Call where
  name : String
  ordered : List Value
  named : List (String × Value)
deriving DecidableEq, Repr

namespace Call

/-- What a kind of part is made of: names in their order, of which the first ones have to be
given, and names that have no place in the order. -/
structure Form where
  ordered : List String
  required : Nat
  named : List String := []
deriving DecidableEq, Repr

/-- The forms of the kinds of parts. Values in a row are told apart. -/
def forms : List (String × Form) :=
  [("banner", ⟨["tool", "version"], 1, []⟩), ("section", ⟨["title"], 1, []⟩),
   ("success", ⟨["message"], 1, []⟩), ("warning", ⟨["message"], 1, []⟩),
   ("error", ⟨["message"], 1, []⟩), ("info", ⟨["message"], 1, []⟩),
   ("status", ⟨["message"], 0, []⟩), ("blank", ⟨["count"], 0, []⟩),
   ("table", ⟨["title", "columns", "rows"], 3, ["caption", "styles"]⟩)]

def rowNames : List String :=
  ["sep", "end", "style", "justify", "overflow", "no_wrap", "emoji", "markup", "highlight",
   "width", "height", "crop", "soft_wrap", "new_line_start"]

end Call

/-- Why a call shows nothing. -/
inductive CallFault
  | unknown
  | unexpected (call name : String)
  | repeated (call name : String)
  /-- More values in order than the form has names for. `apart` counts those given by name that
  have no place in the order. -/
  | tooMany (call : String) (form : Call.Form) (given apart : Nat)
  | missing (call : String) (names : List String)
  /-- A value that holds no values. -/
  | notIterable (kind : String)
  /-- A count that is no whole number. -/
  | notWhole (kind : String)
deriving DecidableEq, Repr

namespace CallFault

def plural (n : Nat) : String := if n = 1 then "" else "s"

def listed (names : List String) : String :=
  match names.map fun name => "'" ++ name ++ "'" with
  | [a, b] => a ++ " and " ++ b
  | quoted =>
    if quoted.length < 2 then String.join quoted
    else ", ".intercalate quoted.dropLast ++ ", and " ++ quoted.getLast?.getD ""

/-- How many values a form takes in order; the thing that is called is one of them. -/
def counts (form : Call.Form) : String :=
  let most := form.ordered.length + 1
  let least := form.required + 1
  if least = most then Numeral.decimal most ++ " positional argument" ++ plural most
  else "from " ++ Numeral.decimal least ++ " to " ++ Numeral.decimal most ++
    " positional arguments"

def message : CallFault → String
  | .unknown => "unknown call"
  | .unexpected call name => call ++ "() got an unexpected keyword argument '" ++ name ++ "'"
  | .repeated call name => call ++ "() got multiple values for argument '" ++ name ++ "'"
  | .tooMany call form given apart =>
    let byName := if apart = 0 then ""
      else " positional argument" ++ plural (given + 1) ++ " (and " ++ Numeral.decimal apart ++
        " keyword-only argument" ++ plural apart ++ ")"
    call ++ "() takes " ++ counts form ++ " but " ++ Numeral.decimal (given + 1) ++ byName ++
      (if given = 0 && apart = 0 then " was" else " were") ++ " given"
  | .missing call names =>
    call ++ "() missing " ++ Numeral.decimal names.length ++ " required positional argument" ++
      plural names.length ++ ": " ++ listed names
  | .notIterable kind => "'" ++ kind ++ "' object is not iterable"
  | .notWhole kind => "'" ++ kind ++ "' object cannot be interpreted as an integer"

end CallFault

namespace Call

/-- The names that a call gives have to be names of its form, and have no other value. -/
def checkNames (form : Form) (c : Call) (full : String) : List String → Except CallFault Unit
  | [] => .ok ()
  | name :: rest =>
    if name ∉ form.ordered ++ form.named then .error (.unexpected full name)
    else if name ∈ form.ordered.take c.ordered.length then .error (.repeated full name)
    else checkNames form c full rest

/-- A call has to keep to its form. -/
def checkForm (form : Form) (c : Call) : Except CallFault Unit := do
  let full := "ArtScopeConsole." ++ c.name
  let names := c.named.map Prod.fst
  checkNames form c full names
  let apart := (names.filter fun name => name ∈ form.named).length
  if form.ordered.length < c.ordered.length then
    throw (.tooMany full form c.ordered.length apart)
  let absent := ((form.ordered.take form.required).drop c.ordered.length).filter (· ∉ names)
  if absent ≠ [] then throw (.missing full absent)

def argument? (c : Call) (place : Nat) (name : String) : Option Value :=
  (c.ordered[place]?).or (c.named.lookup name)

/-- A value under a name that says more than nothing. -/
def named? (c : Call) (name : String) : Option Value :=
  (c.named.lookup name).filter (· ≠ .none)

def text (c : Call) (place : Nat) (name : String) : String :=
  ((c.argument? place name).map Value.plain).getD ""

/-- The values that a value holds: items, letters or keys. -/
def elements : Value → Except CallFault (List Value)
  | .list items => .ok items
  | .text s => .ok (s.toList.map fun letter => .text (String.singleton letter))
  | .table entries => .ok (entries.map fun (key, _) => .text key)
  | v => .error (.notIterable v.kindName)

/-- The values that the value at a place or under a name holds. -/
def elementsAt (c : Call) (place : Nat) (name : String) : Except CallFault (List Value) :=
  ((c.argument? place name).map elements).getD (.ok [])

def isSet (c : Call) (name : String) (usual : Bool) : Bool :=
  ((c.named? name).map Value.isSet).getD usual

def texts (values : List Value) : List String := values.map Value.plain

def alignment (c : Call) : Wrap.Alignment :=
  match c.named? "justify" with
  | some (.text "left") => .left
  | some (.text "center") => .center
  | some (.text "right") => .right
  | some (.text "full") => .full
  | _ => .free

/-- How a long word is put on lines; none is cut without word in soft lines. -/
def overflow (c : Call) (soft : Bool) : Wrap.Overflow :=
  match c.named? "overflow" with
  | none => if soft then .ignore else .fold
  | some (.text "fold") => .fold
  | some (.text "ellipsis") => .ellipsis
  | some (.text "ignore") => .ignore
  | some _ => .crop

def values (c : Call) : ShownValues :=
  let soft := c.isSet "soft_wrap" false
  { items := c.ordered
    separator := ((c.named.lookup "sep").map Value.plain).getD " "
    ending := ((c.named.lookup "end").map Value.plain).getD "\n"
    markup := c.isSet "markup" true
    emoji := c.isSet "emoji" true
    style := (c.named? "style").map Value.plain
    alignment := c.alignment
    overflow := c.overflow soft
    unbroken := c.isSet "no_wrap" soft
    width := (c.named? "width").map fun v => (v.integer?.getD 0).toNat
    cropped := !soft && c.isSet "crop" true
    fresh := c.isSet "new_line_start" false }

/-- A value that is not set says nothing. -/
def shownText (v : Option Value) : Option String := (v.filter Value.isSet).map Value.plain

/-- A table. A title that is not set is left out. -/
def table (c : Call) : Except CallFault ShownTable := do
  let columns ← c.elementsAt 1 "columns"
  let rows ← (← c.elementsAt 2 "rows").mapM elements
  let styles ← match c.named? "styles" with
    | none => pure none
    | some styles => some <$> elements styles
  pure
    { title := (shownText (c.argument? 0 "title")).getD ""
      columns := texts columns
      rows := rows.map texts
      caption := shownText (c.named? "caption")
      styles := styles.map fun names => names.map fun v => (shownText (some v)).getD "" }

/-- So many blank lines, one if nothing is said. -/
def blanks (c : Call) : Except CallFault (List Shown) :=
  let count := (c.argument? 0 "count").getD (.integer 1)
  match count.integer? with
  | some n => .ok (List.replicate n.toNat .blank)
  | none => .error (.notWhole count.kindName)

def known (c : Call) : Except CallFault (List Shown) :=
  match c.name with
  | "banner" =>
    .ok [.banner (c.text 0 "tool") (((c.argument? 1 "version").map Value.plain).getD "1.0.0")]
  | "section" => .ok [.section (c.text 0 "title")]
  | "success" => .ok [.message .success (c.text 0 "message")]
  | "warning" => .ok [.message .warning (c.text 0 "message")]
  | "error" => .ok [.message .error (c.text 0 "message")]
  | "info" => .ok [.message .info (c.text 0 "message")]
  | "status" =>
    .ok [.status (((c.argument? 0 "message").map Value.plain).getD "Working...")]
  | "blank" => c.blanks
  | _ => c.table.map fun t => [.table t]

/-- Values in a row. Nothing else may be said of them by name. -/
def printed (c : Call) : Except CallFault (List Shown) :=
  match (c.named.map Prod.fst).find? fun name => name ∉ rowNames with
  | some name => .error (.unexpected "Console.print" name)
  | none => .ok [.values c.values]

def parts (c : Call) : Except CallFault (List Shown) :=
  if c.name = "print" then c.printed
  else
    match forms.lookup c.name with
    | none => .error .unknown
    | some form => do
      checkForm form c
      c.known

end Call

end OatImage
