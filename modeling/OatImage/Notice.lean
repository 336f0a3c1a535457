import OatImage.Text.Basic
import OatImage.Value

/-!
# Notices

What is said of a failure: a message, and behind it in parentheses what is known of the record
that failed. Callers add what they know and never overwrite what is set.
-/
namespace OatImage

/-- A message about a record; a value of no kind stands for what is not known. -/
structure Notice where
  message : String
  index : Value := .none
  location : Value := .none
  descriptor : Option Text := none
  address : Value := .none
deriving DecidableEq, Repr

namespace Notice

/-- A known value behind its name. -/
def part (name : String) (shown : Value → String) : Value → List Text
  | .none => []
  | v => [Text.ofString (name ++ "=" ++ shown v)]

def addressText (v : Value) : String :=
  match v.integer? with
  | some n => Numeral.hex n
  | none => v.plain

/-- The known values, each behind its name. -/
def parts (e : Notice) : List Text :=
  (e.descriptor.map fun d => Text.ofString "descriptor=" ++ d).toList ++
    part "index" Value.plain e.index ++ part "location" Value.plain e.location ++
    part "address" addressText e.address

/-- The message, then the known values in parentheses. -/
def render (e : Notice) : Text :=
  match e.parts with
  | [] => Text.ofString e.message
  | parts => Text.join [e.message, " (", (parts.intersperse (Text.ofString ", ")).flatten, ")"]

/-- A value that is known, or another one in its place. -/
def orElse : Value → Value → Value
  | .none, other => other
  | v, _ => v

/-- Adds what is known of the failing record; what is set already is kept. -/
def withContext (e : Notice) (index location : Value) (descriptor : Option Text) : Notice :=
  { e with
    index := orElse e.index index
    location := orElse e.location location
    descriptor := e.descriptor.or descriptor }

end Notice

end OatImage
