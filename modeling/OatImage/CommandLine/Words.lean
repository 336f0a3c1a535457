import OatImage.Text.Quoted
import OatImage.Text.Similarity

/-!
# Words of a command line

A command line is split into options with their values and other words. A long option starts
with two dashes and has its value behind an equals sign or in the next word. Short options
start with one dash and may stand together; the first that takes a value takes the rest of
the word, or the next word. Two dashes alone end the options.
-/
namespace OatImage.CommandLine

inductive UsageFault
  | noSuchOption (name : String) (similar : List String)
  | unexpectedValue (name : String)
  | missingValue (name : String)
  | missingCommand
  | noSuchCommand (name : String) (similar : List String)
  | missingArgument (name : String)
  | missingOption (names : List String)
  | extraArguments (words : List String)
  | badValue (name why : String)
deriving DecidableEq, Repr

def suggestion : List String → String
  | [] => ""
  | [name] => " Did you mean " ++ Quoted.text name ++ "?"
  | names =>
    let quoted := names.map fun (name : String) => Quoted.text name
    " (Possible options: " ++ ", ".intercalate quoted ++ ")"

/-- The names of an option, each in quotation marks. -/
def quotedNames (names : List String) : String :=
  " / ".intercalate (names.map fun name => "'" ++ name ++ "'")

def UsageFault.message : UsageFault → String
  | .noSuchOption name similar =>
    "No such option " ++ Quoted.text name ++ "." ++ suggestion similar
  | .unexpectedValue name => "Option " ++ Quoted.text name ++ " does not take a value."
  | .missingValue name => "Option " ++ Quoted.text name ++ " requires an argument."
  | .missingCommand => "Missing command."
  | .noSuchCommand name similar =>
    "No such command " ++ Quoted.text name ++ "." ++ suggestion similar
  | .missingArgument name => "Missing argument '" ++ name ++ "'."
  | .missingOption names => "Missing option " ++ quotedNames names ++ "."
  | .extraArguments words =>
    "Got unexpected extra argument" ++ (if words.length = 1 then "" else "s") ++ " (" ++
      " ".intercalate words ++ ")"
  | .badValue name why => "Invalid value for '" ++ name ++ "': " ++ why

structure Spelling (α : Type) where
  name : String
  option : α
  takesValue : Bool := false
deriving Repr

/-- The options in one word with their values; an option that takes none has an empty one.
The last of them may await its value from the next word. -/
structure WordOptions (α : Type) where
  given : List (α × String) := []
  awaits : Option (Spelling α) := none
deriving Repr

structure Split (α : Type) where
  given : List (α × String) := []
  words : List String := []
deriving Repr

namespace Split

variable {α : Type}

def withOptions (given : List (α × String)) (s : Split α) : Split α :=
  { s with given := given ++ s.given }

def withWord (word : String) (s : Split α) : Split α :=
  { s with words := word :: s.words }

def readShort (spellings : List (Spelling α)) :
    List Char → Except UsageFault (WordOptions α)
  | [] => .ok {}
  | c :: rest =>
    let name := String.ofList ['-', c]
    match spellings.find? fun s => s.name = name with
    | none => .error (.noSuchOption name [])
    | some s =>
      if !s.takesValue then
        (readShort spellings rest).map fun w => { w with given := (s.option, "") :: w.given }
      else if rest.isEmpty then .ok { awaits := some s }
      else .ok { given := [(s.option, String.ofList rest)] }

def isLongName (name : String) : Bool := name.toList.take 2 = ['-', '-']

/-- A word up to its first equals sign, and the value behind it. -/
def splitValue (word : List Char) : String × Option String :=
  let name := String.ofList (word.takeWhile (· ≠ '='))
  match word.dropWhile (· ≠ '=') with
  | [] => (name, none)
  | _ :: value => (name, some (String.ofList value))

def readLong (s : Spelling α) (value : Option String) : Except UsageFault (WordOptions α) :=
  match s.takesValue, value with
  | true, some value => .ok { given := [(s.option, value)] }
  | true, none => .ok { awaits := some s }
  | false, some _ => .error (.unexpectedValue s.name)
  | false, none => .ok { given := [(s.option, "")] }

/-- The options in a word, none if the word is no option. -/
def readWord (spellings : List (Spelling α)) (word : String) :
    Except UsageFault (Option (WordOptions α)) :=
  match word.toList with
  | '-' :: c :: rest =>
    let (name, value) := splitValue ('-' :: c :: rest)
    let long := spellings.filter fun s => isLongName s.name
    match long.find? fun s => s.name = name with
    | some s => some <$> readLong s value
    | none =>
      if c = '-' then
        .error (.noSuchOption name (Similarity.closest name (long.map Spelling.name)))
      else some <$> readShort spellings (c :: rest)
  | _ => .ok none

/-- Splits the words of a command line. Unless options may stand between other words, the
first other word ends them. -/
def read (spellings : List (Spelling α)) (mixed : Bool) :
    List String → Except UsageFault (Split α)
  | [] => .ok {}
  | word :: rest =>
    if word = "--" then .ok { words := rest }
    else
      match readWord spellings word with
      | .error e => .error e
      | .ok none =>
        if mixed then (read spellings mixed rest).map (withWord word)
        else .ok { words := word :: rest }
      | .ok (some ⟨given, none⟩) => (read spellings mixed rest).map (withOptions given)
      | .ok (some ⟨given, some s⟩) =>
        match rest with
        | [] => .error (.missingValue s.name)
        | value :: more =>
          (read spellings mixed more).map (withOptions (given ++ [(s.option, value)]))

/-- The value that was given last for an option. -/
def value? [BEq α] (s : Split α) (option : α) : Option String :=
  s.given.reverse.lookup option

def has [BEq α] (s : Split α) (option : α) : Bool := (s.value? option).isSome

/-- The options in the order in which they were first given. -/
def order [BEq α] (s : Split α) : List α := (s.given.map Prod.fst).eraseDups

end Split

end OatImage.CommandLine
