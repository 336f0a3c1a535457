import OatImage.CommandLine.Address
import OatImage.CommandLine.Words
import OatImage.InstructionSet
import OatImage.Misuse

/-!
# Requests

A command line gives options for all commands, then a command, then the options and the file
of the command. Options are checked in the order in which they are given, the file after
them, and missing options last. Asking for help or for the version comes before any check.
-/
namespace OatImage.CommandLine

inductive Found
  | absent
  | directory
  /-- A file with its full name and its content. -/
  | file (name : String) (content : ByteArray)

/-- What stands at every path. -/
abbrev Files := String → Found

/-- A file under the path that was asked for. -/
structure NamedFile where
  path : String
  name : String
  content : ByteArray

/-- Why no request is made of a command line. -/
inductive Halt
  | usage (fault : UsageFault)
  /-- A word that no path can be. -/
  | misuse (m : Misuse)
  /-- There are no words at all. -/
  | noWords
  | help
  | version
deriving DecidableEq, Repr

def Halt.refuse {α : Type} (fault : UsageFault) : Except Halt α := .error (.usage fault)

/-- The file at a path that is the value of a parameter. -/
def fileAt (files : Files) (parameter path : String) : Except Halt NamedFile :=
  if path.contains '\x00' then .error (.misuse .zeroInPath)
  else match files path with
  | .absent =>
    Halt.refuse (.badValue parameter ("File " ++ Quoted.text path ++ " does not exist."))
  | .directory =>
    Halt.refuse (.badValue parameter ("File " ++ Quoted.text path ++ " is a directory."))
  | .file name content => .ok ⟨path, name, content⟩

/-! ## Options for all commands -/

inductive GlobalOption
  | config
  | verbose
  | json
  | baseAddress
  | isa
  | version
  | help
deriving DecidableEq, Repr

namespace GlobalOption

def spellings : List (Spelling GlobalOption) :=
  [⟨"--config", .config, true⟩, ⟨"--verbose", .verbose, false⟩, ⟨"-v", .verbose, false⟩,
   ⟨"--json", .json, false⟩, ⟨"--base-address", .baseAddress, true⟩, ⟨"--isa", .isa, true⟩,
   ⟨"--version", .version, false⟩, ⟨"--help", .help, false⟩]

end GlobalOption

/-- The choices of options for all commands. -/
structure Choices where
  config : Option NamedFile := none
  verbose : Bool := false
  json : Bool := false
  base : Option Int := none
  isa : Option String := none

namespace Choices

def isaWords : List String := ["auto", "thumb"] ++ InstructionSet.all.map InstructionSet.name

/-- A letter without its case, as far as the words that name an instruction set need it. -/
def foldCase (c : Char) : Char := if c = 'ſ' then 's' else c.toLower

/-- The word for an instruction set, in letters of either case. -/
def readIsa (word : String) : Except Halt String :=
  let key := String.ofList (word.toList.map foldCase)
  match isaWords.find? fun w => w = key with
  | some w => .ok w
  | none => Halt.refuse (.badValue "--isa" (Quoted.text word ++ " is not one of " ++
      ", ".intercalate (isaWords.map fun w => "'" ++ w ++ "'") ++ "."))

def readBase (word : String) : Except Halt Int :=
  match Address.read? word with
  | none =>
    Halt.refuse (.badValue "--base-address" (Quoted.text word ++ " is not an integer address"))
  | some address =>
    if address < 0 then
      Halt.refuse (.badValue "--base-address" "address must not be negative")
    else .ok address

def choose (files : Files) (s : Split GlobalOption) (c : Choices) (option : GlobalOption) :
    Except Halt Choices :=
  let word := (s.value? option).getD ""
  match option with
  | .config => do pure { c with config := some (← fileAt files "--config" word) }
  | .verbose => .ok { c with verbose := true }
  | .json => .ok { c with json := true }
  | .baseAddress => do pure { c with base := some (← readBase word) }
  | .isa => do pure { c with isa := some (← readIsa word) }
  | .version => .error .version
  | .help => .error .help

/-- Help and the version come before the other options. -/
def isFirst : GlobalOption → Bool
  | .version => true
  | .help => true
  | _ => false

def ofSplit (files : Files) (s : Split GlobalOption) : Except Halt Choices :=
  let first := s.order.filter isFirst
  let others := s.order.filter fun o => !isFirst o
  (first ++ others).foldlM (choose files s) {}

end Choices

/-! ## Commands -/

inductive Command
  | info
  | dex
  | method
deriving DecidableEq, Repr

namespace Command

def all : List Command := [.dex, .info, .method]

def name : Command → String
  | .info => "info"
  | .dex => "dex"
  | .method => "method"

def ofName? (name : String) : Option Command := all.find? fun c => c.name = name

end Command

structure Query where
  descriptor : String
  name : String
  signature : String
  location : Option String := none
deriving DecidableEq, Repr

inductive Task
  | info (file : NamedFile)
  | dex (file : NamedFile)
  | method (file : NamedFile) (query : Query)

inductive MethodOption
  | descriptor
  | name
  | signature
  | location
  | help
deriving DecidableEq, Repr

namespace MethodOption

def spellings : List (Spelling MethodOption) :=
  [⟨"--class", .descriptor, true⟩, ⟨"-c", .descriptor, true⟩, ⟨"--method", .name, true⟩,
   ⟨"-m", .name, true⟩, ⟨"--signature", .signature, true⟩, ⟨"-s", .signature, true⟩,
   ⟨"--dex", .location, true⟩, ⟨"--help", .help, false⟩]

def names (option : MethodOption) : List String :=
  (spellings.filter fun s => s.option = option).map Spelling.name

/-- The value of an option that must be given. -/
def required (s : Split MethodOption) (option : MethodOption) : Except Halt String :=
  match s.value? option with
  | some value => .ok value
  | none => Halt.refuse (.missingOption (names option))

end MethodOption

namespace Task

/-- The options of a command that only has help. -/
def plainSpellings : List (Spelling MethodOption) := [⟨"--help", .help, false⟩]

def split (spellings : List (Spelling MethodOption)) (words : List String) :
    Except Halt (Split MethodOption) :=
  match Split.read spellings true words with
  | .error e => Halt.refuse e
  | .ok s => if s.has .help then .error .help else .ok s

def file (files : Files) (s : Split MethodOption) : Except Halt NamedFile :=
  match s.words with
  | [] => Halt.refuse (.missingArgument "PATH")
  | path :: _ => fileAt files "PATH" path

/-- Words behind the file are refused. -/
def finish {α : Type} (s : Split MethodOption) (a : α) : Except Halt α :=
  match s.words with
  | _ :: word :: rest => Halt.refuse (.extraArguments (word :: rest))
  | _ => .ok a

def read (files : Files) (command : Command) (words : List String) : Except Halt Task :=
  match command with
  | .info => do
    let s ← split plainSpellings words
    finish s (.info (← file files s))
  | .dex => do
    let s ← split plainSpellings words
    finish s (.dex (← file files s))
  | .method => do
    let s ← split MethodOption.spellings words
    let file ← file files s
    let descriptor ← MethodOption.required s .descriptor
    let name ← MethodOption.required s .name
    let signature ← MethodOption.required s .signature
    finish s (.method file ⟨descriptor, name, signature, s.value? .location⟩)

end Task

/-! ## Requests -/

/-- The choices for all commands, the command and its words. -/
structure Request where
  choices : Choices
  command : Command
  words : List String

namespace Request

def split (words : List String) : Except Halt (Split GlobalOption) :=
  match Split.read GlobalOption.spellings false words with
  | .error e => Halt.refuse e
  | .ok s => .ok s

/-- The command of the words that are left. What looks like an option is read as one more
time, so that asking for help counts there too. -/
def findCommand (files : Files) (words : List String) : Except Halt (Command × List String) :=
  match words with
  | [] => Halt.refuse .missingCommand
  | word :: rest =>
    match Command.ofName? word with
    | some command => .ok (command, rest)
    | none => do
      if word.startsWith "-" then
        let _ ← Choices.ofSplit files (← split (word :: rest))
      Halt.refuse (.noSuchCommand word (Similarity.closest word (Command.all.map Command.name)))

def read (files : Files) (words : List String) : Except Halt Request :=
  if words.isEmpty then .error .noWords
  else do
    let s ← split words
    let choices ← Choices.ofSplit files s
    let (command, rest) ← findCommand files s.words
    pure ⟨choices, command, rest⟩

end Request

/-! ## Readers -/

/-- What reads the words of a command line. -/
structure Reader where
  /-- The word that counts for an option. -/
  given : List String → GlobalOption → Option String
  request : Files → List String → Except Halt Request
  /-- The task of a command, from the words behind it. -/
  task : Files → Command → List String → Except Halt Task

/-- A reader that splits the words. Of several words for an option the last one counts. -/
def Reader.splitting : Reader where
  given words option := (Request.split words).toOption.bind fun s => s.value? option
  request := Request.read
  task := Task.read

end OatImage.CommandLine
