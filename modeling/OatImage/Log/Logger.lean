import OatImage.JsonText
import OatImage.Log.Template
import OatImage.Log.Threshold

/-!
# Loggers

A logger writes records that reach its threshold to a file, a line of plain text or of JSON
for each. Operations nest: a record carries the name of the innermost open one, and leaving
an operation brings back the one around it. A timed scope writes a record when it is entered
and one when it is left, and changes no operation.
-/
namespace OatImage.Log

/-- What a record may say of the thing it is about, in the order in which it is written. -/
inductive Field
  | descriptor
  | index
  | location
  | address
deriving DecidableEq, Repr

namespace Field

def all : List Field := [.descriptor, .index, .location, .address]

def name : Field → String
  | .descriptor => "descriptor"
  | .index => "index"
  | .location => "location"
  | .address => "address"

def ofName? (name : String) : Option Field := all.find? fun f => f.name = name

end Field

/-- The time of day, as a line of plain text and as a line of JSON write it. -/
structure Instant where
  plain : String
  utc : String
deriving DecidableEq, Repr

structure Record where
  made : Instant
  level : Level
  logger : String
  tool : String
  operation : Option String
  template : String
  values : List Value := []
  /-- What is known of the thing the record is about, in the order of the fields. -/
  context : List (Field × Value) := []
deriving DecidableEq, Repr

namespace Record

def message (r : Record) : Option String := Template.message r.template r.values

/-- A value of the context: an address that is a whole number is written in hexadecimal. -/
def noted (field : Field) (v : Value) : Value :=
  match field, v.integer? with
  | .address, some n => .text (Numeral.hex n)
  | _, _ => v

/-- The context behind a message in brackets. -/
def contextText (r : Record) : String :=
  if r.context.isEmpty then ""
  else
    " [" ++ " ".intercalate (r.context.map fun (f, v) => f.name ++ "=" ++ (noted f v).plain) ++ "]"

def levelColumn (r : Record) : String :=
  String.ofList (r.level.name.toList ++ List.replicate (8 - r.level.name.length) ' ')

def plainLine (r : Record) (message : String) : String :=
  r.made.plain ++ " | " ++ r.levelColumn ++ " | " ++ r.logger ++ " | " ++ message ++ r.contextText

def toValue (r : Record) (message : String) : Value :=
  let operation := (r.operation.map fun name => ("operation", Value.text name)).toList
  let context :=
    if r.context.isEmpty then []
    else [("context", Value.table (r.context.map fun (f, v) => (f.name, noted f v)))]
  .table
    ([("timestamp", .text r.made.utc), ("level", .text r.level.name), ("logger", .text r.logger),
      ("message", .text message), ("tool_name", .text r.tool)] ++ operation ++ context)

/-- The record as a line of a file. A record whose message does not fit its values has none. -/
def line? (asJson : Bool) (r : Record) : Option String :=
  r.message.map fun message =>
    if asJson then JsonText.line .unicode (r.toValue message) else r.plainLine message

end Record

inductive Scope
  /-- An operation, with the operation around it. -/
  | operation (outer : Option String)
  | timed (label : String)
deriving DecidableEq, Repr

/-- A logger with the records it has made. -/
structure Logger where
  tool : String
  threshold : Nat
  asJson : Bool
  hasFile : Bool
  operation : Option String := none
  /-- The open scopes, the innermost one first. -/
  scopes : List Scope := []
  records : List Record := []
deriving DecidableEq, Repr

/-- Why context cannot be noted. -/
inductive ContextFault
  /-- Names that are no fields. -/
  | unexpected (names : List String)
  /-- A name that a part of the call itself has. -/
  | taken (level : Level) (name : String)
deriving DecidableEq, Repr

/-- The name by which a record of a level is asked for. -/
def methodName : Level → String
  | .debug => "debug"
  | .info => "info"
  | .warning => "warning"
  | .error => "error"

def ContextFault.message : ContextFault → String
  | .unexpected names => "unexpected log context: " ++ ", ".intercalate names
  | .taken level name =>
    "ArtScopeLogger." ++ methodName level ++ "() got multiple values for argument '" ++ name ++ "'"

/-- Context as it is given: names and values. -/
abbrev GivenContext := List (String × Value)

namespace GivenContext

/-- The names that are no fields, in ascending order. -/
def unexpected (c : GivenContext) : List String :=
  ((c.map Prod.fst).filter fun name => (Field.ofName? name).isNone).mergeSort

/-- The first name that a part of the call itself has. -/
def taken? (c : GivenContext) : Option String :=
  (c.map Prod.fst).find? fun name => name = "self" || name = "msg"

/-- The values that are there, in the order of the fields. -/
def known (c : GivenContext) : List (Field × Value) :=
  Field.all.filterMap fun f =>
    match List.lookup f.name c with
    | none => none
    | some .none => none
    | some v => some (f, v)

end GivenContext

namespace Logger

/-- A logger for a tool with the threshold that a name chooses. -/
def forTool (tool level : String) (asJson hasFile : Bool) : Except ThresholdFault Logger :=
  (Log.threshold level).map fun threshold => { tool, threshold, asJson, hasFile }

def name (l : Logger) : String := "artscope." ++ l.tool

/-- Makes a record during the operation that is open, if its level reaches the threshold. -/
def write (l : Logger) (now : Instant) (level : Level) (template : String) (values : List Value)
    (context : List (Field × Value)) : Logger :=
  if weight level < l.threshold then l
  else
    { l with
      records := l.records ++
        [{ made := now, level, logger := l.name, tool := l.tool, operation := l.operation, template
           values, context }] }

def log (l : Logger) (now : Instant) (level : Level) (template : String) (values : List Value)
    (context : GivenContext) : Except ContextFault Logger :=
  match context.taken?, context.unexpected with
  | some name, _ => .error (.taken level name)
  | none, [] => .ok (l.write now level template values context.known)
  | none, names => .error (.unexpected names)

def enterOperation (l : Logger) (name : String) : Logger :=
  { l with operation := some name, scopes := .operation l.operation :: l.scopes }

def enterTimed (l : Logger) (now : Instant) (label : String) : Logger :=
  let l := l.write now .debug "Started: %s" [.text label] []
  { l with scopes := .timed label :: l.scopes }

/-- Leaves the innermost scope if it is an operation. -/
def leaveOperation (l : Logger) : Logger :=
  match l.scopes with
  | .operation outer :: rest => { l with operation := outer, scopes := rest }
  | _ => l

/-- Leaves the innermost scope. A timed one has been open for `elapsed` seconds. -/
def leave (l : Logger) (now : Instant) (elapsed : Double) : Logger :=
  match l.scopes with
  | .timed label :: rest =>
    { l with scopes := rest }.write now .debug "Completed: %s (%.3f sec)"
      [.text label, .real elapsed] []
  | _ => l.leaveOperation

def lines (l : Logger) : List String :=
  if l.hasFile then l.records.filterMap (Record.line? l.asJson) else []

end Logger

end OatImage.Log
