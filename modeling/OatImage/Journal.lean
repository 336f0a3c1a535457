import OatImage.Fault

/-!
# The journal of a lookup

Lookups report what they did: debug entries for the steps of a method search and an error
entry for each record that could not be decoded. A `Logged` step has an outcome and the
entries written up to it; a failure keeps the entries written before it. Entries name the
operation during which they were written, the innermost one if operations nest.
-/
namespace OatImage

inductive Level
  | debug
  | info
  | warning
  | error
deriving DecidableEq, Repr

def Level.name : Level → String
  | .debug => "DEBUG"
  | .info => "INFO"
  | .warning => "WARNING"
  | .error => "ERROR"

structure Context where
  descriptor : Option Text := none
  index : Option Int := none
  location : Option String := none
  address : Option Int := none
deriving DecidableEq, Repr

structure Entry where
  level : Level
  message : Text
  context : Context := {}
  operation : Option String := none
deriving DecidableEq, Repr

def Entry.during (operation : String) (e : Entry) : Entry :=
  { e with operation := e.operation.or (some operation) }

structure Logged (α : Type) where
  entries : List Entry
  outcome : Decode α

namespace Logged

variable {α β : Type}

/-- A step that writes nothing. -/
def ofDecode (d : Decode α) : Logged α := ⟨[], d⟩

def fail (e : Fault) : Logged α := ⟨[], .error e⟩

/-- One step after another. A failure ends both; the entries before it stay. -/
def andThen (first : Logged α) (next : α → Logged β) : Logged β :=
  match first.outcome with
  | .ok a => ⟨first.entries ++ (next a).entries, (next a).outcome⟩
  | .error e => ⟨first.entries, .error e⟩

instance : Monad Logged where
  pure a := ⟨[], .ok a⟩
  bind := andThen

instance : MonadLift Decode Logged where
  monadLift := ofDecode

def write (e : Entry) : Logged Unit := ⟨[e], .ok ()⟩

def debug (message : Text) : Logged Unit := write { level := .debug, message }

/-- A step whose decoding failure is written to the journal and gains context. Other
failures pass unchanged. -/
def reporting (d : Decode α) (entry : DecodeFault → Entry)
    (gain : DecodeFault → DecodeFault) : Logged α :=
  match d with
  | .ok a => ⟨[], .ok a⟩
  | .error (.decode e) => ⟨[entry e], .error (.decode (gain e))⟩
  | .error e => ⟨[], .error e⟩

def during (operation : String) (x : Logged α) : Logged α :=
  { x with entries := x.entries.map (Entry.during operation) }

end Logged

end OatImage
