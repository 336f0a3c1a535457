import OatImage.ResolvedMethod

/-!
# Method lookups

A lookup asks for the method with a name and a signature in the class with a descriptor, in
all dex files or in the one with a location. Its outcome is one of six; the report of it
holds what is known in each. A lookup that finds nothing has not failed.
-/
namespace OatImage

inductive Resolution
  | invalidHeader
  | noClass
  /-- The search for the class failed. -/
  | classFailed (fault : Fault)
  | noMethod (c : ResolvedClass)
  /-- The class was found and the search for the method failed. -/
  | methodFailed (c : ResolvedClass) (fault : Fault)
  | found (x : ResolvedMethod)
deriving DecidableEq, Repr

inductive Status
  | found
  | notFound
  | failure
deriving DecidableEq, Repr

def Status.name : Status → String
  | .found => "found"
  | .notFound => "not_found"
  | .failure => "failure"

structure Lookup where
  status : Status := .notFound
  descriptor : String := ""
  method : String := ""
  signature : String := ""
  location : Option String := none
  classIndex : Option Int := none
  classStatus : Option Int := none
  classKind : Option String := none
  methodKind : Option String := none
  position : Option Int := none
  accessFlags : Option Int := none
  modifiers : List String := []
  compiled : Bool := false
  codeOffset : Option Int := none
  entryPoint : Option Int := none
  codePointer : Option Int := none
  error : Option String := none
deriving DecidableEq, Repr

/-- A failure that a report of a lookup can show; the others end the lookup itself. -/
def Fault.isReportable : Fault → Bool
  | .decode _ => true
  | .noDexFile _ _ => true
  | .setup _ => true
  | .load _ => true
  | _ => false

def Fault.text : Fault → Text
  | .decode e => e.render
  | .noDexFile index count => Text.ofString (noDexFileMessage index count)
  | .setup e => Text.ofString e.message
  | .load e => e.message
  | .misuse m => Text.ofString m.message
  | _ => []

def Logged.caught {α : Type} (x : Logged α) : Logged (Except Fault α) :=
  match x.outcome with
  | .ok a => ⟨x.entries, .ok (.ok a)⟩
  | .error e =>
    if e.isReportable then ⟨x.entries, .ok (.error e)⟩ else ⟨x.entries, .error e⟩

namespace Image

/-- The class with a descriptor: in the dex file with a location if one is given, else in
the first dex file that defines it. -/
def findClassFor (image : Image) (descriptor : Text) (location : Option Text) :
    Logged (Option ResolvedClass) :=
  match location with
  | none => image.findClass descriptor
  | some location => do
    match ← image.findDexFileNamed location with
    | none => pure none
    | some file => image.findClassIn file descriptor

def resolveIn (image : Image) (c : ResolvedClass) (name signature : Text) :
    Logged Resolution := do
  match ← (image.findMethodIn c name signature).caught with
  | .error e => pure (.methodFailed c e)
  | .ok none => pure (.noMethod c)
  | .ok (some x) => pure (.found x)

/-- Looks a method up in the image without regard to its header. -/
def resolveAnyway (image : Image) (descriptor name signature : Text)
    (location : Option Text) : Logged Resolution := do
  match ← (image.findClassFor descriptor location).caught with
  | .error e => pure (.classFailed e)
  | .ok none => do
    Logged.debug (Text.join ["Class ", descriptor, " not found"])
    pure .noClass
  | .ok (some c) => image.resolveIn c name signature

def resolveMethod (image : Image) (descriptor name signature : Text)
    (location : Option Text) : Logged Resolution :=
  if !image.header.isValid then pure .invalidHeader
  else (image.resolveAnyway descriptor name signature location).during "find_method"

end Image

namespace Lookup

def withClass (l : Lookup) (c : ResolvedClass) : Lookup :=
  { l with
    location := some c.file.location
    classIndex := some c.index
    classStatus := some c.record.status
    classKind := some c.record.coverage.reportName }

def withMethod (l : Lookup) (image : Image) (x : ResolvedMethod) : Lookup :=
  { l with
    status := .found
    methodKind := some x.method.kind
    position := some (x.method.position : Int)
    accessFlags := some (x.method.accessFlags : Int)
    modifiers := x.method.modifiers
    compiled := x.isCompiled
    codeOffset := x.slot.map fun s => (s.codeOffset : Int)
    entryPoint := x.entryPoint image
    codePointer := x.codePointer image }

def failed (l : Lookup) (text : String) : Lookup :=
  { l with status := .failure, error := some text }

def ofResolution (image : Image) (asked : Lookup) : Resolution → Lookup
  | .invalidHeader => asked.failed "Invalid OAT header"
  | .noClass => asked
  | .classFailed e => asked.failed e.text.toScalarString
  | .noMethod c => asked.withClass c
  | .methodFailed c e => (asked.withClass c).failed e.text.toScalarString
  | .found x => (asked.withClass x.owner).withMethod image x

def run (image : Image) (descriptor name signature : String) (location : Option Text) :
    Logged Lookup := do
  let outcome ← image.resolveMethod descriptor name signature location
  pure (ofResolution image { descriptor, method := name, signature } outcome)

/-- Looks a method up by fields that may hold lone surrogates. No report can hold such a
field, so a lookup with one is refused. -/
def runText (image : Image) (descriptor name signature : Text) (location : Option Text) :
    Logged Lookup :=
  match descriptor.toString?, name.toString?, signature.toString? with
  | some descriptor, some name, some signature => run image descriptor name signature location
  | _, _, _ => Logged.fail .unreportable

end Lookup

end OatImage
