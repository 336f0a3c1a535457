import OatImage.Dex.Lookup

/-!
# Sessions

A session answers questions about one module and keeps what it has read: strings by index,
the descriptors of the class definitions once all of them were readable, and in every class
object the methods of the class. A class that is located or asked for by its index is a new
class object each time, and questions about methods are questions about one of the objects.
A question that fails keeps what it had read before it failed. The answers are those of the
module itself, whatever was asked before; only the work is less.
-/
namespace OatImage.Dex

/-- A class object: the definition of a class, and its methods once they were read. -/
structure ClassObject where
  definition : ClassDef
  data : Option ClassData := none

/-- What a session has read so far. -/
structure Kept where
  strings : List (Int × Text) := []
  descriptors : Option (List Text) := none
  /-- The class objects that were made, each under its place in the list. -/
  objects : List ClassObject := []

/-- Nothing has been read, and the class objects that there are have these definitions. -/
def Kept.fresh (made : List ClassDef) : Kept := { objects := made.map ({ definition := · }) }

/-- The definitions of the class objects. -/
def Kept.made (k : Kept) : List ClassDef := k.objects.map ClassObject.definition

/-- A step of a session. What was kept survives a failure. -/
abbrev Session := ExceptT Fault (StateM Kept)

namespace Session

/-- A step that reads the module and keeps nothing. -/
def read {α : Type} (d : Decode α) : Session α := ExceptT.mk (pure d)

/-- The string with an index, kept once it was read. -/
def string (m : Module) (index : Int) : Session Text := do
  match List.lookup index (← get).strings with
  | some text => pure text
  | none =>
    let text ← read (m.string index)
    modify fun k => { k with strings := (index, text) :: k.strings }
    pure text

def typeDescriptor (m : Module) (index : Int) : Session Text := do
  string m (← read (m.typeName index))

def methodName (m : Module) (index : Int) : Session Text := do
  string m (← read (m.methodId index)).name

/-- The descriptors of `count` types listed from an address on. -/
def typeList (m : Module) : (count : Nat) → (address : Int) → Session (List Text)
  | 0, _ => pure []
  | count + 1, address => do
    let index ← read (m.u16 address "type_list")
    let first ← typeDescriptor m index
    let rest ← typeList m count (address + 2)
    pure (first :: rest)

def parameters (m : Module) (p : Module.Prototype) : Session (List Text) :=
  if p.parameters = 0 then pure []
  else do
    let address := m.addressOf p.parameters
    let count ← read (m.u32 address "type_list")
    typeList m count (address + 4)

def methodSignature (m : Module) (index : Int) : Session Text := do
  let p ← read (m.prototype (← read (m.methodId index)).prototype)
  let parameters ← parameters m p
  let result ← typeDescriptor m p.result
  pure (Module.signatureText parameters result)

/-- The class definition with an index, read anew. -/
def classDef (m : Module) (index : Int) : Session ClassDef :=
  if !m.classDefs.has index then
    read (.error (.ofIndex (.noClassDef m.classDefs.count) index))
  else do
    match ← read (m.u32s (m.classDefAddress index) 8 "class_def") with
    | [typeIndex, accessFlags, superclass, _, _, _, dataOffset, _] =>
      let descriptor ← typeDescriptor m typeIndex
      pure { index, typeIndex, descriptor, accessFlags, superclass, dataOffset }
    | _ => read (.error (.broken .unpack))

/-- Makes the class object of a definition. -/
def make (c : ClassDef) : Session Unit :=
  modify fun k => { k with objects := k.objects ++ [{ definition := c }] }

/-- The methods of a class object, kept in it once they were read. -/
def classData (m : Module) (place : Nat) (object : ClassObject) : Session ClassData :=
  match object.data with
  | some data => pure data
  | none => do
    let data ← read (m.classData object.definition)
    modify fun k => { k with objects := k.objects.set place { object with data := some data } }
    pure data

/-- The type descriptors of `count` class definitions from an index on. -/
def descriptorsFrom (m : Module) : (count index : Nat) → Session (List Text)
  | 0, _ => pure []
  | count + 1, index => do
    let typeIndex ← read (m.u32 (m.classDefAddress index) "class_def")
    let first ← typeDescriptor m typeIndex
    let rest ← descriptorsFrom m count (index + 1)
    pure (first :: rest)

/-- The descriptors of all class definitions, kept once all of them were read. -/
def descriptors (m : Module) : Session (List Text) := do
  match (← get).descriptors with
  | some all => pure all
  | none =>
    let all ← descriptorsFrom m m.classDefs.count 0
    modify fun k => { k with descriptors := some all }
    pure all

def locate (m : Module) (descriptor : Text) : Session (Option ClassDef) := do
  match (← descriptors m).idxOf? descriptor with
  | none => pure none
  | some index => pure (some (← classDef m index))

/-- The first method of a list with a name and a signature. -/
def search (m : Module) (name signature : Text) : List Method → Session (Option Method)
  | [] => pure none
  | first :: rest => do
    let itsName ← methodName m first.index
    if itsName = name then
      let itsSignature ← methodSignature m first.index
      if itsSignature = signature then pure (some first) else search m name signature rest
    else search m name signature rest

end Session

/-- A question about a class object gives its place. -/
inductive Question
  | locate (descriptor : Text)
  | classDef (index : Int)
  | string (index : Int)
  | typeDescriptor (index : Int)
  | methodName (index : Int)
  | methodSignature (index : Int)
  | directMethods (place : Nat)
  | virtualMethods (place : Nat)
  | findDirect (place : Nat) (name signature : Text)
  | findVirtual (place : Nat) (name signature : Text)
deriving DecidableEq, Repr

inductive Answer
  | located (c : Option ClassDef)
  | classDef (c : ClassDef)
  | text (t : Text)
  | methods (ms : List Method)
  | found (x : Option Method)
  /-- There is no class object at the place that the question gives. -/
  | noObject
deriving DecidableEq, Repr

/-- The definitions of the class objects after an answer. A class that was located, or read by its
index, is one more. -/
def madeAfter (made : List ClassDef) : Decode Answer → List ClassDef
  | .ok (.located (some c)) => made ++ [c]
  | .ok (.classDef c) => made ++ [c]
  | _ => made

namespace Module

/-- The answer about a class object that has a definition. -/
def ofObject (m : Module) (made : List ClassDef) (place : Nat) (f : ClassData → Decode Answer) :
    Decode Answer :=
  match made[place]? with
  | none => .ok .noObject
  | some c => do f (← m.classData c)

/-- The answer of a module that has just been opened, where the class objects that there are have
these definitions. -/
def answer (m : Module) (made : List ClassDef) : Question → Decode Answer
  | .locate descriptor => do pure (.located (← m.locate descriptor))
  | .classDef index => do pure (.classDef (← m.classDef index))
  | .string index => do pure (.text (← m.string index))
  | .typeDescriptor index => do pure (.text (← m.typeDescriptor index))
  | .methodName index => do pure (.text (← m.methodName index))
  | .methodSignature index => do pure (.text (← m.methodSignature index))
  | .directMethods place => m.ofObject made place fun data => pure (.methods data.direct)
  | .virtualMethods place => m.ofObject made place fun data => pure (.methods data.virtual)
  | .findDirect place name signature => m.ofObject made place fun data => do
    pure (.found (← m.search name signature data.direct))
  | .findVirtual place name signature => m.ofObject made place fun data => do
    pure (.found (← m.search name signature data.virtual))

end Module

namespace Session

/-- The answer about the class object at a place. -/
def ofObject (m : Module) (place : Nat) (f : ClassData → Session Answer) : Session Answer := do
  match (← get).objects[place]? with
  | none => pure .noObject
  | some object => f (← classData m place object)

def answer (m : Module) : Question → Session Answer
  | .locate descriptor => do
    let located ← locate m descriptor
    located.forM make
    pure (.located located)
  | .classDef index => do
    let c ← classDef m index
    make c
    pure (.classDef c)
  | .string index => do pure (.text (← string m index))
  | .typeDescriptor index => do pure (.text (← typeDescriptor m index))
  | .methodName index => do pure (.text (← methodName m index))
  | .methodSignature index => do pure (.text (← methodSignature m index))
  | .directMethods place => ofObject m place fun data => pure (.methods data.direct)
  | .virtualMethods place => ofObject m place fun data => pure (.methods data.virtual)
  | .findDirect place name signature => ofObject m place fun data => do
    pure (.found (← search m name signature data.direct))
  | .findVirtual place name signature => ofObject m place fun data => do
    pure (.found (← search m name signature data.virtual))

/-- One question after what was kept: the outcome, and what is kept after it. -/
def ask (m : Module) (kept : Kept) (q : Question) : Decode Answer × Kept :=
  (answer m q).run.run kept

/-- The outcomes of questions asked one after the other. -/
def answers (m : Module) : Kept → List Question → List (Decode Answer)
  | _, [] => []
  | kept, q :: rest =>
    let (outcome, kept) := ask m kept q
    outcome :: answers m kept rest

/-- The outcomes of questions where each of them is asked in a session that has read nothing, and
whose class objects have the definitions that those made so far have. -/
def freshAnswers (m : Module) : List ClassDef → List Question → List (Decode Answer)
  | _, [] => []
  | made, q :: rest =>
    let outcome := (ask m (.fresh made) q).1
    outcome :: freshAnswers m (madeAfter made outcome) rest

end Session

end OatImage.Dex
