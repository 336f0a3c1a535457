import OatImage.Dex.ClassData

/-!
# Lookups in a module

A class is found by its descriptor among all class definitions of the module, the first
one if several have it. A method is found in one list of a class by name and signature;
the signature of a method is read only if its name is the wanted one.
-/
namespace OatImage.Dex

namespace Module

/-- The type descriptors of `count` class definitions from an index on. -/
def descriptorsFrom (m : Module) : (count index : Nat) → Decode (List Text)
  | 0, _ => .ok []
  | count + 1, index => do
    let typeIndex ← m.u32 (m.classDefAddress index) "class_def"
    let first ← m.typeDescriptor typeIndex
    let rest ← m.descriptorsFrom count (index + 1)
    pure (first :: rest)

/-- The descriptors of all class definitions, in order. -/
def descriptors (m : Module) : Decode (List Text) := m.descriptorsFrom m.classDefs.count 0

/-- The first class definition with a descriptor. Every descriptor of the module has to
be readable, since any of them might be the wanted one. -/
def locate (m : Module) (descriptor : Text) : Decode (Option ClassDef) := do
  match (← m.descriptors).idxOf? descriptor with
  | none => pure none
  | some index => pure (some (← m.classDef index))

/-- The first method of a list with a name and a signature. -/
def search (m : Module) (name signature : Text) : List Method → Decode (Option Method)
  | [] => .ok none
  | first :: rest => do
    let itsName ← m.methodName first.index
    if itsName = name then
      let itsSignature ← m.methodSignature first.index
      if itsSignature = signature then pure (some first) else m.search name signature rest
    else m.search name signature rest

/-- The direct method of a class with a name and a signature. -/
def findDirect (m : Module) (c : ClassDef) (name signature : Text) : Decode (Option Method) := do
  m.search name signature (← m.classData c).direct

/-- The virtual method of a class with a name and a signature. -/
def findVirtual (m : Module) (c : ClassDef) (name signature : Text) :
    Decode (Option Method) := do
  m.search name signature (← m.classData c).virtual

end Module

def ClassDef.describe (c : ClassDef) : String :=
  "DexClass(" ++ Quoted.text c.descriptor ++ ", class_def_index=" ++ Numeral.decimal c.index ++ ")"

def Module.describeMethod (m : Module) (x : Method) : Decode Text := do
  let name ← m.methodName x.index
  let signature ← m.methodSignature x.index
  pure (Text.join ["DexMethod(", name, signature, ", ", x.kind, ", class_method_index=",
    Numeral.decimal x.position, ")"])

end OatImage.Dex
