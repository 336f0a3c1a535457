import OatImage.Dex.Module

/-!
# Class definitions and class data

A class definition names a type and points at the class data, a run of ULEB128 numbers:
four counts, the fields, the direct methods and the virtual methods. Method indices are
stored as differences, which start again from zero for the virtual methods. The position
of a method counts direct methods first, then virtual ones; it is the index under which
the class record of the image knows the method.
-/
namespace OatImage.Dex

structure ClassDef where
  index : Int
  typeIndex : Nat
  descriptor : Text
  accessFlags : Nat
  superclass : Nat
  dataOffset : Nat
deriving DecidableEq, Repr

structure Method where
  index : Nat
  accessFlags : Nat
  codeOffset : Nat
  position : Nat
  isDirect : Bool
deriving DecidableEq, Repr

/-- The modifiers of methods with their flags, in the order in which they are listed. -/
def modifierFlags : List (Nat × String) := [
  (0x1, "public"), (0x2, "private"), (0x4, "protected"), (0x8, "static"), (0x10, "final"),
  (0x20, "synchronized"), (0x100, "native"), (0x400, "abstract"), (0x10000, "constructor")]

def Method.modifiers (m : Method) : List String :=
  (modifierFlags.filter fun f => m.accessFlags &&& f.1 ≠ 0).map Prod.snd

def Method.kind (m : Method) : String := if m.isDirect then "direct" else "virtual"

/-- The methods of a class, in the order of its class data. -/
structure ClassData where
  direct : List Method
  virtual : List Method
deriving DecidableEq, Repr

def ClassData.methods (d : ClassData) : List Method := d.direct ++ d.virtual

namespace Module

def classDefAddress (m : Module) (index : Int) : Int :=
  m.addressOf (m.classDefs.offset + index * 32)

def classDef (m : Module) (index : Int) : Decode ClassDef :=
  if !m.classDefs.has index then .error (.ofIndex (.noClassDef m.classDefs.count) index)
  else do
    match ← m.u32s (m.classDefAddress index) 8 "class_def" with
    | [typeIndex, accessFlags, superclass, _, _, _, dataOffset, _] =>
      let descriptor ← m.typeDescriptor typeIndex
      pure { index, typeIndex, descriptor, accessFlags, superclass, dataOffset }
    | _ => .error (.broken .unpack)

/-- Passes over a run of numbers: the address after it. -/
def skipNumbers (m : Module) : (count : Nat) → (cursor : Int) → Decode Int
  | 0, cursor => .ok cursor
  | count + 1, cursor => do
    let (_, cursor) ← m.uleb128 cursor
    m.skipNumbers count cursor

/-- Reads a list of methods. `position` is the position of its first method and `index`
the method index that the first difference is added to. -/
def methodList (m : Module) (isDirect : Bool) :
    (count position index : Nat) → (cursor : Int) → Decode (List Method × Int)
  | 0, _, _, cursor => .ok ([], cursor)
  | count + 1, position, index, cursor => do
    let (difference, cursor) ← m.uleb128 cursor
    let (accessFlags, cursor) ← m.uleb128 cursor
    let (codeOffset, cursor) ← m.uleb128 cursor
    let first : Method :=
      { index := index + difference, accessFlags, codeOffset, position, isDirect }
    let (rest, cursor) ← m.methodList isDirect count (position + 1) (index + difference) cursor
    pure (first :: rest, cursor)

def readClassData (m : Module) (cursor : Int) : Decode ClassData := do
  let (staticFields, cursor) ← m.uleb128 cursor
  let (instanceFields, cursor) ← m.uleb128 cursor
  let (directCount, cursor) ← m.uleb128 cursor
  let (virtualCount, cursor) ← m.uleb128 cursor
  let cursor ← m.skipNumbers (2 * (staticFields + instanceFields)) cursor
  let (direct, cursor) ← m.methodList true directCount 0 0 cursor
  let (virtual, _) ← m.methodList false virtualCount directCount 0 cursor
  pure ⟨direct, virtual⟩

/-- The methods of a class. A data offset of zero stands for none. -/
def classData (m : Module) (c : ClassDef) : Decode ClassData :=
  if c.dataOffset = 0 then .ok ⟨[], []⟩ else m.readClassData (m.addressOf c.dataOffset)

end Module

end OatImage.Dex
