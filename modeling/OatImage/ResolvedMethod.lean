import OatImage.ResolvedClass

/-!
# Methods of an image

A method is found by name and signature, among the direct methods of a class first and then
among the virtual ones. Its position in the class data selects its code slot. A method
without one is found all the same: it runs interpreted. The entry point of a compiled
method is the start of the image plus its code offset.
-/
namespace OatImage

/-- A method found in a class, with its code slot if it was compiled. -/
structure ResolvedMethod where
  owner : ResolvedClass
  method : Dex.Method
  slot : Option CodeSlot
deriving DecidableEq, Repr

namespace ResolvedMethod

def isCompiled (x : ResolvedMethod) : Bool := x.slot.isSome

def entryPoint (image : Image) (x : ResolvedMethod) : Option Int :=
  x.slot.map fun s => image.begin + s.codeOffset

def codePointer (image : Image) (x : ResolvedMethod) : Option Int :=
  (x.entryPoint image).map image.codePointer

def describe (image : Image) (x : ResolvedMethod) : Decode Text := do
  let m ← x.owner.file.module image
  let name ← m.methodName x.method.index
  let signature ← m.methodSignature x.method.index
  let state := if x.isCompiled then "compiled" else "interpreted"
  pure (Text.join ["OatMethod(", name, signature, ", ", x.method.kind, ", ", state, ")"])

end ResolvedMethod

namespace Image

/-- The entry for a code slot that cannot be read. -/
def slotEntry (c : ResolvedClass) (position : Nat) : Entry :=
  { level := .error
    message := Text.join ["Error reading OatMethodOffsets #", Numeral.decimal position, " of ",
      c.descriptor, " in OatDexFile ", c.file.location, "."]
    context := { descriptor := some c.descriptor, index := some (position : Int)
                 location := some c.file.location } }

/-- Reads the code slot of a method. A failure names its position, location and class. -/
def bind (image : Image) (c : ResolvedClass) (x : Dex.Method) : Logged ResolvedMethod :=
  Logged.reporting
    (do pure ⟨c, x, ← c.record.codeSlot image.region x.position⟩)
    (fun _ => slotEntry c x.position)
    fun e => e.withContext (some x.position) (some c.file.location) (some c.descriptor)

def searchLine (what : String) (name signature : Text) : Logged Unit :=
  Logged.debug (Text.join [what, " ", name, " ", signature])

def findIn (image : Image) (kind : String)
    (find : Dex.Module → Dex.ClassDef → Text → Text → Decode (Option Dex.Method))
    (c : ResolvedClass) (name signature : Text) : Logged (Option ResolvedMethod) := do
  searchLine ("Looking up " ++ kind ++ " oat method") name signature
  let found ← (do find (← c.file.module image) c.definition name signature : Decode _)
  match found with
  | none => do
    searchLine ("Could not find " ++ kind ++ " oat method") name signature
    pure none
  | some x => some <$> image.bind c x

/-- The direct method of a class with a name and a signature. -/
def findDirectMethod (image : Image) (c : ResolvedClass) (name signature : Text) :
    Logged (Option ResolvedMethod) :=
  image.findIn "direct" Dex.Module.findDirect c name signature

/-- The virtual method of a class with a name and a signature. -/
def findVirtualMethod (image : Image) (c : ResolvedClass) (name signature : Text) :
    Logged (Option ResolvedMethod) :=
  image.findIn "virtual" Dex.Module.findVirtual c name signature

/-- The method of a class with a name and a signature: a direct one, else a virtual one. -/
def findMethodIn (image : Image) (c : ResolvedClass) (name signature : Text) :
    Logged (Option ResolvedMethod) := do
  match ← image.findDirectMethod c name signature with
  | some x => pure (some x)
  | none =>
    match ← image.findVirtualMethod c name signature with
    | some x => pure (some x)
    | none => do
      searchLine "Could not find method" name signature
      pure none

/-- The method with a name and a signature of the class with a descriptor. -/
def findMethod (image : Image) (descriptor name signature : Text) :
    Logged (Option ResolvedMethod) := do
  match ← image.findClass descriptor with
  | none => pure none
  | some c => image.findMethodIn c name signature

end Image

end OatImage
