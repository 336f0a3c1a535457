import OatImage.ClassRecord
import OatImage.Dex.Lookup
import OatImage.Directory

/-!
# Classes of an image

The module of a dex file says which class definition a descriptor names. The index of that
definition, not the descriptor, selects the class offset in the record of the dex file, and
the class record lies at that offset of the image.
-/
namespace OatImage

structure ResolvedClass where
  file : DexFile
  definition : Dex.ClassDef
  record : ClassRecord
deriving DecidableEq, Repr

namespace ResolvedClass

def index (c : ResolvedClass) : Int := c.definition.index

def descriptor (c : ResolvedClass) : Text := c.definition.descriptor

def describe (c : ResolvedClass) : String :=
  "OatClass(" ++ Quoted.text c.descriptor ++ ", class_def_index=" ++ Numeral.decimal c.index ++
    ", type=" ++ c.record.coverage.name ++ ")"

end ResolvedClass

namespace Image

/-- The class record that belongs to a class definition of a dex file. -/
def classRecord (image : Image) (file : DexFile) (index : Int) : Decode ClassRecord :=
  match file.record.classOffsets[index.toNat]? with
  | none => .error (.decode { cause := .noClassOffset file.record.classOffsets.length })
  | some offset => ClassRecord.decode image.region (image.pointer offset)

/-- The entry for a class record that does not decode. The descriptor is named if the
class was asked for by it. -/
def classEntry (file : DexFile) (index : Int) (descriptor : Option Text) : Entry :=
  let rest := Text.ofString ("at index " ++ Numeral.decimal index ++ " in OatDexFile " ++
    file.location ++ ".")
  let subject : Text :=
    match descriptor with
    | some d => d ++ Text.ofString " "
    | none => []
  { level := .error
    message := Text.ofString "Error decoding OatClassData " ++ subject ++ rest
    context := { descriptor, index := some index, location := some file.location } }

/-- Reads the class record of a definition. A failure names the index and the location, and
the descriptor if the class was asked for by it. -/
def resolve (image : Image) (file : DexFile) (definition : Dex.ClassDef)
    (asked : Option Text) : Logged ResolvedClass :=
  Logged.reporting
    (do pure ⟨file, definition, ← image.classRecord file definition.index⟩)
    (fun _ => classEntry file definition.index asked)
    fun e => e.withContext (some definition.index) (some file.location) asked

def findClassIn (image : Image) (file : DexFile) (descriptor : Text) :
    Logged (Option ResolvedClass) := do
  let found ← Decode.withContext none (some file.location) (some descriptor) do
    (← file.module image).locate descriptor
  match found with
  | none => pure none
  | some definition => some <$> image.resolve file definition (some descriptor)

def classAt (image : Image) (file : DexFile) (index : Int) : Logged ResolvedClass := do
  let definition ← Decode.withContext (some index) (some file.location) none do
    (← file.module image).classDef index
  image.resolve file definition none

/-- The first class with a descriptor in at most `left` dex files from an index on. Each
dex file is reached by a walk of its own. -/
def findClassFrom (image : Image) (descriptor : Text) :
    (left index : Nat) → Logged (Option ResolvedClass)
  | 0, _ => pure none
  | left + 1, index => do
    let file ← image.dexFile index
    match ← image.findClassIn file descriptor with
    | some c => pure (some c)
    | none => image.findClassFrom descriptor left (index + 1)

/-- The first class with a descriptor, dex file by dex file. -/
def findClass (image : Image) (descriptor : Text) : Logged (Option ResolvedClass) :=
  image.findClassFrom descriptor image.dexFileCount 0

end Image

end OatImage
