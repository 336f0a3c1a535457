import OatImage.Directory
import OatImage.Loading

/-!
# Reports

A report sums an image up: its header, its key-value store and the records of its directory
up to the first that does not decode. What cannot be read is noted in the report and does
not stop it; only a valid header is looked behind.
-/
namespace OatImage

structure HeaderSummary where
  version : String := ""
  isValid : Bool := false
  checksum : Int := 0
  instructionSet : InstructionSet := .none
  features : Int := 0
  dexFileCount : Int := 0
  executableOffset : Int := 0
  imagePatchDelta : Int := 0
  keyValueStoreSize : Int := 0
  headerSize : Int := 0
  trampolines : List (String × Int) := []
deriving DecidableEq, Repr

structure DexFileSummary where
  index : Int := 0
  location : String := ""
  checksum : Int := 0
  dexOffset : Int := 0
  classCount : Int := 0
  recordSize : Int := 0
deriving DecidableEq, Repr

structure Report where
  path : String := ""
  wrapping : Wrapping := .raw
  base : Int := 0
  size : Int := 0
  header : HeaderSummary := {}
  store : KeyValueStore := []
  files : List DexFileSummary := []
  /-- Why the directory could not be read to its end. -/
  walkError : Option String := none
deriving DecidableEq, Repr

/-- The summary of an image's header. The instruction set is the one the image is read with. -/
def HeaderSummary.ofImage (image : Image) : HeaderSummary :=
  let h := image.header
  { version := h.versionText, isValid := h.isValid, checksum := h.checksum
    instructionSet := image.instructionSet, features := h.features
    dexFileCount := h.dexFileCount, executableOffset := h.executableOffset
    imagePatchDelta := h.imagePatchDelta, keyValueStoreSize := h.keyValueStoreSize
    headerSize := h.size
    trampolines := h.namedTrampolines.map fun (name, offset) => (name, (offset : Int)) }

def DexFileSummary.ofDexFile (f : DexFile) : DexFileSummary :=
  { index := f.index, location := f.location, checksum := f.record.checksum
    dexOffset := f.record.dexOffset, classCount := f.record.classOffsets.length
    recordSize := f.record.size }

namespace Report

/-- The header is valid, and nothing kept the directory from being read to its end. -/
def isClean (r : Report) : Bool :=
  r.header.isValid && r.walkError.all String.isEmpty

def warn (message : Text) : Logged Unit := Logged.write { level := .warning, message }

/-- What is said of an image whose header is not valid. -/
def invalidHeader (h : Header) : String :=
  "Invalid OAT header (magic=" ++ Quoted.bytes h.magic ++ ", version=" ++
    Quoted.bytes h.version ++ ")"

/-- The store of an image, empty with a warning if it cannot be read. -/
def readStore (image : Image) : Logged KeyValueStore :=
  match image.keyValueStore with
  | .ok store => pure store
  | .error (.decode e) => do
    warn (Text.ofString "Key-value store unreadable: " ++ e.render)
    pure []
  | .error e => Logged.fail e

/-- The summaries of the directory, and why it could not be read to its end. -/
def readDirectory (image : Image) : Logged (List DexFileSummary × Option String) :=
  let walked := image.dexFiles
  let files := walked.files.map DexFileSummary.ofDexFile
  match walked.failure with
  | none => ⟨walked.entries, .ok (files, none)⟩
  | some (.decode e) => ⟨walked.entries, .ok (files, some e.render.toScalarString)⟩
  | some e => ⟨walked.entries, .error e⟩

def build (loaded : Loaded) : Logged Report :=
  let image := loaded.image
  let start : Report :=
    { wrapping := loaded.wrapping, base := image.begin, size := image.size
      header := HeaderSummary.ofImage image }
  if !image.header.isValid then do
    let text := invalidHeader image.header
    warn text
    pure { start with walkError := some text }
  else do
    let store ← readStore image
    let (files, walkError) ← readDirectory image
    pure { start with store, files, walkError }

end Report

end OatImage
