import OatImage.Elf.Span
import OatImage.FilePath
import OatImage.Image
import OatImage.Journal

/-!
# Loading an image

A file holds an image as it is or inside an ELF container. The user may fix the base address
and the instruction set; else the container's address counts, and the container's machine
where the header names no instruction set. Failures to load are all of one kind.
-/
namespace OatImage

/-- What a user decides about loading. Whether a value is of use shows where it is used. -/
structure LoadSettings where
  base : Value := .integer 0
  asked : Option InstructionSet := none
  sizeLimit : Value := .integer 536870912
  startSymbol : Value := .text "oatdata"
  lastSymbol : Value := .text "oatlastword"
deriving DecidableEq, Repr

/-- Where an image was found: in a file of its own, or in an ELF container. -/
inductive Wrapping
  | raw
  | elf
deriving DecidableEq, Repr

def Wrapping.name : Wrapping → String
  | .raw => "raw"
  | .elf => "elf"

/-- The bytes of an image before it is set up. -/
structure Unwrapped where
  wrapping : Wrapping
  bytes : ByteArray
  base : Value
  /-- The instruction set of the container's machine. -/
  machine : InstructionSet

structure Loaded where
  image : Image
  wrapping : Wrapping
  /-- The base address as it was given or found. -/
  base : Value

namespace LoadSettings

/-- The base address of an image in a container: the user's, unless it is not set. -/
def baseOver (s : LoadSettings) (found : Nat) : Value :=
  if s.base.isSet then s.base else .integer found

def containerLine (s : LoadSettings) (found size : Nat) (machine : InstructionSet) : Text :=
  Text.ofString ("ELF container: " ++ s.startSymbol.plain ++ "=" ++ Numeral.hex found ++
    ", image " ++ Numeral.decimal size ++ " bytes, machine " ++ machine.name)

def unwrap (s : LoadSettings) (data : ByteArray) : Logged Unwrapped :=
  if (data.extract 0 4).toList = Elf.magicBytes then
    match Elf.Container.read { data } with
    | (false, _) => Logged.fail (.load .malformedContainer)
    | (true, container) => do
      let (bytes, found) ← container.load s.startSymbol s.lastSymbol s.sizeLimit
      let machine := container.instructionSet
      Logged.debug (s.containerLine found bytes.size machine)
      pure ⟨.elf, bytes, s.baseOver found, machine⟩
  else pure ⟨.raw, data, s.base, .none⟩

/-- The address that a base stands for, for an image of a size. -/
def address (size : Nat) (base : Value) : Decode Int :=
  match base, base.integer? with
  | _, some n => .ok n
  | .real x, none =>
    .error (.misuse (if (x.plus size).atMost x then .notShownInHex else .notPosition))
  | .text _, none => .error (.misuse (.notJoinable base.kindName))
  | .list _, none => .error (.misuse (.notJoinable base.kindName))
  | _, none => .error (.misuse (.notAddable base.kindName))

/-- A failure to set an image up, as a failure to load it. -/
def asLoadFault : Fault → Fault
  | .setup e => .load (.unusableRange e)
  | .decode e => .load (.undecodable e)
  | other => other

/-- Sets up the image. Where neither the user nor the header names an instruction set, that
of the container's machine is taken. -/
def setUp (s : LoadSettings) (found : Unwrapped) : Decode Loaded := do
  let base ← address found.bytes.size found.base
  match Image.ofBuffer (some found.bytes) base s.asked with
  | .error e => .error (asLoadFault e)
  | .ok image =>
    if s.asked = none ∧ image.instructionSet = .none then
      .ok ⟨{ image with instructionSet := found.machine }, found.wrapping, found.base⟩
    else .ok ⟨image, found.wrapping, found.base⟩

def load (s : LoadSettings) (data : ByteArray) : Logged Loaded := do
  s.setUp (← s.unwrap data)

/-- A file has to stay within the limit. -/
def checkSize (s : LoadSettings) (size : Nat) : Decode Unit :=
  match s.sizeLimit.quantity? with
  | some limit =>
    if limit.isBelow size then .error (.load (.oversizedFile size limit)) else .ok ()
  | none => .error (.misuse (.notComparable s.sizeLimit.kindName))

/-- The image in the file at a path; no content stands for no file. -/
def loadFile (s : LoadSettings) (path : String) (content : Option ByteArray) : Logged Loaded :=
  match content with
  | none => Logged.fail (.load (.missingFile path))
  | some data => do
    s.checkSize data.size
    Logged.write
      { level := .info
        message := Text.ofString ("Loading " ++ (FilePath.ofString path).text ++ " (" ++
          Numeral.grouped data.size ++ " bytes)") }
    s.load data

end LoadSettings

end OatImage
