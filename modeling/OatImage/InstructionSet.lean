import OatImage.Text.Blank
import OatImage.Text.Quoted

/-!
# Instruction sets

An image names its instruction set by a code in its header; a user names one by a word.
On 32-bit ARM an entry point with bit 0 set is entered in Thumb mode, and the machine
code starts at the address with that bit cleared. Other sets leave addresses untagged.
-/
namespace OatImage

inductive InstructionSet
  | none
  | arm
  | arm64
  | thumb2
  | x86
  | x86_64
  | mips
  | mips64
deriving DecidableEq, Repr, Inhabited

namespace InstructionSet

/-- Every instruction set, in the order of the header's codes. -/
def all : List InstructionSet := [.none, .arm, .arm64, .thumb2, .x86, .x86_64, .mips, .mips64]

def name : InstructionSet → String
  | .none => "none"
  | .arm => "arm"
  | .arm64 => "arm64"
  | .thumb2 => "thumb2"
  | .x86 => "x86"
  | .x86_64 => "x86_64"
  | .mips => "mips"
  | .mips64 => "mips64"

/-- The instruction set of a header code; `none` for a code without one. -/
def ofCode (code : Int) : InstructionSet :=
  if code < 0 then .none else (all[code.toNat]?).getD .none

def ofName? (name : String) : Option InstructionSet := all.find? fun isa => isa.name == name

/-- The key of a user's word: trimmed, the letters A to Z in lower case, dashes as
underscores. No other letter has a lower-case form that a name holds. -/
def key (word : Text) : Text :=
  word.trim.map fun c =>
    if 65 ≤ c.val && c.val ≤ 90 then CodePoint.ofNat (c.val + 32)
    else if c.val == 45 then CodePoint.ofNat 95
    else c

/-- A word that names no instruction set. -/
structure UnknownName where
  word : Text
deriving DecidableEq, Repr

def UnknownName.message (u : UnknownName) : String :=
  "Unknown instruction set " ++ Quoted.text u.word ++ "; expected one of: auto, " ++
    ", ".intercalate (all.map name)

/-- The instruction set a user's word asks for. An empty word and "auto" ask for none in
particular, and "thumb" is short for "thumb2". -/
def parse (word : Text) : Except UnknownName (Option InstructionSet) :=
  let key := key word
  if key = [] || key = Text.ofString "auto" then .ok Option.none
  else if key = Text.ofString "thumb" then .ok (some .thumb2)
  else
    match all.find? fun isa => Text.ofString isa.name = key with
    | some isa => .ok (some isa)
    | Option.none => .error ⟨word⟩

def isTagged : InstructionSet → Bool
  | .arm => true
  | .thumb2 => true
  | _ => false

/-- The address of the machine code behind an entry point. -/
def codePointer (isa : InstructionSet) (address : Int) : Int :=
  if isa.isTagged then address - address % 2 else address

end InstructionSet

end OatImage
