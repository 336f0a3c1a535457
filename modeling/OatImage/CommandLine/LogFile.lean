import OatImage.CommandLine.Request
import OatImage.FilePath

/-!
# The file of the log

The settings may name a file for the log. The directories on the way are made where they are
missing; what stands there already has to be a directory, and the file must not be one.
-/
namespace OatImage.CommandLine

/-- Why the file of the log cannot be opened. -/
inductive LogFileFault
  | misuse (m : Misuse)
  /-- The directory of the file is a file. -/
  | exists (path : String)
  /-- A directory on the way is a file. -/
  | notDirectory (path : String)
  /-- The file is a directory. -/
  | isDirectory (path : String)
  /-- A name on the way, or that of the file, is too long. -/
  | nameTooLong (path : String)
deriving DecidableEq, Repr

namespace LogFileFault

def message : LogFileFault → String
  | .misuse m => m.message
  | .exists path => "[Errno 17] File exists: " ++ Quoted.text path
  | .notDirectory path => "[Errno 20] Not a directory: " ++ Quoted.text path
  | .isDirectory path => "[Errno 21] Is a directory: " ++ Quoted.text path
  | .nameTooLong path => "[Errno 36] File name too long: " ++ Quoted.text path

end LogFileFault

namespace LogFile

def isFile (files : Files) (p : FilePath) : Bool :=
  match files p.text with
  | .file _ _ => true
  | _ => false

def isDirectory (files : Files) (p : FilePath) : Bool :=
  match files p.text with
  | .directory => true
  | _ => false

def holdsZero (p : FilePath) : Bool := p.text.contains '\x00'

/-- The most bytes that a name may have. -/
def nameLimit : Nat := 255

def endsTooLong (p : FilePath) : Bool :=
  (p.names.getLast?.map String.utf8ByteSize).getD 0 > nameLimit

/-- The path at which a name turns out to be too long: the whole path, unless the directory in
front of that name has to be made first. -/
def tooLong? (files : Files) (p : FilePath) : Option FilePath :=
  (p.prefixes.find? endsTooLong).map fun found =>
    if found.parent.names = [] ∨ isDirectory files found.parent then p else found

/-- Makes a directory, if nothing is in the way. -/
def checkDirectory (files : Files) (p : FilePath) : Except LogFileFault Unit :=
  if holdsZero p then .error (.misuse .zeroInPath)
  else if isFile files p then .error (.exists p.text)
  else if p.prefixes.any (isFile files) then .error (.notDirectory p.text)
  else
    match tooLong? files p with
    | some found => .error (.nameTooLong found.text)
    | none => .ok ()

def checkPath (files : Files) (p : FilePath) : Except LogFileFault Unit := do
  checkDirectory files p.parent
  if holdsZero p then throw (.misuse .zeroInPath)
  if isDirectory files p then throw (.isDirectory p.resolved.text)
  if endsTooLong p then throw (.nameTooLong p.resolved.text)

/-- The value that names the file has to be a text, unless it is not set. -/
def check (files : Files) (v : Value) : Except LogFileFault Unit :=
  match v with
  | .text s => if s.isEmpty then .ok () else checkPath files (FilePath.ofString s)
  | v => if v.isSet then .error (.misuse (.notPath v.kindName)) else .ok ()

def mentioned (v : Value) : List String :=
  match v with
  | .text s => (FilePath.ofString s).prefixes.map FilePath.text
  | _ => []

end LogFile

end OatImage.CommandLine
