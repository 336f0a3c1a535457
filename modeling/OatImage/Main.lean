import OatImage.CommandLine.Run
import OatImage.Terminal.Screen

/-!
# The program

Reads the files that a command line mentions, runs it and prints what it says. Everything
that is decided is decided by the run; here are only the effects.
-/
namespace OatImage.Main

open CommandLine

def findAt (path : String) : IO Found := do
  try
    let content ← IO.FS.readBinFile path
    let name ← IO.FS.realPath path
    pure (.file (toString name) content)
  catch e =>
    match e with
    | .noFileOrDirectory .. => pure .absent
    | _ => pure .directory

/-- The words that may be paths: all of them, and what stands behind an equals sign. -/
def mentioned (words : List String) : List String :=
  words ++ words.filterMap fun word => (Split.splitValue word.toList).2

def filesAt (paths : List String) : IO Files := do
  let found ← paths.mapM fun path => do pure (path, ← findAt path)
  pure fun path => (found.lookup path).getD .absent

/-- What stands at the paths that a command line and its settings mention. -/
def filesOf (words : List String) : IO Files := do
  let paths := mentioned words
  let files ← filesAt paths
  filesAt (paths ++ mentionedPaths .splitting files words)

/-- How many cells a line of the terminal has. -/
def terminalWidth : IO Nat := do
  let columns ← IO.getEnv "COLUMNS"
  pure ((columns.bind String.toNat?).getD 80)

/-- What is around a run. Nothing that is printed tells of the time, so no clock is read. -/
def surroundings (words : List String) : IO (Surroundings ScreenFault) := do
  let files ← filesOf words
  pure { reader := .splitting, terminal := Screen.terminal (← terminalWidth), files
         elapsed := .finite false 0 0 }

def report (o : Outcome ScreenFault) : IO UInt32 := do
  for line in o.lines do
    IO.println line
  for line in o.notes do
    IO.eprintln line
  match o.usage with
  | some message => IO.eprintln ("Error: " ++ message)
  | none => pure ()
  match o.ending with
  | .exit code => pure (UInt32.ofNat code)
  | .fault f => do
    IO.eprintln (f.message fun e => e.message).toScalarString
    pure 1

end OatImage.Main

def main (words : List String) : IO UInt32 := do
  let surroundings ← OatImage.Main.surroundings words
  OatImage.Main.report (OatImage.CommandLine.run surroundings words)
