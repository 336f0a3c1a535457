import OatImage.CommandLine.Help
import OatImage.CommandLine.LogFile
import OatImage.CommandLine.Request
import OatImage.Console
import OatImage.Display
import OatImage.Export
import OatImage.Inspection
import OatImage.JsonText
import OatImage.Log.Threshold
import OatImage.Settings

/-!
# Running a command line

A run reads the settings, takes the choices of the command line over them, greets the user
and does the task. It ends with an exit code: 0 for an image that is in order and for a method
that was found, 1 for a failure, 2 for a method that was not found and for a command line that
is refused. With JSON output nothing else is printed.

What reads the words and the terminal are not part of the program; neither are the files and the
clock.
-/
namespace OatImage.CommandLine

/-- What a run finds around it; `ε` is why the terminal prints nothing. -/
structure Surroundings (ε : Type) where
  reader : Reader
  terminal : Terminal ε
  files : Files
  /-- The seconds that an inspection takes. -/
  elapsed : Double

/-- A failure before a session has started. -/
inductive StartFault
  | settings (fault : SettingsFault)
  | misuse (m : Misuse)
  | threshold (fault : Log.ThresholdFault)
  | logFile (fault : LogFileFault)
deriving DecidableEq, Repr

def StartFault.message : StartFault → Text
  | .settings fault => fault.message
  | .misuse m => m.message
  | .threshold fault => fault.message
  | .logFile fault => fault.message

/-- Why a run ends without an exit code of its own. -/
inductive RunFault (ε : Type)
  | start (fault : StartFault)
  | misuse (m : Misuse)
  | image (fault : Fault)
  | screen (fault : ε)
deriving DecidableEq, Repr

def RunFault.message {ε : Type} (screen : ε → Text) : RunFault ε → Text
  | .start fault => fault.message
  | .misuse m => m.message
  | .image fault => fault.text
  | .screen fault => screen fault

inductive Ending (ε : Type)
  | exit (code : Nat)
  | fault (f : RunFault ε)
deriving Repr

structure Outcome (ε : Type) where
  lines : List String := []
  /-- What is said of a command line that is refused. -/
  usage : Option String := none
  /-- What is printed beside the results. -/
  notes : List String := []
  ending : Ending ε
deriving Repr

/-- What is fixed before a command starts. -/
structure Session where
  tool : ToolSettings
  asked : Option InstructionSet
  json : Bool

/-- Why a session does not start: something to be told to the user, unless the run is to
print JSON alone, or a failure that ends the run. -/
inductive Stop
  | told (quiet : Bool) (message : String)
  | fault (f : StartFault)
deriving Repr

namespace Session

def levelName (all : GlobalSettings) (verbose : Bool) : Except StartFault String :=
  if verbose || all.debug.isSet then .ok "DEBUG"
  else
    match all.logLevel with
    | .text name => .ok name
    | _ => .error (.misuse .notWord)

/-- The settings of the log must be of use, though nothing of the log is printed. -/
def checkLog (files : Files) (all : GlobalSettings) (verbose : Bool) : Except StartFault Unit := do
  let _ ← (Log.knownThreshold (← levelName all verbose)).mapError .threshold
  (LogFile.check files all.logFile).mapError .logFile

/-- The settings of the tool with the choices of the command line over them. -/
def withChoices (tool : ToolSettings) (c : Choices) : ToolSettings :=
  { tool with
    baseAddress := (c.base.map Value.integer).getD tool.baseAddress
    instructionSet := (c.isa.map Value.text).getD tool.instructionSet }

/-- Results are printed as JSON if the user or the settings say so. -/
def wantsJson (tool : ToolSettings) (c : Choices) : Bool :=
  c.json || tool.outputFormat = .text "json"

def settings (c : Choices) : Except StartFault Settings :=
  match c.config with
  | none => .ok {}
  | some file => (Settings.load file.path (some file.content.toList)).mapError .settings

/-- The instruction set that is asked for. -/
def askedFor (tool : ToolSettings) (json : Bool) : Except Stop (Option InstructionSet) :=
  match tool.instructionSet with
  | .text word => (InstructionSet.parse word).mapError fun e => .told json e.message
  | _ => .error (.fault (.misuse .notWord))

def start (files : Files) (c : Choices) : Except Stop Session := do
  let s ← (settings c).mapError .fault
  (checkLog files s.all c.verbose).mapError .fault
  let tool := withChoices s.tool c
  let json := wantsJson s.tool c
  let asked ← askedFor tool json
  pure ⟨tool, asked, json⟩

def loadSettings (s : Session) : LoadSettings :=
  { base := s.tool.baseAddress, asked := s.asked, sizeLimit := s.tool.maxFileSize
    startSymbol := s.tool.startSymbol, lastSymbol := s.tool.lastSymbol }

end Session

section
variable {ε : Type}

namespace Outcome

def ofFault (f : RunFault ε) : Outcome ε := { ending := .fault f }

/-- Prints what is shown, unless the run is to print JSON alone. -/
def ofShown (t : Terminal ε) (quiet : Bool) (parts : List Shown) (code : Nat) : Outcome ε :=
  match t.lines parts with
  | .error e => ofFault (.screen e)
  | .ok lines => { lines := if quiet then [] else lines, ending := .exit code }

/-- One outcome and then another. A run that breaks off keeps no lines. -/
def andThen (first second : Outcome ε) : Outcome ε :=
  match first.ending, second.ending with
  | .fault _, _ => first
  | _, .fault _ => second
  | .exit _, .exit _ => { second with lines := first.lines ++ second.lines }

/-- The outcome of a command line that makes no request. -/
def ofHalt (help : List String) : Halt → Outcome ε
  | .usage fault => { usage := some fault.message, ending := .exit 2 }
  | .misuse m => ofFault (.misuse m)
  | .noWords => { notes := help, ending := .exit 2 }
  | .help => { lines := help, ending := .exit 0 }
  | .version => { lines := [Help.versionLine], ending := .exit 0 }

end Outcome

variable (w : Surroundings ε)

namespace Session

def ofLoaded {α : Type} (s : Session) (x : Logged α) (finish : α → Outcome ε) : Outcome ε :=
  match x.outcome with
  | .ok a => finish a
  | .error (.load e) =>
    Outcome.ofShown w.terminal s.json [.message .error e.message.toScalarString] 1
  | .error e => Outcome.ofFault (.image e)

def inspect (s : Session) (file : NamedFile) (finish : Report → Outcome ε) : Outcome ε :=
  s.ofLoaded w (s.loadSettings.inspectFile file.path (some file.content) w.elapsed) fun r =>
    finish { r with path := file.name }

def lookUp (s : Session) (file : NamedFile) (q : Query) (finish : Lookup → Outcome ε) :
    Outcome ε :=
  s.ofLoaded w (s.loadSettings.lookUpFile file.path (some file.content) q.descriptor q.name
    q.signature (q.location.map Text.ofString)) finish

def print (s : Session) (json : List String) (shown : List Shown) (code : Nat) : Outcome ε :=
  if s.json then { lines := json, ending := .exit code }
  else Outcome.ofShown w.terminal false shown code

end Session

def reportCode (r : Report) : Nat := if r.isClean then 0 else 1

def lookupCode (l : Lookup) : Nat :=
  match l.status with
  | .found => 0
  | .notFound => 2
  | .failure => 1

namespace Task

def perform (s : Session) (task : Task) : Outcome ε :=
  let escape := w.terminal.escape
  match task with
  | .info file =>
    s.inspect w file fun r =>
      s.print w (JsonText.lines .unicode 0 r.toValue) (Display.report escape r) (reportCode r)
  | .dex file =>
    s.inspect w file fun r =>
      s.print w (JsonText.lines .ascii 0 r.filesValue)
        (Display.files escape r.files (some r.header.dexFileCount) ++ Display.walkError escape r)
        (reportCode r)
  | .method file query =>
    s.lookUp w file query fun l =>
      s.print w (JsonText.lines .unicode 0 l.toValue) (Display.lookup escape l) (lookupCode l)

end Task

def Request.perform (r : Request) : Outcome ε :=
  match Session.start w.files r.choices with
  | .error (.fault f) => Outcome.ofFault (.start f)
  | .error (.told quiet message) => Outcome.ofShown w.terminal quiet [.message .error message] 1
  | .ok session =>
    (Outcome.ofShown w.terminal session.json [.banner "Oatwalk" Help.version] 0).andThen
      (match w.reader.task w.files r.command r.words with
      | .error halt => Outcome.ofHalt (Help.command r.command) halt
      | .ok task => task.perform w session)

def run (words : List String) : Outcome ε :=
  match w.reader.request w.files words with
  | .error halt => Outcome.ofHalt Help.tool halt
  | .ok request => request.perform w

end

/-- The paths that the settings mention which a command line chooses. -/
def mentionedPaths (r : Reader) (files : Files) (words : List String) : List String :=
  match (r.request files words).toOption.bind fun request =>
      (Session.settings request.choices).toOption with
  | none => []
  | some s => LogFile.mentioned s.all.logFile

end OatImage.CommandLine
