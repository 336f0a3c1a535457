import OatImage.Toml.Document

/-!
# Settings

A settings file has a table of settings for all tools and one for this tool. A key that is
left out has its usual value, and a key that is not known is passed over. Values are kept as
the file gives them; whether one is of use shows where it is used.
-/
namespace OatImage

/-- Settings for all tools. -/
structure GlobalSettings where
  logLevel : Value := .text "INFO"
  logFile : Value := .text ""
  logJson : Value := .flag false
  debug : Value := .flag false
  version : Value := .text "1.0.0"
deriving Repr

structure ToolSettings where
  baseAddress : Value := .integer 0
  instructionSet : Value := .text "auto"
  maxFileSize : Value := .integer 536870912
  startSymbol : Value := .text "oatdata"
  lastSymbol : Value := .text "oatlastword"
  outputFormat : Value := .text "console"
deriving Repr

structure Settings where
  all : GlobalSettings := {}
  tool : ToolSettings := {}
deriving Repr

/-- Why a settings file cannot be used. -/
inductive SettingsFault
  | missingFile (path : String)
  /-- The bytes are not UTF-8. -/
  | undecodable
  | malformed
  /-- A table of settings is something else. -/
  | noTable (name : String)
deriving DecidableEq, Repr

def SettingsFault.message : SettingsFault → String
  | .missingFile path => "Configuration file not found: " ++ path
  | .undecodable => "Configuration file is not UTF-8"
  | .malformed => "Configuration file is malformed"
  | .noTable name => "Configuration of " ++ name ++ " is not a table"

namespace GlobalSettings

/-- The settings of a table over the usual ones. -/
def ofTable (entries : List (String × Value)) : GlobalSettings :=
  let usual : GlobalSettings := {}
  let get (key : String) (value : Value) : Value := (entries.lookup key).getD value
  { logLevel := get "log_level" usual.logLevel
    logFile := get "log_file" usual.logFile
    logJson := get "log_json" usual.logJson
    debug := get "debug" usual.debug
    version := get "version" usual.version }

/-- All settings by their keys. -/
def toTable (s : GlobalSettings) : List (String × Value) :=
  [("log_level", s.logLevel), ("log_file", s.logFile), ("log_json", s.logJson),
   ("debug", s.debug), ("version", s.version)]

end GlobalSettings

namespace ToolSettings

/-- The settings of a table over the usual ones. -/
def ofTable (entries : List (String × Value)) : ToolSettings :=
  let usual : ToolSettings := {}
  let get (key : String) (value : Value) : Value := (entries.lookup key).getD value
  { baseAddress := get "base_address" usual.baseAddress
    instructionSet := get "instruction_set" usual.instructionSet
    maxFileSize := get "max_file_size" usual.maxFileSize
    startSymbol := get "oatdata_symbol" usual.startSymbol
    lastSymbol := get "oatlastword_symbol" usual.lastSymbol
    outputFormat := get "output_format" usual.outputFormat }

/-- All settings by their keys. -/
def toTable (s : ToolSettings) : List (String × Value) :=
  [("base_address", s.baseAddress), ("instruction_set", s.instructionSet),
   ("max_file_size", s.maxFileSize), ("oatdata_symbol", s.startSymbol),
   ("oatlastword_symbol", s.lastSymbol), ("output_format", s.outputFormat)]

end ToolSettings

namespace Settings

/-- A table of settings in a document, empty if it is left out. -/
def tableOf (entries : List (String × Value)) (name : String) :
    Except SettingsFault (List (String × Value)) :=
  match entries.lookup name with
  | none => .ok []
  | some (.table entries) => .ok entries
  | some _ => .error (.noTable name)

def ofDocument (text : String) : Except SettingsFault Settings := do
  match Toml.parse text with
  | none => .error .malformed
  | some entries => do
    let all ← tableOf entries "global"
    let tool ← tableOf entries "oatwalk"
    pure ⟨GlobalSettings.ofTable all, ToolSettings.ofTable tool⟩

def ofBytes (bytes : List UInt8) : Except SettingsFault Settings :=
  match Utf8.decode? bytes with
  | none => .error .undecodable
  | some text => ofDocument text

/-- The settings in the file at a path; no content stands for no file. -/
def load (path : String) (content : Option (List UInt8)) : Except SettingsFault Settings :=
  match content with
  | none => .error (.missingFile path)
  | some bytes => ofBytes bytes

end Settings

end OatImage
