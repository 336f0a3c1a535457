import OatImage.Journal
import OatImage.Text.LetterCase
import OatImage.Text.Quoted

/-!
# Thresholds

A logger keeps the records whose level reaches its threshold. A threshold is a weight, chosen
by the name of a level in letters of either case. Two names are neither names of levels nor
unknown: they stand for a text and for a table of styles, which are no weights.
-/
namespace OatImage.Log

/-- The weight of a level; a threshold is a weight. -/
def weight : Level → Nat
  | .debug => 10
  | .info => 20
  | .warning => 30
  | .error => 40

/-- Why a name chooses no threshold. -/
inductive ThresholdFault
  | unknown (name : String)
  /-- The name stands for the styles of records. -/
  | styles
deriving DecidableEq, Repr

/-- The usual form of a record, once for each way to write its places. -/
def recordStyles : String :=
  "\x7b'%': (<class 'logging.PercentStyle'>, '%(levelname)s:%(name)s:%(message)s'), " ++
    "'\x7b': (<class 'logging.StrFormatStyle'>, " ++
    "'\x7blevelname\x7d:\x7bname\x7d:\x7bmessage\x7d'), " ++
    "'$': (<class 'logging.StringTemplateStyle'>, " ++
    "'$\x7blevelname\x7d:$\x7bname\x7d:$\x7bmessage\x7d')\x7d"

def ThresholdFault.message : ThresholdFault → String
  | .unknown name => "Unknown level: " ++ Quoted.text name
  | .styles => "Level not an integer or a valid string: " ++ recordStyles

/-- The weights of the names of levels. One that is not set has that of warnings. -/
def weights : List (String × Nat) :=
  [("CRITICAL", 50), ("FATAL", 50), ("ERROR", 40), ("WARN", 30), ("WARNING", 30), ("INFO", 20),
   ("DEBUG", 10), ("NOTSET", 30)]

/-- The usual threshold. -/
def usualThreshold : Nat := 20

/-- The threshold that a name in capitals chooses; an unknown name stands for `INFO`. -/
def thresholdOfKey (key : String) : Except ThresholdFault Nat :=
  if key = "BASIC_FORMAT" then .error (.unknown "%(levelname)s:%(name)s:%(message)s")
  else if key = "_STYLES" then .error .styles
  else .ok ((weights.lookup key).getD usualThreshold)

def threshold (name : String) : Except ThresholdFault Nat := thresholdOfKey (LetterCase.upper name)

/-- The threshold that a name chooses, if the name has to be known. -/
def knownThreshold (name : String) : Except ThresholdFault Nat := do
  let key := LetterCase.upper name
  let threshold ← thresholdOfKey key
  if (weights.lookup key).isSome then pure threshold else throw (.unknown key)

end OatImage.Log
