import OatImage.Terminal.Shown

/-!
# The console

What is shown is written as markup here: a message behind a sign of its severity, a heading as a
rule with its title and a blank line after it, the greeting as two lines in a box. A terminal
prints it. How a terminal reads markup and lays text out is its own business, and so is what it
cannot print.
-/
namespace OatImage

/-- What a terminal is asked to print. Texts are markup. -/
inductive Printed
  /-- A box with a text in its middle. -/
  | panel (body : String)
  | rule (title : String)
  /-- A text that stands only while work goes on. -/
  | status (text : String)
  | values (v : ShownValues)
  | table (t : ShownTable)
deriving DecidableEq, Repr

/-- A terminal; `ε` is why it prints nothing. -/
structure Terminal (ε : Type) where
  /-- The markup that is shown as a text. -/
  escape : String → String
  /-- The lines that are printed. -/
  print : List Printed → Except ε (List String)

namespace Console

/-- A text in a style. -/
def styled (style text : String) : String := "[" ++ style ++ "]" ++ text ++ "[/" ++ style ++ "]"

/-- The style of the sign before a message. -/
def signStyle : Severity → String
  | .success => "artscope.success"
  | .warning => "artscope.warning"
  | .error => "artscope.error"
  | .info => "artscope.info"

/-- The sign and the word before a message. -/
def sign : Severity → String
  | .success => "[✔] SUCCESS:"
  | .warning => "[⚠] WARNING:"
  | .error => "[✘] ERROR:"
  | .info => "[ℹ] INFO:"

def messageText (severity : Severity) (text : String) : String :=
  styled (signStyle severity) (sign severity) ++ " " ++ text

def bannerText (tool version : String) : String :=
  styled "artscope.banner" ("ArtScope " ++ tool) ++ "\n" ++
    styled "artscope.dim" ("Android Runtime image inspection  |  v" ++ version)

def blank : Printed := .values { items := [] }

def printed : Shown → List Printed
  | .banner tool version => [.panel (bannerText tool version)]
  | .section title => [.rule ("  " ++ title ++ "  "), blank]
  | .blank => [blank]
  | .message severity text => [.values { items := [.text (messageText severity text)] }]
  | .status text => [.status (styled "artscope.info" text)]
  | .values v => [.values v]
  | .table t => [.table t]

end Console

/-- The lines that are shown. -/
def Terminal.lines {ε : Type} (t : Terminal ε) (parts : List Shown) :
    Except ε (List String) :=
  t.print (parts.flatMap Console.printed)

end OatImage
