import OatImage.Lookup
import OatImage.Report
import OatImage.Terminal.Shown
import OatImage.Text.LetterCase

/-!
# Showing reports and lookups

A report is shown as its overview, its header, its store, its directory and the failure that
cut the directory short. A lookup is shown as one verdict, with a table before it if the
method was found. Names and texts from an image are escaped, so that a terminal shows them as
they are.
-/
namespace OatImage

namespace Display

/-! How a text is written so that it is no markup is a matter of the terminal. -/

variable (escape : String → String)

/-- An address, or a dash for none. -/
def address : Option Int → String
  | none => "-"
  | some n => Numeral.hex n

/-- A number, or the word for none. -/
def number : Option Int → String
  | none => "None"
  | some n => Numeral.decimal n

/-- A text, or a dash for none and for the empty text. -/
def word (text : Option String) : String :=
  match text with
  | none => "-"
  | some "" => "-"
  | some text => text

def pairs (title first second : String) (rows : List (String × String)) (style : String) :
    Shown :=
  .table
    { title, columns := [first, second], rows := rows.map fun (a, b) => [a, b]
      styles := some [style, ""] }

def overview (r : Report) : List Shown :=
  [.section "Image",
   pairs "Image" "Property" "Value"
     [("Path", escape r.path), ("Container", r.wrapping.name),
      ("Base address", Numeral.hex r.base), ("Size", Numeral.grouped r.size ++ " bytes")]
     "bold",
   .blank]

/-- The name of a trampoline as a title: spaces for underscores, a capital first. -/
def trampolineTitle (name : String) : String :=
  LetterCase.capitalize (name.map fun c => if c = '_' then ' ' else c)

def header (h : HeaderSummary) : List Shown :=
  let validity :=
    if h.isValid then "[green]valid[/green]" else "[bright_red]invalid[/bright_red]"
  [.section "OAT Header",
   pairs "Header" "Field" "Value"
     ([("Version", escape h.version ++ " (" ++ validity ++ ")"),
       ("Instruction set", h.instructionSet.name), ("ISA features", Numeral.hex h.features),
       ("Adler-32 checksum", Numeral.hex h.checksum),
       ("Dex files", Numeral.decimal h.dexFileCount),
       ("Executable offset", Numeral.hex h.executableOffset),
       ("Image patch delta", Numeral.decimal h.imagePatchDelta),
       ("Header size", Numeral.decimal h.headerSize),
       ("Key-value store size", Numeral.decimal h.keyValueStoreSize)] ++
      h.trampolines.map fun (name, offset) => (trampolineTitle name, Numeral.hex offset))
     "bold",
   .blank]

/-- The store; an empty one is not shown. -/
def store (s : KeyValueStore) : List Shown :=
  if s.isEmpty then []
  else
    [.section "Key-Value Store",
     pairs "Key-Value Store" "Key" "Value" (s.map fun (k, v) => (escape k, escape v))
       "bright_cyan",
     .blank]

def fileRow (f : DexFileSummary) : List String :=
  [Numeral.decimal f.index, escape f.location, Numeral.hex f.checksum, Numeral.hex f.dexOffset,
   Numeral.decimal f.classCount, Numeral.decimal f.recordSize]

/-- The directory, with the number of records that the image declares if it is given. -/
def files (fs : List DexFileSummary) (declared : Option Int) : List Shown :=
  .section "Dex Files" ::
    if fs.isEmpty then [.message .info "No dex-file records decoded."]
    else
      [.table
        { title := "Dex Files"
          columns := ["#", "Location", "Checksum", "Dex Offset", "Classes", "Record Size"]
          rows := fs.map (fileRow escape)
          caption := declared.map fun n =>
            Numeral.decimal fs.length ++ " of " ++ Numeral.decimal n ++ " records decoded"
          styles := some ["dim", "bright_white", "", "bright_cyan", "", "dim"] },
       .blank]

def walkError (r : Report) : List Shown :=
  match r.walkError with
  | none => []
  | some "" => []
  | some text => [.message .error (escape text)]

def report (r : Report) : List Shown :=
  overview escape r ++ header escape r.header ++ store escape r.store ++
    files escape r.files (some r.header.dexFileCount) ++ walkError escape r

/-- The class, the method and its signature, as one name. -/
def target (l : Lookup) : String := escape (l.descriptor ++ "->" ++ l.method ++ l.signature)

/-- The table of a method that was found. The code rows are there if it was compiled. -/
def lookupTable (l : Lookup) : Shown :=
  pairs "Method" "Field" "Value"
    ([("Method", target escape l), ("Dex file", escape (l.location.getD "")),
      ("Class def index", number l.classIndex), ("Class status", number l.classStatus),
      ("Class type", word l.classKind), ("Kind", word l.methodKind),
      ("Modifiers", word (some (" ".intercalate l.modifiers))),
      ("Class method index", number l.position)] ++
     if l.compiled then
       [("Code offset", address l.codeOffset), ("Entry point", address l.entryPoint),
        ("Code pointer", address l.codePointer)]
     else [])
    "bold"

def lookup (l : Lookup) : List Shown :=
  .section "Method Lookup" ::
    if l.status = .failure then
      [.message .error ("Lookup of " ++ target escape l ++ " failed: " ++ escape (l.error.getD ""))]
    else if l.classIndex = none then
      [.message .warning ("Class " ++ escape l.descriptor ++ " not found.")]
    else if l.status = .notFound then
      [.message .warning ("Method " ++ target escape l ++ " not found.")]
    else
      [lookupTable escape l,
       if l.compiled then .message .success ("Compiled code at " ++ address l.codePointer)
       else .message .info "No compiled code; the method runs interpreted."]

end Display

end OatImage
