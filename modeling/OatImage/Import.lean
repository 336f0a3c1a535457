import OatImage.Lookup
import OatImage.Report
import OatImage.Toml.Number

/-!
# Reports from values

Reports are read back from tables, every field by its name. A field that is left out has its
usual value, and one that is not known is passed over. A field may be written as a value of
another kind that stands for it without loss; where it is not, the table is no report.
-/
namespace OatImage

namespace Import

def text? : Value → Option String
  | .text s => some s
  | _ => none

/-- The words for yes and for no. -/
def flagWords : List (String × Bool) :=
  [("1", true), ("true", true), ("t", true), ("yes", true), ("y", true), ("on", true),
   ("0", false), ("false", false), ("f", false), ("no", false), ("n", false), ("off", false)]

def flag? : Value → Option Bool
  | .flag b => some b
  | .text s => flagWords.lookup s.toLower
  | .integer n => if n = 1 then some true else if n = 0 then some false else none
  | .real x => if x = .ofInt 1 then some true else if x.isZero then some false else none
  | _ => none

/-- Decimal digits with nothing but a point and zeros behind them. -/
def digits? (s : List Char) : Option Nat := do
  let (digits, rest) ← Toml.Number.digits? 10 s
  guard (rest = [] ∨ rest.head? = some '.' ∧ rest.tail ≠ [] ∧ rest.tail.all (· = '0'))
  pure (Toml.Number.ofDigits 10 digits)

def written? (s : String) : Option Int := do
  let blank (c : Char) : Bool := (CodePoint.ofChar c).isBlank
  let word := ((s.toList.dropWhile blank).reverse.dropWhile blank).reverse
  let (negative, rest) := Toml.Number.sign word
  let n ← digits? rest
  pure (if negative then -(n : Int) else n)

def whole? : Value → Option Int
  | .integer n => some n
  | .flag b => some (if b then 1 else 0)
  | .real x => do
    let n ← x.truncated?
    guard (x.isZero ∨ x = .ofInt n)
    pure n
  | .text s => written? s
  | _ => none

/-- A field that may say nothing. -/
def optional {α : Type} (read : Value → Option α) : Value → Option (Option α)
  | .none => some none
  | v => (read v).map some

/-- A table whose values are all read alike. -/
def table? {α : Type} (read : Value → Option α) : Value → Option (List (String × α))
  | .table entries => entries.mapM fun (key, v) => (read v).map fun a => (key, a)
  | _ => none

def list? {α : Type} (read : Value → Option α) : Value → Option (List α)
  | .list items => items.mapM read
  | _ => none

def choice? {α : Type} (name : α → String) (choices : List α) (v : Value) : Option α := do
  let word ← text? v
  choices.find? fun a => name a = word

/-- The field of a table, or its usual value if it is left out. -/
def get {α : Type} (entries : List (String × Value)) (key : String) (usual : α)
    (read : Value → Option α) : Option α :=
  match entries.lookup key with
  | none => some usual
  | some v => read v

end Import

open Import

def HeaderSummary.ofValue? : Value → Option HeaderSummary
  | .table entries => do
    pure
      { version := ← get entries "version" "" text?
        isValid := ← get entries "valid" false flag?
        checksum := ← get entries "adler32_checksum" 0 whole?
        instructionSet := ←
          get entries "instruction_set" .none (choice? InstructionSet.name InstructionSet.all)
        features := ← get entries "instruction_set_features" 0 whole?
        dexFileCount := ← get entries "dex_file_count" 0 whole?
        executableOffset := ← get entries "executable_offset" 0 whole?
        imagePatchDelta := ← get entries "image_patch_delta" 0 whole?
        keyValueStoreSize := ← get entries "key_value_store_size" 0 whole?
        headerSize := ← get entries "header_size" 0 whole?
        trampolines := ← get entries "trampolines" [] (table? whole?) }
  | _ => none

def DexFileSummary.ofValue? : Value → Option DexFileSummary
  | .table entries => do
    pure
      { index := ← get entries "index" 0 whole?
        location := ← get entries "location" "" text?
        checksum := ← get entries "location_checksum" 0 whole?
        dexOffset := ← get entries "dex_file_offset" 0 whole?
        classCount := ← get entries "class_def_count" 0 whole?
        recordSize := ← get entries "record_size" 0 whole? }
  | _ => none

def Report.ofValue? : Value → Option Report
  | .table entries => do
    pure
      { path := ← get entries "path" "" text?
        wrapping := ← get entries "container" .raw (choice? Wrapping.name [.raw, .elf])
        base := ← get entries "base_address" 0 whole?
        size := ← get entries "size" 0 whole?
        header := ← get entries "header" {} HeaderSummary.ofValue?
        store := ← get entries "key_value_store" [] (table? text?)
        files := ← get entries "dex_files" [] (list? DexFileSummary.ofValue?)
        walkError := ← get entries "walk_error" none (optional text?) }
  | _ => none

def Lookup.ofValue? : Value → Option Lookup
  | .table entries => do
    let whole (key : String) : Option (Option Int) := get entries key none (optional whole?)
    let text (key : String) : Option (Option String) := get entries key none (optional text?)
    pure
      { status := ←
          get entries "status" .notFound (choice? Status.name [.found, .notFound, .failure])
        descriptor := ← get entries "class_descriptor" "" text?
        method := ← get entries "method_name" "" text?
        signature := ← get entries "signature" "" text?
        location := ← text "dex_location"
        classIndex := ← whole "class_def_index"
        classStatus := ← whole "class_status"
        classKind := ← text "class_type"
        methodKind := ← text "method_kind"
        position := ← whole "class_method_index"
        accessFlags := ← whole "access_flags"
        modifiers := ← get entries "modifiers" [] (list? text?)
        compiled := ← get entries "compiled" false flag?
        codeOffset := ← whole "code_offset"
        entryPoint := ← whole "entry_point"
        codePointer := ← whole "code_pointer"
        error := ← text "error" }
  | _ => none

end OatImage
