import OatImage.Value

/-!
# Values of no use

A setting may be a value of any kind. Whether it is of use shows where it is used: a size is
compared, an address is added to, a symbol is looked up, a path is taken apart. What is said
of a value that is of no use there names its kind.
-/
namespace OatImage

/-- Why a value cannot be used. -/
inductive Misuse
  /-- A limit that no size can be compared with. -/
  | notComparable (kind : String)
  /-- A start that no size can be put behind. -/
  | notJoinable (kind : String)
  /-- A start that no size can be added to. -/
  | notAddable (kind : String)
  /-- An address that is no whole number. -/
  | notPosition
  /-- An address that is no whole number, where it is to be shown. -/
  | notShownInHex
  /-- A key that changes. -/
  | notKey (kind : String)
  /-- A path that is no text. -/
  | notPath (kind : String)
  /-- A path with a zero character. -/
  | zeroInPath
  /-- A word that is no text. -/
  | notWord
deriving DecidableEq, Repr

def Misuse.message : Misuse → String
  | .notComparable kind => "'>' not supported between instances of 'int' and '" ++ kind ++ "'"
  | .notJoinable kind => "can only concatenate " ++ kind ++ " (not \"int\") to " ++ kind
  | .notAddable kind => "unsupported operand type(s) for +: '" ++ kind ++ "' and 'int'"
  | .notPosition => "slice indices must be integers or None or have an __index__ method"
  | .notShownInHex => "Unknown format code 'x' for object of type 'float'"
  | .notKey kind => "unhashable type: '" ++ kind ++ "'"
  | .notPath kind => "expected str, bytes or os.PathLike object, not " ++ kind
  | .zeroInPath => "embedded null byte"
  | .notWord => "a word is no text"

end OatImage
