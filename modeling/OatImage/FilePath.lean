/-!
# Paths

A path names a file by the directories on the way. Several slashes count as one, and a dot
names nothing; only two slashes at the head are kept as they are.
-/
namespace OatImage

/-- A path: the slashes at its head, and the names in it. -/
structure FilePath where
  root : String := ""
  names : List String
deriving DecidableEq, Repr

namespace FilePath

/-- The slashes at the head of a path that count. -/
def rootOf (slashes : Nat) : String :=
  if slashes = 0 then "" else if slashes = 2 then "//" else "/"

def ofString (s : String) : FilePath :=
  { root := rootOf (s.toList.takeWhile (· = '/')).length
    names := (s.splitOn "/").filter fun name => name ≠ "" ∧ name ≠ "." }

/-- The path as text; the path that names nothing is a dot. -/
def text (p : FilePath) : String :=
  if p.root.isEmpty && p.names.isEmpty then "." else p.root ++ "/".intercalate p.names

def parent (p : FilePath) : FilePath := { p with names := p.names.dropLast }

/-- The paths on the way, from the first directory to the path itself. -/
def prefixes (p : FilePath) : List FilePath :=
  (List.range p.names.length).map fun n => { p with names := p.names.take (n + 1) }

def goBack : (reversed : List String) → List String → List String
  | reversed, [] => reversed.reverse
  | reversed, ".." :: rest => goBack reversed.tail rest
  | reversed, name :: rest => goBack (name :: reversed) rest

/-- The path without steps back, below a directory that has no way out. -/
def resolved (p : FilePath) : FilePath := { p with names := goBack [] p.names }

end FilePath

end OatImage
