import OatImage.Value

/-!
# The tree of a settings file

The tree that a document is gathered in. A table of the tree is still open for keys in the
section that defines it and closed in the sections after it; a table that only stands on the
way to another is not defined yet. What stands behind a key as a value, arrays and inline
tables included, is never added to.
-/
namespace OatImage.Toml

/-- What stands behind a key while a document is read. -/
inductive Node
  | value (v : Value)
  /-- A table, with the section that defines it. -/
  | table (definedIn : Option Nat) (entries : List (String × Node))
  /-- An array of tables; the last one is open. -/
  | tables (finished : List (List (String × Node))) (last : List (String × Node))
deriving Repr

abbrev Entries := List (String × Node)

/-- A dotted key: the tables on the way, and the key in the last of them. -/
structure Key where
  path : List String
  last : String
deriving DecidableEq, Repr

/-- All parts of a dotted key. -/
def Key.parts (k : Key) : List String := k.path ++ [k.last]

namespace Entries

/-- Puts a node behind a key, in the place of the one that is there. -/
def put (key : String) (node : Node) : Entries → Entries
  | [] => [(key, node)]
  | (k, n) :: rest => if k = key then (k, node) :: rest else (k, n) :: put key node rest

/-- Changes the table at a path of section names. Missing tables are made on the way, and an
array of tables stands for its last one. -/
def within (change : Entries → Option Entries) : List String → Entries → Option Entries
  | [], entries => change entries
  | k :: ks, entries =>
    match List.lookup k entries with
    | none => (within change ks []).map fun inner => put k (.table none inner) entries
    | some (.table definedIn inner) =>
      (within change ks inner).map fun inner => put k (.table definedIn inner) entries
    | some (.tables finished last) =>
      (within change ks last).map fun last => put k (.tables finished last) entries
    | some (.value _) => none

/-- Sets a key once. The tables on the way of a dotted key become defined in the section, and
must not have been defined in another. -/
def define (sectionIndex : Nat) (last : String) (value : Value) :
    List String → Entries → Option Entries
  | [], entries =>
    match List.lookup last entries with
    | none => some (put last (.value value) entries)
    | some _ => none
  | k :: ks, entries =>
    match List.lookup k entries with
    | none =>
      (define sectionIndex last value ks []).map fun inner =>
        put k (.table (some sectionIndex) inner) entries
    | some (.table definedIn inner) =>
      if definedIn = none ∨ definedIn = some sectionIndex then
        (define sectionIndex last value ks inner).map fun inner =>
          put k (.table (some sectionIndex) inner) entries
      else none
    | some _ => none

def openTable (sectionIndex : Nat) (key : Key) (entries : Entries) : Option Entries :=
  within (fun entries =>
    match List.lookup key.last entries with
    | none => some (put key.last (.table (some sectionIndex) []) entries)
    | some (.table none inner) => some (put key.last (.table (some sectionIndex) inner) entries)
    | some _ => none) key.path entries

def appendTable (key : Key) (entries : Entries) : Option Entries :=
  within (fun entries =>
    match List.lookup key.last entries with
    | none => some (put key.last (.tables [] []) entries)
    | some (.tables finished last) =>
      some (put key.last (.tables (finished ++ [last]) []) entries)
    | some _ => none) key.path entries

end Entries

mutual

def Node.toValue : Node → Value
  | .value v => v
  | .table _ entries => .table (entriesValue entries)
  | .tables finished last => .list (tablesValue finished ++ [.table (entriesValue last)])

def entriesValue : List (String × Node) → List (String × Value)
  | [] => []
  | (k, n) :: rest => (k, n.toValue) :: entriesValue rest

def tablesValue : List (List (String × Node)) → List Value
  | [] => []
  | entries :: rest => .table (entriesValue entries) :: tablesValue rest

end

end OatImage.Toml
