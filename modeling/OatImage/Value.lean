import OatImage.Double
import OatImage.Moment
import OatImage.Text.Quoted

/-!
# Values

What a settings file says about a key, what is put into a message or a table, and what is
written as JSON are values of the same kinds. A value is shown plain or quoted: quoted it shows
its kind, and so do the values inside a list or a table.
-/
namespace OatImage

inductive Value
  | none
  | flag (b : Bool)
  | integer (n : Int)
  | real (x : Double)
  | text (s : String)
  | moment (m : Moment)
  | list (items : List Value)
  | table (entries : List (String × Value))
deriving Repr, Inhabited

inductive Quantity
  | whole (n : Int)
  | real (x : Double)
deriving DecidableEq, Repr

namespace Quantity

def isBelow : Quantity → Int → Bool
  | .whole limit, n => limit < n
  | .real limit, n => limit.isBelow n

def grouped : Quantity → String
  | .whole n => Numeral.grouped n
  | .real x => x.grouped

end Quantity

namespace Value

def kindName : Value → String
  | .none => "NoneType"
  | .flag _ => "bool"
  | .integer _ => "int"
  | .real _ => "float"
  | .text _ => "str"
  | .moment m => m.kindName
  | .list _ => "list"
  | .table _ => "dict"

mutual

def quoted : Value → String
  | .none => "None"
  | .flag b => if b then "True" else "False"
  | .integer n => Numeral.decimal n
  | .real x => x.toText
  | .text s => Quoted.text s
  | .moment m => m.quoted
  | .list items => "[" ++ quotedItems items ++ "]"
  | .table entries => "\x7b" ++ quotedEntries entries ++ "\x7d"

def quotedItems : List Value → String
  | [] => ""
  | [v] => quoted v
  | v :: rest => quoted v ++ ", " ++ quotedItems rest

def quotedEntries : List (String × Value) → String
  | [] => ""
  | [(k, v)] => Quoted.text k ++ ": " ++ quoted v
  | (k, v) :: rest => Quoted.text k ++ ": " ++ quoted v ++ ", " ++ quotedEntries rest

end

def plain : Value → String
  | .text s => s
  | .moment m => m.text " "
  | v => v.quoted

/-- The value where a whole number is wanted; a flag counts as one or zero. -/
def integer? : Value → Option Int
  | .flag b => some (if b then 1 else 0)
  | .integer n => some n
  | _ => Option.none

def quantity? : Value → Option Quantity
  | .real x => some (.real x)
  | v => v.integer?.map .whole

/-- A value counts as set unless it is empty, zero or false. -/
def isSet : Value → Bool
  | .none => false
  | .flag b => b
  | .integer n => n ≠ 0
  | .real x => !x.isZero
  | .text s => !s.isEmpty
  | .moment _ => true
  | .list items => !items.isEmpty
  | .table entries => !entries.isEmpty

/-- A value, or none in place of nothing. -/
def orNone {α : Type} (f : α → Value) : Option α → Value
  | Option.none => .none
  | some a => f a

mutual

/-- Decides whether two values are the same. -/
def decEq : (a b : Value) → Decidable (a = b)
  | .none, b => match b with
    | .none => .isTrue rfl
    | .flag _ | .integer _ | .real _ | .text _ | .moment _ | .list _ | .table _ => .isFalse nofun
  | .flag a, b => match b with
    | .flag b => decidable_of_iff (a = b) (by simp)
    | .none | .integer _ | .real _ | .text _ | .moment _ | .list _ | .table _ => .isFalse nofun
  | .integer a, b => match b with
    | .integer b => decidable_of_iff (a = b) (by simp)
    | .none | .flag _ | .real _ | .text _ | .moment _ | .list _ | .table _ => .isFalse nofun
  | .real a, b => match b with
    | .real b => decidable_of_iff (a = b) (by simp)
    | .none | .flag _ | .integer _ | .text _ | .moment _ | .list _ | .table _ => .isFalse nofun
  | .text a, b => match b with
    | .text b => decidable_of_iff (a = b) (by simp)
    | .none | .flag _ | .integer _ | .real _ | .moment _ | .list _ | .table _ => .isFalse nofun
  | .moment a, b => match b with
    | .moment b => decidable_of_iff (a = b) (by simp)
    | .none | .flag _ | .integer _ | .real _ | .text _ | .list _ | .table _ => .isFalse nofun
  | .list a, b => match b with
    | .list b => @decidable_of_iff _ (a = b) (by simp) (decEqItems a b)
    | .none | .flag _ | .integer _ | .real _ | .text _ | .moment _ | .table _ => .isFalse nofun
  | .table a, b => match b with
    | .table b => @decidable_of_iff _ (a = b) (by simp) (decEqEntries a b)
    | .none | .flag _ | .integer _ | .real _ | .text _ | .moment _ | .list _ => .isFalse nofun

def decEqItems : (a b : List Value) → Decidable (a = b)
  | [], [] => .isTrue rfl
  | [], _ :: _ => .isFalse nofun
  | _ :: _, [] => .isFalse nofun
  | a :: as, b :: bs =>
    match decEq a b, decEqItems as bs with
    | .isTrue h, .isTrue hs => .isTrue (by rw [h, hs])
    | .isFalse h, _ => .isFalse fun e => h (List.cons.inj e).1
    | _, .isFalse h => .isFalse fun e => h (List.cons.inj e).2

def decEqEntries : (a b : List (String × Value)) → Decidable (a = b)
  | [], [] => .isTrue rfl
  | [], _ :: _ => .isFalse nofun
  | _ :: _, [] => .isFalse nofun
  | (k, a) :: as, (l, b) :: bs =>
    match decEq a b, decEqEntries as bs with
    | .isTrue h, .isTrue hs => decidable_of_iff (k = l) (by simp [h, hs])
    | .isFalse h, _ => .isFalse fun e => h (Prod.mk.inj (List.cons.inj e).1).2
    | _, .isFalse h => .isFalse fun e => h (List.cons.inj e).2

end

instance : DecidableEq Value := decEq

end Value

end OatImage
