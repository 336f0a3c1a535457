import OatImage.ClassRecord
import OatImage.Dex.ClassData

/-!
# The content of an image

What an image is made from, without regard to how it is laid out: dex files with their
classes, the methods of each class in order, and which of them were compiled to which code.
A method belongs to the first dex file that defines its class, and no other one counts, even
if that one does not declare the method.
-/
namespace OatImage.Content

structure Method where
  name : Text
  parameters : List Text
  result : Text
  flags : Nat
deriving DecidableEq

def Method.signature (m : Method) : Text := Dex.Module.signatureText m.parameters m.result

/-- The code of the methods of a class: of none of them, of all of them in order, or of some,
with an offset or none for each method. -/
inductive Code
  | none
  | all (offsets : List Nat)
  | some (offsets : List (Option Nat))
deriving DecidableEq

namespace Code

def coverage : Code → Coverage
  | .none => .none
  | .all _ => .all
  | .some _ => .some

/-- The code offset of the method with a position. -/
def offset? : Code → Nat → Option Nat
  | .none, _ => Option.none
  | .all offsets, k => offsets[k]?
  | .some offsets, k => offsets[k]?.join

end Code

/-- The names of the access flags that are set. -/
def Method.modifiers (m : Method) : List String :=
  (Dex.modifierFlags.filter fun f => m.flags &&& f.1 ≠ 0).map Prod.snd

structure Class where
  descriptor : Text
  direct : List Method
  virtual : List Method
  status : Int
  code : Code
deriving DecidableEq

/-- The methods of a class in the order of their positions. -/
def Class.methods (c : Class) : List Method := c.direct ++ c.virtual

structure File where
  location : List UInt8
  classes : List Class
deriving DecidableEq

/-- No two methods of the class have the same name and signature. -/
def Class.IsDistinct (c : Class) : Prop :=
  (c.methods.map fun m => (m.name, m.signature)).Nodup

instance (c : Class) : Decidable c.IsDistinct := inferInstanceAs (Decidable (List.Nodup _))

/-- No two classes of the file have the same descriptor, and the methods of each are distinct. -/
def File.IsDistinct (f : File) : Prop :=
  (f.classes.map Class.descriptor).Nodup ∧ ∀ c ∈ f.classes, c.IsDistinct

instance (f : File) : Decidable f.IsDistinct := inferInstanceAs (Decidable (_ ∧ _))

/-- The class with an index has the descriptor. -/
def File.Defines (f : File) (descriptor : Text) (index : Nat) (c : Class) : Prop :=
  f.classes[index]? = some c ∧ c.descriptor = descriptor

/-- The first file with a class of the descriptor defines it as the class with an index. -/
def DefinesFirst (files : List File) (descriptor : Text) (f : File) (index : Nat) (c : Class) :
    Prop :=
  (files.find? fun g => decide (∃ d ∈ g.classes, d.descriptor = descriptor)) = some f ∧
    f.Defines descriptor index c

/-- The method with a position has the name and the signature. -/
def Class.Declares (c : Class) (name signature : Text) (position : Nat) (m : Method) : Prop :=
  c.methods[position]? = some m ∧ m.name = name ∧ m.signature = signature

/-- Where keys are distinct, each belongs to one entry at one position. -/
theorem entry_unique {α β : Type} {key : α → β} {xs : List α} (h : (xs.map key).Nodup)
    {i j : Nat} {a b : α} (hi : xs[i]? = some a) (hj : xs[j]? = some b) (hkey : key a = key b) :
    i = j ∧ a = b := by
  have hlt : i < (xs.map key).length := by
    rw [List.length_map]
    exact (List.getElem?_eq_some_iff.mp hi).choose
  have hsame : (xs.map key)[i]? = (xs.map key)[j]? := by
    rw [List.getElem?_map, List.getElem?_map, hi, hj, Option.map_some, Option.map_some, hkey]
  have hij : i = j := (List.getElem?_inj hlt h).mp hsame
  subst hij
  exact ⟨rfl, Option.some.inj (hi.symm.trans hj)⟩

theorem DefinesFirst.unique {files : List File} (hfiles : ∀ f ∈ files, f.IsDistinct)
    {descriptor : Text} {f g : File} {i j : Nat} {c d : Class}
    (hf : DefinesFirst files descriptor f i c) (hg : DefinesFirst files descriptor g j d) :
    f = g ∧ i = j ∧ c = d := by
  obtain ⟨hfirst, hc, hcdesc⟩ := hf
  obtain ⟨hfirst', hd, hddesc⟩ := hg
  have hsame : f = g := Option.some.inj (hfirst.symm.trans hfirst')
  subst hsame
  have hdistinct := (hfiles f (List.mem_of_find?_eq_some hfirst)).1
  exact ⟨rfl, entry_unique hdistinct hc hd (hcdesc.trans hddesc.symm)⟩

theorem Class.Declares.unique {c : Class} (hc : c.IsDistinct) {name signature : Text}
    {i j : Nat} {m n : Method} (hm : c.Declares name signature i m)
    (hn : c.Declares name signature j n) : i = j ∧ m = n := by
  obtain ⟨hgetm, hname, hsignature⟩ := hm
  obtain ⟨hgetn, hname', hsignature'⟩ := hn
  refine entry_unique hc hgetm hgetn ?_
  rw [hname, hsignature, hname', hsignature']

end OatImage.Content
