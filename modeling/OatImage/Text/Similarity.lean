/-!
# Similar words

Two words are compared by the blocks that they share: the longest common block, and on both
sides of it the blocks that the rest shares. Twice the shared length over the whole length is
their likeness.
-/
namespace OatImage.Similarity

def commonStart : List Char → List Char → Nat
  | a :: as, b :: bs => if a = b then commonStart as bs + 1 else 0
  | _, _ => 0

/-- A common block: where it starts in each word, and its length. -/
structure Block where
  left : Nat
  right : Nat
  size : Nat
deriving DecidableEq, Repr

/-- The longer of two blocks; of two equally long the first. -/
def Block.longer (a b : Block) : Block := if a.size < b.size then b else a

/-- The longest common block; of several the one that starts first in the left word, and of
those the one that starts first in the right word. -/
def longestBlock (as bs : List Char) : Block :=
  (List.range as.length).foldl (fun best i =>
    (List.range bs.length).foldl (fun best j =>
      best.longer ⟨i, j, commonStart (as.drop i) (bs.drop j)⟩) best) ⟨0, 0, 0⟩

/-- How much two words share. Each block takes a letter of the left word, so its length
bounds their number. -/
def sharedWithin : Nat → List Char → List Char → Nat
  | 0, _, _ => 0
  | bound + 1, as, bs =>
    let block := longestBlock as bs
    if block.size = 0 then 0
    else
      sharedWithin bound (as.take block.left) (bs.take block.right) + block.size +
        sharedWithin bound (as.drop (block.left + block.size)) (bs.drop (block.right + block.size))

def shared (as bs : List Char) : Nat := sharedWithin as.length as bs

/-- A candidate with how much it shares with a word and how long both are. -/
structure Match where
  candidate : String
  shared : Nat
  length : Nat
deriving DecidableEq, Repr

/-- At least six parts in ten are alike. -/
def Match.isClose (m : Match) : Bool := 6 * m.length ≤ 20 * m.shared

/-- One match comes before another if it is closer, or as close and later in the alphabet. -/
def Match.precedes (a b : Match) : Bool :=
  let left := a.shared * b.length
  let right := b.shared * a.length
  right < left || (left = right && b.candidate ≤ a.candidate)

/-- The candidates that are like a word, three at most, in the order of the alphabet. -/
def closest (word : String) (candidates : List String) : List String :=
  let scored := candidates.map fun c =>
    (⟨c, shared c.toList word.toList, c.length + word.length⟩ : Match)
  (((scored.filter Match.isClose).mergeSort Match.precedes).take 3).map Match.candidate
    |>.mergeSort

end OatImage.Similarity
