/-!
# Ranges of code points

A property of code points is a table of ranges, each with its first and its last number.
-/
namespace OatImage.Ranges

def holds (ranges : Array (Nat × Nat)) (n : Nat) : Bool :=
  ranges.any fun r => r.1 ≤ n && n ≤ r.2

end OatImage.Ranges
