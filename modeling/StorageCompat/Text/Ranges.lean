/-!
Sets of characters given as ranges of code points, in ascending order.
-/

namespace StorageCompat.Text

abbrev Ranges := List (Nat × Nat)

namespace Ranges

def contains (ranges : Ranges) (character : Char) : Bool :=
  ranges.any fun range => range.1 ≤ character.toNat && character.toNat ≤ range.2

def count (ranges : Ranges) : Nat :=
  ranges.foldr (fun range others => range.2 + 1 - range.1 + others) 0

def ascending : Ranges → Bool
  | [] => true
  | [(low, high)] => low ≤ high
  | (low, high) :: (next, last) :: rest =>
      low ≤ high && high + 1 < next && ascending ((next, last) :: rest)

end Ranges

end StorageCompat.Text
