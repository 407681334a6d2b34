/-!
# Character sets as ranges

A set of characters given by a table of closed ranges of code points.
-/

namespace ShapeCheck
namespace Text

/-- Whether a character lies in one of the closed ranges. -/
def inRanges (ranges : List (Nat × Nat)) (c : Char) : Bool :=
  ranges.any fun range => range.1 ≤ c.toNat && c.toNat ≤ range.2

end Text
end ShapeCheck
