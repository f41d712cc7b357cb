/-!
# Ranges of code points

Character classes beyond ASCII are given as lists of closed ranges of code points.
-/

namespace ShellStyle.Text

/-- Whether a code point lies in one of the closed ranges. -/
def inRanges (ranges : List (Nat × Nat)) (n : Nat) : Bool :=
  ranges.any fun (first, last) => first ≤ n && n ≤ last

end ShellStyle.Text
