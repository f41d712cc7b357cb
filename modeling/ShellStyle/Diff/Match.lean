/-!
# Common blocks of two sequences

Two sequences are compared by their longest common block, the earliest of these, and then by the
blocks before and behind it. In a long second sequence, items that come too often are popular: a
block never starts from one of them, but it grows over them at either end.
-/

namespace ShellStyle.Diff

variable {α : Type} [DecidableEq α]

/-- A common block: where it begins in either sequence, and its length. -/
structure Block where
  left : Nat
  right : Nat
  size : Nat
  deriving DecidableEq, Repr

/-- An item of the second sequence, marked if it is popular. -/
structure Item (α : Type) where
  value : α
  isPopular : Bool

/-- The length from which on a sequence has popular items. -/
def popularFrom : Nat :=
  200

/-- Marks the popular items of a sequence: those that make up more than one percent of a long
one. -/
def markPopular (b : List α) : List (Item α) :=
  let limit := b.length / 100 + 1
  b.map fun x => ⟨x, popularFrom ≤ b.length && limit < b.count x⟩

/-- For an item `x` of the first sequence, the lengths of the blocks that end in it and in each item
of the second one. The lengths for the item before `x` are given, `corner` being the one diagonally
before. -/
def nextRow (x : α) (corner : Nat) : List (Item α) → List Nat → List Nat
  | y :: ys, k :: ks =>
    (if x = y.value ∧ !y.isPopular then corner + 1 else 0) :: nextRow x k ys ks
  | _, _ => []

/-- The better of a block and those that end in row `i`, from column `j` on; the earlier of two that
are as long. -/
def bestInRow (i : Nat) (best : Block) (j : Nat) : List Nat → Block
  | [] => best
  | k :: ks =>
    bestInRow i (if best.size < k then ⟨i + 1 - k, j + 1 - k, k⟩ else best) (j + 1) ks

/-- The best block that ends in row `i` or later, if none before is better than `best`. -/
def bestFrom (b : List (Item α)) (i : Nat) (row : List Nat) (best : Block) : List α → Block
  | [] => best
  | x :: a =>
    let row := nextRow x 0 b row
    bestFrom b (i + 1) row (bestInRow i best 0 row) a

/-- The number of items that two sequences have in common at their beginning. -/
def commonLength : List α → List α → Nat
  | x :: a, y :: b => if x = y then commonLength a b + 1 else 0
  | _, _ => 0

/-- The longest common block, the earliest of these, grown over popular items at either end. -/
def longestBlock (a : List α) (b : List (Item α)) : Block :=
  let best := bestFrom b 0 (b.map fun _ => 0) ⟨0, 0, 0⟩ a
  let values := b.map Item.value
  let before := commonLength (a.take best.left).reverse (values.take best.right).reverse
  let behind := commonLength (a.drop (best.left + best.size)) (values.drop (best.right + best.size))
  ⟨best.left - before, best.right - before, best.size + before + behind⟩

/-- The common blocks of two sequences that begin at `i` and `j`, in at most `fuel` generations. -/
def blocksFrom (fuel i j : Nat) (a : List α) (b : List (Item α)) : List Block :=
  match fuel with
  | 0 => []
  | fuel + 1 =>
    let best := longestBlock a b
    if best.size = 0 then []
    else
      blocksFrom fuel i j (a.take best.left) (b.take best.right) ++
        ⟨i + best.left, j + best.right, best.size⟩ ::
        blocksFrom fuel (i + best.left + best.size) (j + best.right + best.size)
          (a.drop (best.left + best.size)) (b.drop (best.right + best.size))

/-- Joins blocks that follow each other in both sequences. -/
def joinBlocks : List Block → List Block
  | [] => []
  | x :: rest =>
    match joinBlocks rest with
    | [] => [x]
    | y :: more =>
      if x.left + x.size = y.left ∧ x.right + x.size = y.right then
        ⟨x.left, x.right, x.size + y.size⟩ :: more
      else x :: y :: more

/-- The common blocks of two sequences, in order. Every block takes an item of the first one, which
bounds their number. -/
def blocks (a b : List α) : List Block :=
  joinBlocks (blocksFrom a.length 0 0 a (markPopular b))

end ShellStyle.Diff
