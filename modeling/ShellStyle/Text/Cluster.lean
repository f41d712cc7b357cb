import ShellStyle.Text.Width

/-!
# Clusters

Text is cut and broken between clusters: a cluster is a character with those behind it that take no
column of their own, that a joiner takes in, or that select its wide form.
-/

namespace ShellStyle.Text

/-- Characters that are shown as one, and the columns they take. -/
structure Cluster where
  chars : Text
  columns : Nat

/-- The cluster with one more character. -/
def Cluster.push (k : Cluster) (c : Char) : Cluster :=
  { k with chars := k.chars ++ [c] }

/-- The clusters of a text behind the cluster `current`, where `last` is the character that was
counted last. -/
def clustersFrom (current : Cluster) (last : Option Char) : Text → List Cluster
  | [] => [current]
  | c :: t =>
    if c = joiner then
      match t with
      | [] => [current.push c]
      | d :: rest => clustersFrom ((current.push c).push d) last rest
    else if c = wideSelector ∧ last.any isNarrowSign then
      clustersFrom ⟨current.chars ++ [c], current.columns + 1⟩ none t
    else if charWidth c = 0 then clustersFrom (current.push c) last t
    else current :: clustersFrom ⟨[c], charWidth c⟩ (some c) t

/-- The clusters of a text. -/
def clusters : Text → List Cluster
  | [] => []
  | c :: t => clustersFrom ⟨[c], charWidth c⟩ (if charWidth c = 0 then none else some c) t

theorem flatMap_clustersFrom (current : Cluster) (last : Option Char) (t : Text) :
    (clustersFrom current last t).flatMap Cluster.chars = current.chars ++ t := by
  fun_induction clustersFrom current last t <;> simp_all [Cluster.push]

/-- The clusters of a text are the text, in pieces. -/
theorem flatMap_clusters (t : Text) : (clusters t).flatMap Cluster.chars = t := by
  cases t with
  | nil => rfl
  | cons c t => simp [clusters, flatMap_clustersFrom]

/-- The clusters that fill `columns` columns; half of a wide one becomes a space. -/
def takeColumns (columns : Nat) : List Cluster → Text
  | [] => []
  | k :: ks =>
    if columns = 0 then []
    else if k.columns ≤ columns then k.chars ++ takeColumns (columns - k.columns) ks
    else [' ']

/-- The text cut to at most `columns` columns. -/
def cut (columns : Nat) (t : Text) : Text :=
  if width t ≤ columns then t else takeColumns columns (clusters t)

/-- The pieces of clusters that fit into `columns` columns; `piece` is the current one, of width
`used`. -/
def chopFrom (columns : Nat) (piece : Text) (used : Nat) : List Cluster → List Text
  | [] => [piece]
  | k :: ks =>
    if columns < used + k.columns then piece :: chopFrom columns k.chars k.columns ks
    else chopFrom columns (piece ++ k.chars) (used + k.columns) ks

/-- The pieces of a text that fit into `columns` columns. -/
def chop (columns : Nat) (t : Text) : List Text :=
  chopFrom columns [] 0 (clusters t)

end ShellStyle.Text
