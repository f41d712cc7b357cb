import ShellStyle.File.Tree
import ShellStyle.Text.Search

/-!
# Finding files by pattern

A pattern has components with slashes between them. In a component a star stands for any characters,
a question mark for one, and brackets for one of the characters and ranges in them, or for any other
if they begin with an exclamation mark. The component of two stars stands for any directories; no
other component may hold two stars in a row. Links to directories are not searched.
-/

namespace ShellStyle.Glob

open Text

/-- One item of a component. -/
inductive Item where
  | star
  | any
  | one (c : Char)
  | oneOf (isNegated : Bool) (ranges : List (Char × Char))
  deriving DecidableEq, Repr

/-- Whether an item stands for a character. -/
def Item.accepts (item : Item) (c : Char) : Bool :=
  match item with
  | .star => true
  | .any => true
  | .one d => c == d
  | .oneOf isNegated ranges =>
    isNegated != ranges.any fun (first, last) => first ≤ c && c ≤ last

/-- A text and all its ends. -/
def suffixes : Text → List Text
  | [] => [[]]
  | c :: t => (c :: t) :: suffixes t

/-- Whether items stand for a text. -/
def matchesItems : List Item → Text → Bool
  | [], t => t.isEmpty
  | .star :: rest, t => (suffixes t).any (matchesItems rest)
  | item :: rest, c :: t => item.accepts c && matchesItems rest t
  | _ :: _, [] => false

/-- The pieces of a bracket between the hyphens that make ranges. The first and the second character
of a piece make none, and neither does a hyphen at the end. -/
def rangePieces (piece : Text) (skip : Nat) : Text → List Text
  | [] => [piece.reverse]
  | c :: t =>
    match skip with
    | k + 1 => rangePieces (c :: piece) k t
    | 0 =>
      if c = '-' then
        if t.isEmpty then [('-' :: piece).reverse] else piece.reverse :: rangePieces [] 2 t
      else rangePieces (c :: piece) 0 t

/-- Joins pieces whose range would be empty, and drops its ends. -/
def joinPieces : List Text → List Text
  | [] => []
  | piece :: rest =>
    match piece.getLast?, joinPieces rest with
    | some low, (high :: more) :: others =>
      if high < low then (piece.dropLast ++ more) :: others
      else piece :: (high :: more) :: others
    | _, others => piece :: others

/-- The ranges of pieces: one from the end of each piece to the beginning of the next, and one for
each other character. -/
def rangesOf : List Text → List (Char × Char)
  | [] => []
  | [piece] => piece.map fun c => (c, c)
  | piece :: next :: rest =>
    (match piece.getLast?, next.head? with
      | some low, some high => [(low, high)]
      | _, _ => []) ++ piece.map (fun c => (c, c)) ++ rangesOf (next :: rest)

/-- The item that the inside of a bracket stands for. -/
def bracketItem (inside : Text) : Item :=
  let isNegated := inside.head? = some '!'
  let pieces := joinPieces (rangePieces [] (if isNegated then 2 else 1) inside)
  match pieces with
  | ('!' :: piece) :: rest => .oneOf true (rangesOf (piece :: rest))
  | _ => .oneOf false (rangesOf pieces)

/-- The inside of a bracket: the text up to the closing bracket, which cannot come first. -/
def bracketInside? (t : Text) : Option Text :=
  let lead := match t with
    | '!' :: ']' :: _ => 2
    | '!' :: _ => 1
    | ']' :: _ => 1
    | _ => 0
  let rest := (t.drop lead).takeWhile (· ≠ ']')
  if (t.drop lead).elem ']' then some (t.take lead ++ rest) else none

/-- The items of a component, where the next `skip` characters belong to a bracket. -/
def itemsFrom (skip : Nat) : Text → List Item
  | [] => []
  | c :: t =>
    match skip with
    | k + 1 => itemsFrom k t
    | 0 =>
      if c = '*' then .star :: itemsFrom 0 t
      else if c = '?' then .any :: itemsFrom 0 t
      else if c = '[' then
        match bracketInside? t with
        | some inside => bracketItem inside :: itemsFrom (inside.length + 1) t
        | none => .one '[' :: itemsFrom 0 t
      else .one c :: itemsFrom 0 t

/-- One component of a pattern. -/
inductive Step where
  /-- Any directories. -/
  | deep
  /-- A name as it is written. -/
  | named (name : Text)
  /-- The names that items stand for. -/
  | matching (items : List Item)
  /-- The end of a pattern for directories. -/
  | stop
  deriving DecidableEq, Repr

/-- A component with two stars in a row that has other characters as well. -/
inductive PatternError where
  | doubleStar
  deriving DecidableEq, Repr

/-- The wording of the error. -/
def PatternError.message : PatternError → String
  | doubleStar => "Invalid pattern: '**' can only be an entire path component"

/-- Reads one component. -/
def step (part : Text) : Except PatternError Step :=
  if part.isEmpty then .ok .stop
  else if part = ['*', '*'] then .ok .deep
  else if contains ['*', '*'] part then .error .doubleStar
  else if part.any fun c => c == '*' || c == '?' || c == '[' then
    .ok (.matching (itemsFrom 0 part))
  else .ok (.named part)

/-- Reads the components of a pattern. -/
def steps (pattern : Text) : Except PatternError (List Step) :=
  let parts := (splitAt '/' pattern).filter Path.isStep
  let parts := if endsWith ['/'] pattern then parts ++ [[]] else parts
  parts.mapM step

/-- A directory and all directories below it. -/
def directoriesBelow (t : Tree) (p : Path) : List Path :=
  match t.directory? p with
  | none => []
  | some l => p :: t.filterMap fun (here, e) =>
      if e = .directory then
        (Tree.namesBelow? l here).map fun names => ⟨p.anchor, p.parts ++ names⟩
      else none

/-- The paths below `p` that steps lead to. -/
def select (t : Tree) : List Step → Path → List Path
  | [], p => [p]
  | .stop :: _, p => [p]
  | .deep :: rest, p => ((directoriesBelow t p).flatMap (select t rest)).eraseDups
  | .named name :: rest, p =>
    let q := p.child name
    if (if rest.isEmpty then t.has q else t.isDirectory q) then select t rest q else []
  | .matching items :: rest, p =>
    match t.directory? p with
    | none => []
    | some l => (t.children l).flatMap fun (name, _) =>
        let q := p.child name
        if matchesItems items name && (rest.isEmpty || t.isDirectory q) then select t rest q
        else []

/-- The paths below a directory that match a pattern. -/
def pathsBelow (t : Tree) (pattern : Text) (p : Path) : Except PatternError (List Path) :=
  (steps pattern).map fun pattern => select t (.deep :: pattern) p

/-- The files among paths, by their components in order; links are none of them. -/
def filesAmong (t : Tree) (paths : List Path) : List Path :=
  (paths.filter fun q => t.isFile q && !t.isLink q).mergeSort fun a b =>
    Path.partsPrecede a.parts b.parts

end ShellStyle.Glob
