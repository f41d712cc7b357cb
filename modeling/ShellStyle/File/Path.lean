import ShellStyle.Machine
import ShellStyle.Text.Search

/-!
# Paths

A path is written as components with slashes between them. Empty components and single dots lead
nowhere and are dropped; double dots stay, because what they lead to depends on the links before
them. The path without any component is shown as a single dot.
-/

namespace ShellStyle

/-- A path: the slashes it begins with, if it is absolute, and its components. -/
structure Path where
  anchor : Text
  parts : List Text
  deriving DecidableEq, Repr

namespace Path

/-- The slashes that make a path absolute: two if it begins with exactly two, otherwise one. -/
def anchorOf (t : Text) : Text :=
  match t.takeWhile (· = '/') with
  | [] => []
  | [_, _] => ['/', '/']
  | _ => ['/']

/-- Whether a component leads somewhere. -/
def isStep (part : Text) : Bool :=
  !part.isEmpty && part != ['.']

/-- The path that a text writes. -/
def ofText (t : Text) : Path :=
  ⟨anchorOf t, (Text.splitAt '/' t).filter isStep⟩

/-- A path as it is shown. -/
def text (p : Path) : Text :=
  if p.anchor.isEmpty && p.parts.isEmpty then ['.']
  else p.anchor ++ Text.joinWith ['/'] p.parts

/-- A path as it is shown, as a string. -/
def display (p : Path) : String :=
  String.ofList p.text

/-- The directory that a path lies in. -/
def parent (p : Path) : Path :=
  ⟨p.anchor, p.parts.dropLast⟩

/-- The last component. -/
def name (p : Path) : Text :=
  p.parts.getLast?.getD []

/-- The path one component further. -/
def child (p : Path) (name : Text) : Path :=
  ⟨p.anchor, p.parts ++ [name]⟩

/-- The components that are left if double dots take back the component before them; `kept` are
those so far, the last one first. Nothing lies above the root. -/
def collapse (isRooted : Bool) (kept : List Text) : List Text → List Text
  | [] => kept.reverse
  | part :: rest =>
    if part ≠ ['.', '.'] then collapse isRooted (part :: kept) rest
    else match kept with
      | [] => collapse isRooted (if isRooted then [] else [part]) rest
      | last :: others =>
        collapse isRooted (if last = ['.', '.'] then part :: kept else others) rest

/-- The path without double dots, as far as they can be taken back without looking at links. -/
def collapsed (p : Path) : Path :=
  ⟨p.anchor, collapse (!p.anchor.isEmpty) [] p.parts⟩

/-- The path from the root on. -/
def absolute [Machine] (p : Path) : Path :=
  collapsed (if p.anchor.isEmpty then ⟨['/'], Machine.workingDirectory ++ p.parts⟩ else p)

/-- Whether a null character stands in a text; no file has such a name. -/
def hasNull (t : Text) : Bool :=
  t.elem (Char.ofNat 0)

/-- Whether a text can only lead to a directory: it ends in a slash, or in a slash and a dot. -/
def endsInDirectory (t : Text) : Bool :=
  match (Text.splitAt '/' t).reverse with
  | last :: _ :: _ => !isStep last
  | _ => false

end Path

/-- The order of texts by their characters. -/
def Text.precedes : Text → Text → Bool
  | [], _ => true
  | _ :: _, [] => false
  | a :: s, b :: t => a < b || (a == b && Text.precedes s t)

/-- The order of paths by their components. -/
def Path.partsPrecede : List Text → List Text → Bool
  | [], _ => true
  | _ :: _, [] => false
  | a :: s, b :: t => if a = b then Path.partsPrecede s t else Text.precedes a b

end ShellStyle
