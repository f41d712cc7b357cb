import ShellStyle.File.Path

/-!
# Trees of files

A tree is a finite map from locations to files, directories and links. A location is the list of
names that leads to an entry from the working directory; those of absolute paths begin with a slash.
Looking a path up follows links, at most forty of them, and says what is wrong with a path that
leads nowhere. Names and paths beyond a fixed number of bytes are not looked up. A directory's
parent is the location without its last name; the directories above the working directory are named
by double dots.
-/

namespace ShellStyle

/-- The names that lead to an entry. -/
abbrev Location :=
  List Text

/-- What stands at a location. -/
inductive Entry where
  | file (bytes : List UInt8) (mode : Nat)
  | directory
  | link (target : Text)
  deriving DecidableEq, Repr

/-- The entries of a file system; the first one of a location counts. -/
abbrev Tree :=
  List (Location × Entry)

/-- The outcome of following a path. -/
inductive Lookup where
  /-- The path leads to a file or a directory. -/
  | found (location : Location) (entry : Entry)
  /-- Only the last component is missing. -/
  | missing (location : Location)
  /-- A component before the last is missing. -/
  | noParent
  /-- A component before the last is a file. -/
  | notDirectory
  /-- Links lead to links without an end. -/
  | tooManyLinks
  /-- The path, or a name that is reached, is too long. -/
  | nameTooLong
  deriving DecidableEq, Repr

namespace Tree

/-- The location where absolute paths begin. -/
def rootLocation : Location :=
  [['/']]

/-- The location where a path begins. -/
def startOf (anchor : Text) (base : Location) : Location :=
  if anchor.isEmpty then base else rootLocation

/-- Whether a location is the working directory or a directory above it. -/
def isAncestor (l : Location) : Bool :=
  l.all fun name => name = ['.', '.']

/-- The location of the directory above. -/
def above (l : Location) : Location :=
  if l = rootLocation then l
  else if isAncestor l then l ++ [['.', '.']]
  else l.dropLast

/-- The entry at a location; paths begin at directories. -/
def entry? (t : Tree) (l : Location) : Option Entry :=
  if isAncestor l ∨ l = rootLocation then some .directory else t.lookup l

/-- Takes the entry at a location away. -/
def erase (t : Tree) (l : Location) : Tree :=
  t.filter fun e => e.1 != l

/-- Puts an entry at a location. -/
def set (t : Tree) (l : Location) (e : Entry) : Tree :=
  (l, e) :: t.erase l

/-- The most bytes of a name. -/
def nameLimit : Nat :=
  255

/-- The most bytes of a path. -/
def pathLimit : Nat :=
  4095

/-- The number of bytes that a text is stored in. -/
def byteLength (t : Text) : Nat :=
  t.foldl (fun n c => n + c.utf8Size) 0

/-- Follows components from a directory on; `follow` goes on behind a link. -/
def walkWith (t : Tree) (follow : Location → List Text → Lookup) :
    Location → List Text → Lookup
  | base, [] => .found base .directory
  | base, name :: rest =>
    if name = ['.', '.'] then walkWith t follow (above base) rest
    else if nameLimit < byteLength name then .nameTooLong
    else
      let here := base ++ [name]
      match t.entry? here with
      | none => if rest.isEmpty then .missing here else .noParent
      | some .directory => walkWith t follow here rest
      | some (.link target) =>
        let p := Path.ofText target
        follow (startOf p.anchor base) (p.parts ++ rest)
      | some (.file bytes mode) =>
        if rest.isEmpty then .found here (.file bytes mode) else .notDirectory

/-- Follows components from a directory on, and at most `links` links. -/
def walk (t : Tree) : Nat → Location → List Text → Lookup
  | 0 => walkWith t fun _ _ => .tooManyLinks
  | links + 1 => walkWith t (walk t links)

/-- The most links that are followed on the way to an entry. -/
def maxLinks : Nat :=
  40

/-- Follows a path. One with a null character in it leads nowhere. -/
def find (t : Tree) (p : Path) : Lookup :=
  if Path.hasNull p.text then .noParent
  else if pathLimit < byteLength p.text then .nameTooLong
  else walk t maxLinks (startOf p.anchor []) p.parts

/-- Whether a path leads to something. -/
def has (t : Tree) (p : Path) : Bool :=
  match t.find p with
  | .found _ _ => true
  | _ => false

/-- The bytes and the mode of the file that a path leads to. -/
def file? (t : Tree) (p : Path) : Option (List UInt8 × Nat) :=
  match t.find p with
  | .found _ (.file bytes mode) => some (bytes, mode)
  | _ => none

/-- Whether a path leads to a file. -/
def isFile (t : Tree) (p : Path) : Bool :=
  (t.file? p).isSome

/-- The location of the directory that a path leads to. -/
def directory? (t : Tree) (p : Path) : Option Location :=
  match t.find p with
  | .found l .directory => some l
  | _ => none

/-- Whether a path leads to a directory. -/
def isDirectory (t : Tree) (p : Path) : Bool :=
  (t.directory? p).isSome

/-- The location that a path names: links are followed up to its last component only. -/
def location? (t : Tree) (p : Path) : Option Location :=
  (t.directory? p.parent).map (· ++ [p.name])

/-- Whether a path names a link. -/
def isLink (t : Tree) (p : Path) : Bool :=
  match (t.location? p).bind t.entry? with
  | some (.link _) => true
  | _ => false

/-- Makes directories of the names that lead on from a location. -/
def addDirectories (t : Tree) (base : Location) : List Text → Tree
  | [] => t
  | name :: rest =>
    let here := base ++ [name]
    let t := if (t.entry? here).isSome then t else t.set here .directory
    addDirectories t here rest

/-- Puts an entry at a path, with the directories that lead to it. -/
def add (t : Tree) (p : Path) (e : Entry) : Tree :=
  let base := startOf p.anchor []
  match e with
  | .directory => t.addDirectories base p.parts
  | _ => (t.addDirectories base p.parts.dropLast).set (base ++ p.parts) e

/-- The names in a directory, with their entries. -/
def children (t : Tree) (l : Location) : List (Text × Entry) :=
  t.filterMap fun (here, e) =>
    match here.getLast? with
    | some name => if here.dropLast = l then some (name, e) else none
    | none => none

/-- The names that lead from a directory down to a location below it. Double dots lead up, and a
slash elsewhere. -/
def namesBelow? : Location → Location → Option (List Text)
  | [], [] => none
  | [], name :: rest =>
    if name = ['.', '.'] ∨ name = ['/'] then none else some (name :: rest)
  | _ :: _, [] => none
  | name :: l, other :: here => if name = other then namesBelow? l here else none

/-- A location as a path. -/
def pathOf : Location → Path
  | ['/'] :: parts => ⟨['/'], parts⟩
  | parts => ⟨[], parts⟩

/-- The files and the links that lead to no directory, by their paths in order. -/
def listing (t : Tree) : List (Text × Entry) :=
  let shown := t.filterMap fun (l, e) =>
    let p := pathOf l
    match e with
    | .directory => none
    | .link _ => if t.isDirectory p then none else some (p.text, e)
    | .file _ _ => some (p.text, e)
  shown.mergeSort fun a b => Text.precedes a.1 b.1

/-- The length of the longest name that a location of the tree ends in. -/
def longestName (t : Tree) : Nat :=
  t.foldr (fun e n => max (e.1.getLast?.getD []).length n) 0

/-- A name that no location of the tree ends in. -/
def freshName (t : Tree) (name : Text) : Text :=
  '.' :: name ++ '.' :: List.replicate t.longestName '0' ++ ".cleansh.tmp".toList

end Tree

end ShellStyle
