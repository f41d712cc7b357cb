import ShellStyle.Yaml.BlockText

/-!
# Tags and directives

A tag says what a node stands for. It is written out between angle brackets, or as a handle with a
suffix, where directives at the start of a document may say what a handle stands for. A tag that is
only an exclamation mark asks for what the node would stand for without quotes.
-/

namespace ShellStyle.Yaml

/-- What a directive says. -/
inductive Directive where
  | version (major minor : Nat)
  | handle (name uri : Text)
  | other
  deriving DecidableEq, Repr

/-- An ASCII letter or digit. -/
def isAlphanumeric (c : Char) : Bool :=
  'a' ≤ c && c ≤ 'z' || 'A' ≤ c && c ≤ 'Z' || '0' ≤ c && c ≤ '9'

/-- A character of the name of a handle. -/
def isHandleChar (c : Char) : Bool :=
  isAlphanumeric c || c == '-' || c == '_'

/-- A character of a tag written out. -/
def isUriChar (c : Char) : Bool :=
  isAlphanumeric c || "-;/?:@&=+$,_.!~*'()[]%#".toList.elem c

/-- A character that ends a word of a directive or a tag. -/
def isWordEnd (c : Char) : Bool :=
  c == ' ' || isLineEnd c || isBreak c

/-- The characters of a class here, of which there is at least one. -/
def readSome (isIn : Char → Bool) (c : Cursor) : Option (Text × Cursor) :=
  let word := c.rest.takeWhile isIn
  if word.isEmpty then none else some (word, c.advanceBy word.length)

/-- Past one certain character. -/
def skipChar (ch : Char) (c : Cursor) : Option Cursor :=
  if c.peek = ch then some c.advance else none

/-- The handle that begins here: exclamation marks around a name, or one alone before a blank. -/
def readHandle (c : Cursor) : Option (Text × Cursor) := do
  let c ← skipChar '!' c
  if c.peek = ' ' then return (['!'], c)
  else
    let name := c.rest.takeWhile isHandleChar
    let c ← skipChar '!' (c.advanceBy name.length)
    return (['!'] ++ name ++ ['!'], c)

/-- The tag that begins here: its handle, none for a tag written out, and its suffix. -/
def readTag (c : Cursor) : Option (Option Text × Text × Cursor) := do
  let double := c.peekAt 1 == '!'
  let body := c.advanceBy (if double then 2 else 1)
  let (handle, suffix, c) ←
    if body.peek = '<' then do
      let (uri, c) ← readSome isUriChar body.advance
      let c ← skipChar '>' c
      some (none, uri, c)
    else if isGap body.peek then some (none, ['!'], body)
    else if (body.rest.takeWhile fun ch => !isWordEnd ch).elem '!' then do
      let (handle, c) ← readHandle (c.advanceBy (if double then 1 else 0))
      let (suffix, c) ← readSome isUriChar c
      some (some handle, suffix, c)
    else do
      let (suffix, c) ← readSome isUriChar body
      some (some (if double then ['!', '!'] else ['!']), suffix, c)
  if isWordEnd c.peek then return (handle, suffix, c) else none

/-- The number that begins here. -/
def readNumber (c : Cursor) : Option (Nat × Cursor) :=
  let isDigit := fun ch : Char => '0' ≤ ch && ch ≤ '9'
  (readSome isDigit c).map fun (digits, c) =>
    (digits.foldl (fun n ch => 10 * n + (ch.toNat - 0x30)) 0, c)

/-- The directive that begins here, up to the end of its line. -/
def readDirective (c : Cursor) : Option (Directive × Cursor) := do
  let isNameChar := fun ch => isHandleChar ch || ch == ':' || ch == '.'
  let (name, c) ← readSome isNameChar c.advance
  if !isWordEnd c.peek then none
  else
    let body := c.skipWhile (· == ' ')
    let (directive, c) ←
      if name = "YAML".toList then do
        let (major, c) ← readNumber body
        let (minor, c) ← readNumber (← skipChar '.' c)
        some (.version major minor, c)
      else if name = "TAG".toList then do
        let (handle, c) ← readHandle body
        let c ← skipChar ' ' c
        let (uri, c) ← readSome isUriChar (c.skipWhile (· == ' '))
        some (.handle handle uri, c)
      else some (.other, c.skipWhile fun ch => !isLineEnd ch)
    if isWordEnd c.peek then return (directive, ← skipLineRest c) else none

/-- What handles stand for. -/
abbrev Handles :=
  List (Text × Text)

/-- The beginning of the tags that are known. -/
def knownTags : Text :=
  "tag:yaml.org,2002:".toList

/-- The handles that need no directive. -/
def Handles.default : Handles :=
  [(['!'], ['!']), (['!', '!'], knownTags)]

/-- The handles that directives declare; none may come twice, and neither may a version, which is 1
in any minor version. -/
def Handles.ofDirectives (versioned : Bool) (declared : Handles) : List Directive → Option Handles
  | [] => some (declared ++ Handles.default)
  | .version major _ :: rest =>
    if versioned || major != 1 then none else ofDirectives true declared rest
  | .handle name uri :: rest =>
    if (declared.lookup name).isSome then none
    else ofDirectives versioned ((name, uri) :: declared) rest
  | .other :: rest => ofDirectives versioned declared rest

end ShellStyle.Yaml
