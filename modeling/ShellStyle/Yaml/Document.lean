import ShellStyle.Library
import ShellStyle.Yaml.Node
import ShellStyle.Yaml.Scalar

/-!
# Reading a YAML document

The node of a document becomes a value. Anchors are remembered from where they stand on; a reference
to an unknown one is an error, and so is a key that a mapping has twice. The key `<<` takes in the
entries of other mappings, which give way to the mapping's own.
-/

namespace ShellStyle.Yaml

open Text

/-- A character that may stand in a YAML text. -/
def isAllowed (c : Char) : Bool :=
  let n := c.toNat
  n == 0x09 || n == 0x0a || n == 0x0d || (0x20 ≤ n && n ≤ 0x7e) || n == 0x85 ||
    (0xa0 ≤ n && n ≤ 0xd7ff) || (0xe000 ≤ n && n ≤ 0xfffd) || 0x10000 ≤ n

/-- The value of a number as an integer times a power of two, if it has one. -/
def numeric? : Value → Option (Int × Int)
  | .bool b => some (if b then 1 else 0, 0)
  | .int n => some (n, 0)
  | .float (.finite negative mantissa exponent) =>
    some (if negative then -(mantissa : Int) else mantissa, exponent)
  | _ => none

/-- Whether two keys are the same: numbers by what they denote, other keys by what they are. -/
def isSameKey (a b : Value) : Bool :=
  match numeric? a, numeric? b with
  | some (m, e), some (n, f) =>
    if e ≤ f then m == n * (Nat.pow 2 (f - e).toNat : Nat)
    else m * (Nat.pow 2 (e - f).toNat : Nat) == n
  | none, none =>
    match a, b with
    | .null, .null => true
    | .text s, .text t => s == t
    | .date _ _ _, .date _ _ _ => a.display == b.display
    | .float (.infinite m), .float (.infinite n) => m == n
    | .seq _, .seq _ => a.nested == b.nested
    | _, _ => false
  | _, _ => false

/-- Whether a value can be a key: a mapping cannot, and neither can a sequence of sequences or
mappings. -/
def checkKey : Value → Except LoadError Unit
  | .map _ => .error .malformed
  | .seq items => items.forM fun item =>
    match item with
    | .seq _ => .error (.value (.notKey "list"))
    | .map _ => .error (.value (.notKey "dict"))
    | _ => .ok ()
  | _ => .ok ()

/-- Whether a key comes twice. -/
def hasDuplicates : List (Value × Value) → Bool
  | [] => false
  | (k, _) :: rest => rest.any (fun (other, _) => isSameKey k other) || hasDuplicates rest

/-- Gives a key a value, in the place it has or at the end. -/
def setEntry (key value : Value) : List (Value × Value) → List (Value × Value)
  | [] => [(key, value)]
  | (k, v) :: rest =>
    if isSameKey k key then (k, value) :: rest else (k, v) :: setEntry key value rest

/-- The entries that the key `<<` takes in, from a mapping or from several, the first of which
counts. -/
def mergedEntries : Value → Except LoadError (List (Value × Value))
  | .map entries => .ok entries
  | .seq items => items.reverse.foldlM (fun merged item =>
      match item with
      | .map entries => .ok (merged ++ entries)
      | _ => .error .malformed) []
  | _ => .error .malformed

/-- What a plain scalar stands for; two signs mean something only as keys. -/
def untaggedValue (t : Text) : Except LoadError Value :=
  if t = ['='] ∨ t = ['<', '<'] then .error .malformed else (plainValue t).mapError .value

/-- What a scalar stands for under a tag. -/
def taggedValue (uri t : Text) : Except LoadError Value :=
  if uri = ['!'] then untaggedValue t
  else if uri = knownTags ++ "str".toList then .ok (.text (String.ofList t))
  else if uri = knownTags ++ "null".toList then .ok .null
  else if uri = knownTags ++ "bool".toList then ((readTruth t).map .bool).mapError .value
  else if uri = knownTags ++ "int".toList then ((readInteger t).map .int).mapError .value
  else if uri = knownTags ++ "float".toList then ((readFloat t).map .float).mapError .value
  else .error .malformed

/-- Whether a tag asks for a sequence. -/
def isSequenceTag (uri : Text) : Bool :=
  uri == ['!'] || uri == knownTags ++ "seq".toList

/-- Whether a tag asks for a mapping. -/
def isMappingTag (uri : Text) : Bool :=
  uri == ['!'] || uri == knownTags ++ "map".toList

/-- The mapping with the entries it takes in and its own, none of which may come twice if none is
taken in. -/
def joinEntries (merged own : List (Value × Value)) : Except LoadError Value :=
  if merged.isEmpty then
    if hasDuplicates own then .error .malformed else .ok (.map own)
  else .ok (.map ((merged ++ own).foldl (fun es (k, v) => setEntry k v es) []))

/-- The anchors seen so far, the latest first. -/
abbrev Anchors :=
  List (Text × Value)

mutual

/-- The value of a node, and the anchors behind it. -/
def Node.value (anchors : Anchors) : Node → Except LoadError (Value × Anchors)
  | .scalar text isPlain => do
    let v ← if isPlain then untaggedValue text else .ok (.text (String.ofList text))
    return (v, anchors)
  | .reference name =>
    match anchors.lookup name with
    | some v => .ok (v, anchors)
    | none => .error .malformed
  | .anchored name node => do
    let (v, anchors) ← node.value anchors
    return (v, (name, v) :: anchors)
  | .tagged uri (.scalar text _) => do return (← taggedValue uri text, anchors)
  | .tagged uri (.seq items) =>
    if isSequenceTag uri then do
      let (vs, anchors) ← itemValues anchors items
      return (.seq vs, anchors)
    else .error .malformed
  | .tagged uri (.map entries) =>
    if isMappingTag uri then do
      let (merged, own, anchors) ← entryValues anchors [] [] entries
      return (← joinEntries merged own, anchors)
    else .error .malformed
  | .tagged _ _ => .error .malformed
  | .seq items => do
    let (vs, anchors) ← itemValues anchors items
    return (.seq vs, anchors)
  | .map entries => do
    let (merged, own, anchors) ← entryValues anchors [] [] entries
    return (← joinEntries merged own, anchors)

/-- The values of the items of a sequence. -/
def itemValues (anchors : Anchors) : List Node → Except LoadError (List Value × Anchors)
  | [] => .ok ([], anchors)
  | node :: rest => do
    let (v, anchors) ← node.value anchors
    let (vs, anchors) ← itemValues anchors rest
    return (v :: vs, anchors)

/-- The entries that a mapping takes in, and its own; `merged` and `own` are those before, the
latter in reverse. -/
def entryValues (anchors : Anchors) (merged own : List (Value × Value)) :
    List (Node × Node) →
      Except LoadError (List (Value × Value) × List (Value × Value) × Anchors)
  | [] => .ok (merged, own.reverse, anchors)
  | (key, node) :: rest => do
    let (k, anchors) ← keyValue anchors key
    let (v, anchors) ← node.value anchors
    match k with
    | some k => entryValues anchors merged ((k, v) :: own) rest
    | none =>
      if merged.isEmpty then do
        let entries ← mergedEntries v
        entryValues anchors entries own rest
      else .error .malformed

/-- The value of a key; nothing for the key `<<`. -/
def keyValue (anchors : Anchors) (key : Node) : Except LoadError (Option Value × Anchors) :=
  match key with
  | .scalar ['<', '<'] true => .ok (none, anchors)
  | .scalar ['='] true => .ok (some (.text "="), anchors)
  | node => do
    let (v, anchors) ← node.value anchors
    checkKey v
    return (some v, anchors)

end

/-- Line ends of any kind as line feeds. -/
def unifyLineEnds : Text → Text
  | [] => []
  | '\r' :: '\n' :: t => '\n' :: unifyLineEnds t
  | '\r' :: t => '\n' :: unifyLineEnds t
  | c :: t => c :: unifyLineEnds t

/-- The value of a YAML text; an empty text is nothing. -/
def read (t : Text) : Except LoadError Value :=
  let t := unifyLineEnds t
  if t.all isAllowed then
    match (tokens? t).bind Node.ofTokens? with
    | none => .error .malformed
    | some none => .ok .null
    | some (some node) => (node.value []).map Prod.fst
  else .error .malformed

end ShellStyle.Yaml

namespace ShellStyle

/-- A configuration is written in YAML. -/
instance Loader.yaml : Loader where
  load := Yaml.read

end ShellStyle
