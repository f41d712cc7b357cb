import ShellStyle.Yaml.Token

/-!
# YAML nodes

The tokens of a document form one node: a scalar, a sequence or a mapping, in block or in flow
style, possibly with an anchor and a tag, or a reference to an anchored node. A place where a node
is left out holds the empty plain scalar.
-/

namespace ShellStyle.Yaml

/-- A node of a document. -/
inductive Node where
  | scalar (text : Text) (isPlain : Bool)
  | seq (items : List Node)
  | map (entries : List (Node × Node))
  | anchored (name : Text) (node : Node)
  | tagged (uri : Text) (node : Node)
  | reference (name : Text)

namespace Node

/-- A node that is left out. -/
def empty : Node :=
  scalar [] true

/-- Whether the next token is none of these. -/
def opensNode (tokens : List Token) (closers : List Token) : Bool :=
  match tokens with
  | [] => false
  | token :: _ => !closers.elem token

/-- Whether the content of a node begins here. -/
def startsContent (inBlock indentless : Bool) : List Token → Bool
  | .entry :: _ => indentless
  | .scalar _ _ :: _ => true
  | .flowSequenceStart :: _ => true
  | .flowMappingStart :: _ => true
  | .sequenceStart :: _ => inBlock
  | .mappingStart :: _ => inBlock
  | _ => false

/-- What stands before the content of a node: an anchor and a tag, in either order. -/
structure Properties where
  anchor : Option Text
  tag : Option Text

namespace Properties

/-- The properties that stand here. -/
def read : List Token → Properties × List Token
  | .anchor name :: .tag _ uri :: rest => (⟨some name, some uri⟩, rest)
  | .tag _ uri :: .anchor name :: rest => (⟨some name, some uri⟩, rest)
  | .anchor name :: rest => (⟨some name, none⟩, rest)
  | .tag _ uri :: rest => (⟨none, some uri⟩, rest)
  | tokens => (⟨none, none⟩, tokens)

/-- Whether nothing stands before the content. -/
def isEmpty (p : Properties) : Bool :=
  p.anchor.isNone && p.tag.isNone

/-- The node with these properties. -/
def apply (p : Properties) (node : Node) : Node :=
  let node := match p.tag with
    | some uri => .tagged uri node
    | none => node
  match p.anchor with
  | some name => .anchored name node
  | none => node

end Properties

mutual

/-- The node that begins here, in block style or only in flow style; a sequence without indentation
of its own may stand where a mapping has its values. -/
def read (fuel : Nat) (inBlock indentless : Bool) (tokens : List Token) :
    Option (Node × List Token) :=
  match fuel with
  | 0 => none
  | fuel + 1 =>
    match tokens with
    | .reference name :: rest => some (.reference name, rest)
    | _ =>
      let (properties, rest) := Properties.read tokens
      if properties.isEmpty || startsContent inBlock indentless rest then
        match readContent fuel inBlock indentless rest with
        | some (node, rest) => some (properties.apply node, rest)
        | none => none
      else some (properties.apply empty, rest)

/-- The content of a node. -/
def readContent (fuel : Nat) (inBlock indentless : Bool) (tokens : List Token) :
    Option (Node × List Token) :=
  match fuel with
  | 0 => none
  | fuel + 1 =>
    match tokens with
    | .entry :: _ => if indentless then readItems fuel false [] tokens else none
    | .scalar text isPlain :: rest => some (.scalar text isPlain, rest)
    | .flowSequenceStart :: rest => readFlowItems fuel [] rest
    | .flowMappingStart :: rest => readFlowEntries fuel [] rest
    | .sequenceStart :: rest => if inBlock then readItems fuel true [] rest else none
    | .mappingStart :: rest => if inBlock then readEntries fuel [] rest else none
    | _ => none

/-- The items of a block sequence; one with indentation of its own ends with a block end. -/
def readItems (fuel : Nat) (indented : Bool) (items : List Node) (tokens : List Token) :
    Option (Node × List Token) :=
  match fuel with
  | 0 => none
  | fuel + 1 =>
    match tokens with
    | .entry :: rest =>
      let closers : List Token :=
        if indented then [.entry, .blockEnd] else [.entry, .key, .value, .blockEnd]
      if opensNode rest closers then
        match read fuel true false rest with
        | some (node, rest) => readItems fuel indented (items ++ [node]) rest
        | none => none
      else readItems fuel indented (items ++ [empty]) rest
    | _ =>
      if indented then
        match tokens with
        | .blockEnd :: rest => some (.seq items, rest)
        | _ => none
      else some (.seq items, tokens)

/-- The entries of a block mapping. -/
def readEntries (fuel : Nat) (entries : List (Node × Node)) (tokens : List Token) :
    Option (Node × List Token) :=
  match fuel with
  | 0 => none
  | fuel + 1 =>
    match tokens with
    | .blockEnd :: rest => some (.map entries, rest)
    | .key :: rest =>
      if opensNode rest [.key, .value, .blockEnd] then
        match read fuel true true rest with
        | some (key, rest) => readEntryValue fuel entries key rest
        | none => none
      else readEntryValue fuel entries empty rest
    | .value :: _ => readEntryValue fuel entries empty tokens
    | _ => none

/-- The value of an entry of a block mapping, and the entries behind it. -/
def readEntryValue (fuel : Nat) (entries : List (Node × Node)) (key : Node) (tokens : List Token) :
    Option (Node × List Token) :=
  match fuel with
  | 0 => none
  | fuel + 1 =>
    match tokens with
    | .value :: rest =>
      if opensNode rest [.key, .value, .blockEnd] then
        match read fuel true true rest with
        | some (node, rest) => readEntries fuel (entries ++ [(key, node)]) rest
        | none => none
      else readEntries fuel (entries ++ [(key, empty)]) rest
    | _ => readEntries fuel (entries ++ [(key, empty)]) tokens

/-- The items of a flow sequence; an entry among them is a mapping of its own. -/
def readFlowItems (fuel : Nat) (items : List Node) (tokens : List Token) :
    Option (Node × List Token) :=
  match fuel with
  | 0 => none
  | fuel + 1 =>
    match tokens with
    | .flowSequenceEnd :: rest => some (.seq items, rest)
    | .key :: rest =>
      match readFlowPart fuel [.value, .flowEntry, .flowSequenceEnd] rest with
      | none => none
      | some (key, .value :: rest) =>
        match readFlowPart fuel [.flowEntry, .flowSequenceEnd] rest with
        | none => none
        | some (node, rest) => readFlowNext fuel true (items ++ [.map [(key, node)]]) [] rest
      | some (key, rest) => readFlowNext fuel true (items ++ [.map [(key, empty)]]) [] rest
    | _ =>
      match read fuel false false tokens with
      | none => none
      | some (node, rest) => readFlowNext fuel true (items ++ [node]) [] rest

/-- The entries of a flow mapping. -/
def readFlowEntries (fuel : Nat) (entries : List (Node × Node)) (tokens : List Token) :
    Option (Node × List Token) :=
  match fuel with
  | 0 => none
  | fuel + 1 =>
    match tokens with
    | .flowMappingEnd :: rest => some (.map entries, rest)
    | .key :: rest =>
      match readFlowPart fuel [.value, .flowEntry, .flowMappingEnd] rest with
      | none => none
      | some (key, rest) => readFlowEntryValue fuel entries key rest
    | .value :: _ => readFlowEntryValue fuel entries empty tokens
    | _ =>
      match read fuel false false tokens with
      | none => none
      | some (key, rest) => readFlowNext fuel false [] (entries ++ [(key, empty)]) rest

/-- The value of an entry of a flow mapping, and the entries behind it. -/
def readFlowEntryValue (fuel : Nat) (entries : List (Node × Node)) (key : Node)
    (tokens : List Token) : Option (Node × List Token) :=
  match fuel with
  | 0 => none
  | fuel + 1 =>
    match tokens with
    | .value :: rest =>
      match readFlowPart fuel [.flowEntry, .flowMappingEnd] rest with
      | none => none
      | some (node, rest) => readFlowNext fuel false [] (entries ++ [(key, node)]) rest
    | _ => readFlowNext fuel false [] (entries ++ [(key, empty)]) tokens

/-- A node between flow brackets that may be left out. -/
def readFlowPart (fuel : Nat) (closers : List Token) (tokens : List Token) :
    Option (Node × List Token) :=
  match fuel with
  | 0 => none
  | fuel + 1 =>
    if opensNode tokens closers then read fuel false false tokens else some (empty, tokens)

/-- What follows an item or an entry between flow brackets: a comma and more, or the closing
bracket. -/
def readFlowNext (fuel : Nat) (inSequence : Bool) (items : List Node)
    (entries : List (Node × Node)) (tokens : List Token) : Option (Node × List Token) :=
  match fuel with
  | 0 => none
  | fuel + 1 =>
    if inSequence then
      match tokens with
      | .flowEntry :: rest => readFlowItems fuel items rest
      | .flowSequenceEnd :: rest => some (.seq items, rest)
      | _ => none
    else
      match tokens with
      | .flowEntry :: rest => readFlowEntries fuel entries rest
      | .flowMappingEnd :: rest => some (.map entries, rest)
      | _ => none

end

/-- The node of a document, whose tokens end at a separator; a document may be empty. -/
def readDocument : List Token → Option (Node × List Token)
  | [] => some (empty, [])
  | .directive d :: rest => some (empty, .directive d :: rest)
  | .documentStart :: rest => some (empty, .documentStart :: rest)
  | .documentEnd :: rest => some (empty, .documentEnd :: rest)
  | tokens => read (6 * tokens.length + 6) true false tokens

/-- The token with its tag written out. -/
def writeOut (handles : Handles) : Token → Option Token
  | .tag (some handle) suffix => (handles.lookup handle).map fun uri => .tag none (uri ++ suffix)
  | token => some token

/-- The directives at the start of tokens, and the tokens behind them. -/
def splitDirectives : List Token → List Directive × List Token
  | .directive d :: rest =>
    let (ds, rest) := splitDirectives rest
    (d :: ds, rest)
  | tokens => ([], tokens)

/-- The one document of a stream of tokens, or nothing if there is none; directives need a document
start behind them, and one document end may follow. -/
def ofTokens? (tokens : List Token) : Option (Option Node) := do
  let (directives, rest) := splitDirectives tokens
  let handles ← Handles.ofDirectives false [] directives
  match directives, rest with
  | [], [] => return none
  | _, _ =>
    let rest ← rest.mapM (writeOut handles)
    let (node, rest) ← match directives, rest with
      | _, .documentStart :: rest => readDocument rest
      | [], _ => read (6 * rest.length + 6) true false rest
      | _, _ => none
    if rest.isEmpty || rest == [.documentEnd] then return some node else none

end Node

end ShellStyle.Yaml
