import ShellStyle.Literal.Node
import ShellStyle.Literal.Token

/-!
# Expressions

Tokens are read as one expression. A text that cannot be read is gone through a second time,
thoroughly, to find out what is wrong with it. Brackets that are not closed and tokens that cannot
be read are noticed as soon as the reading gets there; a token that cannot be read is told of in any
case.
-/

namespace ShellStyle.Literal

open Text

/-- Why an expression cannot be read: it does not fit here, or it is certain what is wrong. -/
inductive Refusal where
  | mismatch
  | certain (message : String)
  deriving DecidableEq, Repr

/-- How a reading goes: how the tokens end, and whether it looks for what is wrong. -/
structure Mode where
  ending : Ending
  isThorough : Bool

/-- The same reading without looking for what is wrong. -/
def Mode.quick (m : Mode) : Mode :=
  ⟨m.ending, false⟩

/-- What was read: an expression, whether it is an arithmetic one, and the tokens behind it. -/
structure Parsed where
  node : Node
  isArithmetic : Bool
  rest : List Placed

/-- The next token, if the tokens do not end here. -/
def peek (m : Mode) : List Placed → Except Refusal (Option Token)
  | placed :: _ => .ok (some placed.token)
  | [] =>
    match m.ending with
    | .finished => .ok none
    | .unclosed opening =>
      .error (.certain ("'" ++ String.singleton opening ++ "' was never closed"))
    | .faulty message _ => .error (.certain message)

/-- Keywords, which are no names. -/
def keywords : List Text :=
  ["False".toList, "None".toList, "True".toList, "and".toList, "as".toList, "assert".toList,
    "async".toList, "await".toList, "break".toList, "class".toList, "continue".toList,
    "def".toList, "del".toList, "elif".toList, "else".toList, "except".toList, "finally".toList,
    "for".toList, "from".toList, "global".toList, "if".toList, "import".toList, "in".toList,
    "is".toList, "lambda".toList, "nonlocal".toList, "not".toList, "or".toList, "pass".toList,
    "raise".toList, "return".toList, "try".toList, "while".toList, "with".toList, "yield".toList]

/-- Names that are keywords elsewhere. -/
def softKeywords : List Text :=
  ["_".toList, "case".toList, "match".toList]

/-- Names of commands that once needed no parentheses. -/
def formerCommands : List Text :=
  ["print".toList, "exec".toList]

/-- A mark. -/
def mark (s : String) : Token :=
  .mark s.toList

/-- A keyword. -/
def word (s : String) : Token :=
  .name s.toList

/-- Marks between the operands of arithmetic. -/
def arithmeticMarks : List Token :=
  ["|", "^", "&", "<<", ">>", "+", "-", "*", "/", "//", "%", "@"].map mark

/-- Marks of comparisons. -/
def comparisonMarks : List Token :=
  ["==", "!=", "<", "<=", ">", ">="].map mark

/-- The number of tokens of the comparison that tokens begin with. -/
def comparisonLength (ts : List Placed) : Nat :=
  match ts.map Placed.token with
  | t :: u :: _ =>
    if comparisonMarks.elem t || t = word "in" then 1
    else if t = word "not" && u = word "in" then 2
    else if t = word "is" then if u = word "not" then 2 else 1
    else 0
  | [t] => if comparisonMarks.elem t || t = word "in" || t = word "is" then 1 else 0
  | [] => 0

/-- Whether the next token is the given one. -/
def isNext (m : Mode) (t : Token) (ts : List Placed) : Except Refusal Bool :=
  (peek m ts).map fun next => next == some t

/-- The tokens behind the given one, which must come next. -/
def expect (m : Mode) (t : Token) (ts : List Placed) : Except Refusal (List Placed) := do
  if ← isNext m t ts then return ts.tail else .error .mismatch

/-- The result of a reading that may not fit: then there is none. -/
def attempt {α : Type} (r : Except Refusal α) : Except Refusal (Option α) :=
  match r with
  | .ok a => .ok (some a)
  | .error .mismatch => .ok none
  | .error e => .error e

/-- Whether tokens begin with a name and a string. -/
def startsWithNameAndString : List Placed → Bool
  | ⟨.name t, _⟩ :: ⟨.string _, _⟩ :: _ => !keywords.elem t
  | _ => false

/-- Whether tokens begin with a name that is a keyword elsewhere. -/
def startsWithSoftKeyword : List Placed → Bool
  | ⟨.name t, _⟩ :: _ => softKeywords.elem t
  | _ => false

/-- Whether an expression is the name of a former command. -/
def isFormerCommand (n : Node) : Bool :=
  match n.shape with
  | .name t => formerCommands.elem t
  | _ => false

/-- Whether a token is a name and no keyword. -/
def isName : Token → Bool
  | .name t => !keywords.elem t
  | _ => false

/-- The name that tokens begin with. -/
def leadingName? : List Placed → Option Text
  | ⟨.name t, _⟩ :: _ => if keywords.elem t then none else some t
  | _ => none

/-- The name that tokens begin with, if a given token follows it. -/
def nameBefore? (t : Token) : List Placed → Option Text
  | ⟨.name name, _⟩ :: ⟨u, _⟩ :: _ => if u = t && !keywords.elem name then some name else none
  | _ => none

/-- The number of brackets that are open behind the last token of those before `rest`. -/
def depthBefore (ts rest : List Placed) : Nat :=
  match (ts.take (ts.length - rest.length)).getLast? with
  | some placed => placed.depth
  | none => 0

/-- The strings that tokens begin with, and the tokens behind them. -/
def leadingStrings : List Placed → List Quoted × List Placed
  | ⟨.string q, _⟩ :: rest =>
    let (more, rest) := leadingStrings rest
    (q :: more, rest)
  | ts => ([], ts)

/-- What is wrong with strings that stand side by side. -/
def stringsFault? (isBytes : Bool) : List Quoted → Option String
  | [] => none
  | q :: rest =>
    q.fault?.or
      (if q.isBytes = isBytes then stringsFault? isBytes rest
        else some "cannot mix bytes and nonbytes literals")

/-- The expression that strings make together. -/
def stringNode (strings : List Quoted) : Except Refusal Node :=
  match stringsFault? (strings.head?.any Quoted.isBytes) strings with
  | some message => .error (.certain message)
  | none =>
    .ok (if strings.any Quoted.isFormatted then Node.other "f-string expression"
      else Node.constant "literal")

/-- Arguments that were read: whether there are any, and which kinds. -/
structure ArgumentKinds where
  hasAny : Bool
  hasNamed : Bool
  hasUnpacked : Bool

/-- The complaint about an argument that comes behind others, if there is one. -/
def lateArgument? (seen : ArgumentKinds) (isStarred : Bool) : Option String :=
  if isStarred then
    if seen.hasUnpacked then some "iterable argument unpacking follows keyword argument unpacking"
      else none
  else if seen.hasUnpacked then some "positional argument follows keyword argument unpacking"
  else if seen.hasNamed then some "positional argument follows keyword argument"
  else none

/-- The complaint, if the reading looks for one. -/
def complain {α : Type} (m : Mode) (message : String) : Except Refusal α :=
  .error (if m.isThorough then .certain message else .mismatch)

mutual

/-- Reads an expression. -/
def expression (m : Mode) : Nat → List Placed → Except Refusal Parsed
  | 0, _ => .error .mismatch
  | n + 1, ts => do
    if ← isNext m (word "lambda") ts then
      let body ← parameters m n ts.tail
      let p ← expression m n body
      return ⟨Node.other "lambda", false, p.rest⟩
    let first ← boolean m n ts
    if m.isThorough then
      if !startsWithNameAndString ts && !startsWithSoftKeyword ts &&
        !isFormerCommand first.node then
        match ← attempt (expression m.quick n first.rest) with
        | some second =>
          if depthBefore first.rest second.rest ≠ 0 then
            .error (.certain "invalid syntax. Perhaps you forgot a comma?")
        | none => pure ()
      match leadingName? ts with
      | some t =>
        if !(← isNext m (mark "(") ts.tail) then
          let arguments ← attempt (expressions m n ts.tail)
          if arguments.isSome && formerCommands.elem t then
            let name := String.ofList t
            .error (.certain ("Missing parentheses in call to '" ++ name ++
              "'. Did you mean " ++ name ++ "(...)?"))
      | none => pure ()
    if ← isNext m (word "if") first.rest then
      match ← attempt (conditional m n first.rest.tail) with
      | some p => return p
      | none => return first
    else return first

/-- Reads the parameters of a function up to the colon behind them; gives the tokens behind the
colon. -/
def parameters (m : Mode) : Nat → List Placed → Except Refusal (List Placed)
  | 0, _ => .error .mismatch
  | n + 1, ts => do
    match ← peek m ts with
    | none => .error .mismatch
    | some t =>
      if t = mark ":" then return ts.tail
      else if isName t then
        let rest ← if ← isNext m (mark "=") ts.tail then do
            let p ← expression m n ts.tail.tail
            pure p.rest
          else pure ts.tail
        if ← isNext m (mark ",") rest then parameters m n rest.tail else expect m (mark ":") rest
      else .error .mismatch

/-- Reads a conditional expression behind its `if`. -/
def conditional (m : Mode) : Nat → List Placed → Except Refusal Parsed
  | 0, _ => .error .mismatch
  | n + 1, ts => do
    let test ← boolean m n ts
    let next ← peek m test.rest
    if next = some (word "else") then
      let p ← expression m n test.rest.tail
      return ⟨Node.other "conditional expression", false, p.rest⟩
    else if next = some (mark ":") then .error .mismatch
    else complain m "expected 'else' after 'if' expression"

/-- Reads expressions with commas between them. -/
def expressions (m : Mode) : Nat → List Placed → Except Refusal Parsed
  | 0, _ => .error .mismatch
  | n + 1, ts => do
    let first ← expression m n ts
    if ← isNext m (mark ",") first.rest then
      match ← attempt (expressions m n first.rest.tail) with
      | some later => return ⟨Node.tuple [first.node, later.node], false, later.rest⟩
      | none => return ⟨Node.tuple [first.node], false, first.rest.tail⟩
    else return first

/-- Reads operands with `and` and `or` between them. -/
def boolean (m : Mode) : Nat → List Placed → Except Refusal Parsed
  | 0, _ => .error .mismatch
  | n + 1, ts => do
    let first ← inversion m n ts
    let next ← peek m first.rest
    if next = some (word "and") || next = some (word "or") then
      match ← attempt (boolean m n first.rest.tail) with
      | some later => return ⟨Node.other "expression", false, later.rest⟩
      | none => return first
    else return first

/-- Reads a comparison, perhaps behind `not`. -/
def inversion (m : Mode) : Nat → List Placed → Except Refusal Parsed
  | 0, _ => .error .mismatch
  | n + 1, ts => do
    if ← isNext m (word "not") ts then
      let p ← inversion m n ts.tail
      return ⟨Node.other "expression", false, p.rest⟩
    else comparison m n ts

/-- Reads arithmetic with comparisons between. -/
def comparison (m : Mode) : Nat → List Placed → Except Refusal Parsed
  | 0, _ => .error .mismatch
  | n + 1, ts => do
    let first ← arithmetic m n ts
    let _ ← peek m first.rest
    let length := comparisonLength first.rest
    if length = 0 then return first
    else
      match ← attempt (comparison m n (first.rest.drop length)) with
      | some later => return ⟨Node.other "comparison", false, later.rest⟩
      | none => return first

/-- Reads operands with arithmetic marks between them. -/
def arithmetic (m : Mode) : Nat → List Placed → Except Refusal Parsed
  | 0, _ => .error .mismatch
  | n + 1, ts => do
    let first ← factor m n ts
    arithmeticRest m n first ts

/-- Goes on with arithmetic behind its first operands. -/
def arithmeticRest (m : Mode) : Nat → Parsed → List Placed → Except Refusal Parsed
  | 0, _, _ => .error .mismatch
  | n + 1, left, ts => do
    match ← peek m left.rest with
    | some t =>
      if arithmeticMarks.elem t then
        match ← attempt (factor m n left.rest.tail) with
        | some right =>
          let node := if t = mark "+" || t = mark "-" then Node.sum left.node right.node
            else Node.other "expression"
          arithmeticRest m n ⟨node, true, right.rest⟩ ts
        | none => return left
      else return left
    | none => return left

/-- Reads an operand with the signs before it. -/
def factor (m : Mode) : Nat → List Placed → Except Refusal Parsed
  | 0, _ => .error .mismatch
  | n + 1, ts => do
    let next ← peek m ts
    if next = some (mark "+") || next = some (mark "-") then
      let p ← factor m n ts.tail
      return ⟨p.node.sign, true, p.rest⟩
    else if next = some (mark "~") then
      let p ← factor m n ts.tail
      return ⟨Node.other "expression", true, p.rest⟩
    else power m n ts

/-- Reads an operand with its exponent. -/
def power (m : Mode) : Nat → List Placed → Except Refusal Parsed
  | 0, _ => .error .mismatch
  | n + 1, ts => do
    let base ← if ← isNext m (word "await") ts then do
        let awaited ← atom m n ts.tail
        let p ← trailers m n awaited
        pure ⟨Node.other "await expression", true, p.rest⟩
      else do
        let p ← atom m n ts
        trailers m n p
    if ← isNext m (mark "**") base.rest then
      match ← attempt (factor m n base.rest.tail) with
      | some exponent => return ⟨Node.other "expression", true, exponent.rest⟩
      | none => return base
    else return base

/-- Goes on with attributes and arguments behind an operand. -/
def trailers (m : Mode) : Nat → Parsed → Except Refusal Parsed
  | 0, _ => .error .mismatch
  | n + 1, p => do
    match ← peek m p.rest with
    | some t =>
      if t = mark "." then
        match ← peek m p.rest.tail with
        | some (.name name) =>
          if keywords.elem name then return p
          else trailers m n ⟨Node.other "attribute", true, p.rest.tail.tail⟩
        | _ => return p
      else if t = mark "(" then
        match ← attempt (arguments m n ⟨false, false, false⟩ p.rest.tail) with
        | some (hasAny, rest) => trailers m n ⟨p.node.call hasAny, true, rest⟩
        | none => return p
      else return p
    | none => return p

/-- Reads arguments up to the closing parenthesis. -/
def arguments (m : Mode) : Nat → ArgumentKinds → List Placed → Except Refusal (Bool × List Placed)
  | 0, _, _ => .error .mismatch
  | n + 1, seen, ts => do
    match ← peek m ts with
    | none => .error .mismatch
    | some t =>
      if t = mark ")" then return (seen.hasAny, ts.tail)
      else if t = mark "*" then
        match lateArgument? seen true with
        | some message => complain m message
        | none =>
          let p ← expression m n ts.tail
          argumentsRest m n ⟨true, seen.hasNamed, seen.hasUnpacked⟩ p.rest
      else if t = mark "**" then
        let p ← expression m n ts.tail
        argumentsRest m n ⟨true, seen.hasNamed, true⟩ p.rest
      else
        if isName t then let _ ← peek m ts.tail
        match nameBefore? (mark "=") ts with
        | some _ =>
          let p ← expression m n ts.tail.tail
          argumentsRest m n ⟨true, true, seen.hasUnpacked⟩ p.rest
        | none =>
          let start := if (nameBefore? (mark ":=") ts).isSome then ts.tail.tail else ts
          let p ← expression m n start
          if ← isNext m (mark "=") p.rest then
            match t with
            | .name name =>
              if ["True".toList, "False".toList, "None".toList].elem name then
                complain m ("cannot assign to " ++ String.ofList name)
              else complain m "expression cannot contain assignment, perhaps you meant \"==\"?"
            | _ => complain m "expression cannot contain assignment, perhaps you meant \"==\"?"
          else
            match lateArgument? seen false with
            | some message => complain m message
            | none => argumentsRest m n ⟨true, seen.hasNamed, seen.hasUnpacked⟩ p.rest

/-- Goes on behind an argument: a comma or the closing parenthesis must follow. -/
def argumentsRest (m : Mode) :
    Nat → ArgumentKinds → List Placed → Except Refusal (Bool × List Placed)
  | 0, _, _ => .error .mismatch
  | n + 1, seen, ts => do
    if ← isNext m (mark ",") ts then arguments m n seen ts.tail
    else
      let rest ← expect m (mark ")") ts
      return (true, rest)

/-- Reads a name, a constant, a number, strings, or what stands in brackets. -/
def atom (m : Mode) : Nat → List Placed → Except Refusal Parsed
  | 0, _ => .error .mismatch
  | n + 1, ts => do
    match ← peek m ts with
    | some (.name t) =>
      if t = "True".toList || t = "False".toList || t = "None".toList then
        return ⟨Node.constant (String.ofList t), true, ts.tail⟩
      else if keywords.elem t then .error .mismatch
      else return ⟨Node.name t, true, ts.tail⟩
    | some (.number isImaginary) => return ⟨Node.number isImaginary, true, ts.tail⟩
    | some (.string _) =>
      let (strings, rest) := leadingStrings ts
      let _ ← peek m rest
      return ⟨← stringNode strings, true, rest⟩
    | some t =>
      if t = mark "..." then return ⟨Node.constant "ellipsis", true, ts.tail⟩
      else if t = mark "(" then group m n ts.tail
      else if t = mark "\x7b" then braces m n ts.tail
      else .error .mismatch
    | none => .error .mismatch

/-- Reads what stands behind an opening parenthesis. -/
def group (m : Mode) : Nat → List Placed → Except Refusal Parsed
  | 0, _ => .error .mismatch
  | n + 1, ts => do
    let next ← peek m ts
    if next = some (mark ")") then return ⟨Node.tuple [], true, ts.tail⟩
    else if next = some (mark "**") then
      let p ← expression m n ts.tail
      if ← isNext m (mark ")") p.rest then complain m "cannot use double starred expression here"
      else .error .mismatch
    else
      let first ← member m n ts
      let behind ← peek m first.rest
      if behind = some (mark ",") then
        let (items, rest) ← members m n (mark ")") first.rest.tail
        return ⟨Node.tuple (first.node :: items), true, rest⟩
      else if behind = some (mark ")") then
        if next = some (mark "*") then complain m "cannot use starred expression here"
        else return ⟨first.node, true, first.rest.tail⟩
      else .error .mismatch

/-- Reads the members of a tuple or set from here on, up to the closing bracket. -/
def members (m : Mode) : Nat → Token → List Placed → Except Refusal (List Node × List Placed)
  | 0, _, _ => .error .mismatch
  | n + 1, closing, ts => do
    if ← isNext m closing ts then return ([], ts.tail)
    else
      let p ← member m n ts
      if ← isNext m (mark ",") p.rest then
        let (items, rest) ← members m n closing p.rest.tail
        return (p.node :: items, rest)
      else
        let rest ← expect m closing p.rest
        return ([p.node], rest)

/-- Reads a member of a tuple or set, which may be a starred one. -/
def member (m : Mode) : Nat → List Placed → Except Refusal Parsed
  | 0, _ => .error .mismatch
  | n + 1, ts => do
    if ← isNext m (mark "*") ts then
      let p ← arithmetic m n ts.tail
      return ⟨Node.other "starred", false, p.rest⟩
    else named m n ts

/-- Reads an expression that may be given a name. -/
def named (m : Mode) : Nat → List Placed → Except Refusal Parsed
  | 0, _ => .error .mismatch
  | n + 1, ts => do
    if (← peek m ts).any isName then let _ ← peek m ts.tail
    if (nameBefore? (mark ":=") ts).isSome then
      let p ← expression m n ts.tail.tail
      return ⟨Node.other "named expression", false, p.rest⟩
    else
      let p ← expression m n ts
      namedRest m n (nameBefore? (mark "=") ts).isSome p

/-- Goes on behind an expression that cannot be given a name; `isName` tells that it is one. -/
def namedRest (m : Mode) : Nat → Bool → Parsed → Except Refusal Parsed
  | 0, _, _ => .error .mismatch
  | n + 1, isName, p => do
    let next ← peek m p.rest
    if next = some (mark ":=") then
      if m.isThorough then
        let _ ← expression m n p.rest.tail
        .error (.certain ("cannot use assignment expressions with " ++ p.node.shape.description))
      else .error .mismatch
    else if next = some (mark "=") && m.isThorough then
      match ← attempt (arithmetic m n p.rest.tail) with
      | some value =>
        let behind ← peek m value.rest
        if behind = some (mark "=") || behind = some (mark ":=") then return p
        else if isName then
          .error (.certain "invalid syntax. Maybe you meant '==' or ':=' instead of '='?")
        else if !p.isArithmetic || p.node.shape = .tuple ||
            ["True", "False", "None"].any fun name => p.node.shape = .called name then return p
        else
          .error (.certain ("cannot assign to " ++ p.node.shape.description ++
            " here. Maybe you meant '==' instead of '='?"))
      | none => return p
    else return p

/-- Reads what stands behind an opening brace. -/
def braces (m : Mode) : Nat → List Placed → Except Refusal Parsed
  | 0, _ => .error .mismatch
  | n + 1, ts => do
    let next ← peek m ts
    if next = some (mark "\x7d") then return ⟨Node.dictionary [], true, ts.tail⟩
    else if next = some (mark "**") then
      let (pairs, rest) ← pairs m n ts
      return ⟨Node.dictionary pairs, true, rest⟩
    else if next = some (mark "*") || (nameBefore? (mark ":=") ts).isSome then
      let (items, rest) ← members m n (mark "\x7d") ts
      return ⟨Node.set items, true, rest⟩
    else
      let key ← expression m n ts
      if ← isNext m (mark ":") key.rest then
        let (pairs, rest) ← pairValue m n key
        return ⟨Node.dictionary pairs, true, rest⟩
      else
        let first ← namedRest m n (nameBefore? (mark "=") ts).isSome key
        if ← isNext m (mark ",") first.rest then
          let (items, rest) ← members m n (mark "\x7d") first.rest.tail
          return ⟨Node.set (first.node :: items), true, rest⟩
        else
          let rest ← expect m (mark "\x7d") first.rest
          return ⟨Node.set [first.node], true, rest⟩

/-- Reads the pairs of a dictionary from here on, up to the closing brace. -/
def pairs (m : Mode) : Nat → List Placed → Except Refusal (List (Option Node × Node) × List Placed)
  | 0, _ => .error .mismatch
  | n + 1, ts => do
    if ← isNext m (mark "**") ts then
      let p ← arithmetic m n ts.tail
      pairsRest m n (none, p.node) p.rest
    else
      let key ← expression m n ts
      if ← isNext m (mark ":") key.rest then pairValue m n key
      else complain m "':' expected after dictionary key"

/-- Reads the value behind a key and its colon, and the pairs behind it. -/
def pairValue (m : Mode) : Nat → Parsed → Except Refusal (List (Option Node × Node) × List Placed)
  | 0, _ => .error .mismatch
  | n + 1, key => do
    match ← attempt (expression m n key.rest.tail) with
    | some value => pairsRest m n (some key.node, value.node) value.rest
    | none =>
      let behind ← peek m key.rest.tail
      if behind = some (mark "*") then
        let _ ← arithmetic m n key.rest.tail.tail
        complain m "cannot use a starred expression in a dictionary value"
      else if behind = some (mark "\x7d") || behind = some (mark ",") then
        complain m "expression expected after dictionary key and ':'"
      else .error .mismatch

/-- Goes on behind a pair: a comma or the closing brace must follow. -/
def pairsRest (m : Mode) : Nat → Option Node × Node → List Placed →
    Except Refusal (List (Option Node × Node) × List Placed)
  | 0, _, _ => .error .mismatch
  | n + 1, pair, ts => do
    if ← isNext m (mark ",") ts then
      if ← isNext m (mark "\x7d") ts.tail then return ([pair], ts.tail.tail)
      else
        let (later, rest) ← pairs m n ts.tail
        return (pair :: later, rest)
    else
      let rest ← expect m (mark "\x7d") ts
      return ([pair], rest)

end

/-- Reads expressions that take up all tokens; line ends may follow them. -/
def whole (m : Mode) (ts : List Placed) : Except Refusal Node := do
  let p ← expressions m (20 * (ts.length + 2)) ts
  match ← peek m (p.rest.dropWhile fun placed => placed.token = .newline) with
  | some _ => .error .mismatch
  | none => return p.node

/-- What is wrong with a text that is no expression. -/
def complaint (ts : List Placed) (ending : Ending) (r : Refusal) : String :=
  match ending, r with
  | .faulty message true, _ => message
  | _, .certain message => message
  | _, .mismatch =>
    match whole ⟨ending, true⟩ ts with
    | .error (.certain message) => message
    | _ => "invalid syntax"

/-- Reads a text as an expression. -/
def read (t : Text) : Except String Node :=
  let (ts, ending) := tokens t
  match whole ⟨ending, false⟩ ts with
  | .ok node => .ok node
  | .error r => .error (complaint ts ending r)

end ShellStyle.Literal
