import ShellStyle.Literal.Expression

/-!
# Handlers

The value of a tag that begins with an at sign is a handler: a name, and arguments in parentheses. A
value of another form counts as arguments as a whole. Arguments are a literal.
-/

namespace ShellStyle.Layout

open Text

/-- What is wrong with a handler. -/
inductive HandlerError where
  /-- The arguments are no expression. -/
  | unreadable (arguments value : Text) (reason : String)
  /-- The arguments have no value. -/
  | valueless (value : Text) (fault : Literal.ValueFault)
  deriving DecidableEq, Repr

/-- The wording of the error. -/
def HandlerError.message : HandlerError → String
  | unreadable arguments value reason =>
    "error parsing " ++ String.ofList (inQuotes arguments) ++ " in " ++
      String.ofList (inQuotes value) ++ "; " ++ reason
  | valueless value fault =>
    "error parsing " ++ String.ofList (inQuotes value) ++ "; " ++ fault.message

/-- The arguments of a handler. -/
def handlerArguments (value : Text) : Text :=
  let handler := trim value
  let rest := handler.dropWhile fun c => isWordChar c || c == '.'
  if rest.isEmpty then "()".toList
  else if 2 ≤ rest.length && startsWith ['('] rest && endsWith [')'] rest && !rest.elem '\n' then
    rest
  else handler

/-- Line ends of every kind as line feeds. -/
def unifyLineEnds : Text → Text
  | [] => []
  | '\r' :: '\n' :: t => '\n' :: unifyLineEnds t
  | '\r' :: t => '\n' :: unifyLineEnds t
  | c :: t => c :: unifyLineEnds t

/-- Checks a handler. -/
def checkHandler (value : Text) : Except HandlerError Unit :=
  let arguments := handlerArguments value
  match Literal.read (unifyLineEnds arguments) with
  | .error reason => .error (.unreadable arguments value reason)
  | .ok node =>
    match node.fault with
    | some fault => .error (.valueless value fault)
    | none => .ok ()

end ShellStyle.Layout
