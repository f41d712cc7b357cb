import ShellStyle.Text.Blank

/-!
# Values of expressions

Of an expression only this is kept: how it is called in messages, whether it is a literal, and
whether its value can be a member of a set. Literals are numbers, signed numbers, sums of a number
and an imaginary one, constants, and tuples, sets and dictionaries of literals.
-/

namespace ShellStyle.Literal

/-- Why an expression has no value. -/
inductive ValueFault where
  /-- The expression is no literal. -/
  | malformed
  /-- A dictionary is put into another one. -/
  | unpacked
  /-- A value cannot be a member of a set or a key. -/
  | unhashable (type : String)
  deriving DecidableEq, Repr

/-- The wording of the fault. -/
def ValueFault.message : ValueFault → String
  | malformed => "malformed node or string on line 1"
  | unpacked => "malformed node or string: None"
  | unhashable type => "unhashable type: '" ++ type ++ "'"

/-- What an expression looks like. -/
inductive Shape where
  | number (isImaginary : Bool)
  | signed (isImaginary : Bool)
  | name (t : Text)
  | tuple
  /-- Any other, with what it is called. -/
  | called (name : String)
  deriving DecidableEq, Repr

/-- What an expression is called. -/
def Shape.description : Shape → String
  | number _ => "literal"
  | signed _ => "expression"
  | name _ => "name"
  | tuple => "tuple"
  | called s => s

/-- An expression. -/
structure Node where
  shape : Shape
  fault : Option ValueFault
  /-- The type of its value, if that cannot be a member of a set. -/
  unhashable : Option String
  deriving DecidableEq, Repr

namespace Node

/-- An expression that is no literal. -/
def other (name : String) : Node :=
  ⟨.called name, some .malformed, none⟩

/-- A constant. -/
def constant (name : String) : Node :=
  ⟨.called name, none, none⟩

/-- A number. -/
def number (isImaginary : Bool) : Node :=
  ⟨.number isImaginary, none, none⟩

/-- A name. -/
def name (t : Text) : Node :=
  ⟨.name t, some .malformed, none⟩

/-- A sign before an expression. -/
def sign (n : Node) : Node :=
  match n.shape with
  | .number isImaginary => ⟨.signed isImaginary, none, none⟩
  | _ => other "expression"

/-- The sum or difference of two expressions. -/
def sum (left right : Node) : Node :=
  match left.shape, right.shape with
  | .number false, .number true => constant "expression"
  | .signed false, .number true => constant "expression"
  | _, _ => other "expression"

/-- A tuple of expressions. -/
def tuple (items : List Node) : Node :=
  ⟨.tuple, items.findSome? Node.fault, items.findSome? Node.unhashable⟩

/-- What is wrong with an expression as a member of a set. -/
def memberFault (n : Node) : Option ValueFault :=
  n.fault.or (n.unhashable.map .unhashable)

/-- A set of expressions. -/
def set (items : List Node) : Node :=
  ⟨.called "set display", items.findSome? memberFault, some "set"⟩

/-- A dictionary; a pair without a key is a dictionary that is put into it. -/
def dictionary (pairs : List (Option Node × Node)) : Node :=
  let fault := fun (pair : Option Node × Node) =>
    match pair.1 with
    | none => some ValueFault.unpacked
    | some key => (key.fault.or pair.2.fault).or key.memberFault
  ⟨.called "dict literal", pairs.findSome? fault, some "dict"⟩

/-- A call, which is no literal unless it makes an empty set. -/
def call (callee : Node) (hasArguments : Bool) : Node :=
  if callee.shape = .name "set".toList && !hasArguments then
    ⟨.called "function call", none, some "set"⟩
  else other "function call"

end Node

end ShellStyle.Literal
