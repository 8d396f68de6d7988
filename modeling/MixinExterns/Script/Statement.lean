/-!
What a script says, as far as a reader of externs needs it: of each statement its kind, of a
function its name, and of a function that is assigned its parameters.
-/

namespace MixinExterns.Script

/-- A parameter: its name, unless it is a pattern, a rest parameter or has a default. -/
abbrev ParamName := Option String

inductive Statement where
  | function (name : String)
  /-- Any other declaration. -/
  | declaration
  /-- An assignment whose right side is a function. -/
  | assignedFunction (params : List ParamName)
  /-- Any other assignment. -/
  | assignment
  | member
  /-- Any other expression. -/
  | expression
  | empty
  /-- Any other statement. -/
  | other
  deriving DecidableEq, Repr

/-- What an expression is, as far as it matters where it may stand and what its statement is. -/
inductive Form where
  | name (text : String)
  | member
  /-- A member that a method inherits. -/
  | superMember
  | function (params : List ParamName)
  /-- An assignment, with what is assigned if that is a function. Only a plain one, by an equals
  sign alone, may give a default in a pattern. -/
  | assignment (plain : Bool) (assigned : Option (List ParamName))
  | arrow
  /-- A single operand with an operator before or behind it. -/
  | unary
  | update
  | binary
  | conditional
  /-- A string literal, as it is written. -/
  | string (text : String)
  | parenthesized
  | other
  deriving DecidableEq, Repr

/-- An expression: its beginning and form, and the places that would be reported if it was to be
assigned to, if it was the parameter of an arrow function, and if it was only evaluated. -/
structure Expression where
  start : Nat
  form : Form
  asTarget : List Nat
  asParam : List Nat
  asValue : List Nat := []
  deriving DecidableEq, Repr

namespace Expression

/-- An expression that can only be evaluated. -/
def plain (start : Nat) (form : Form) : Expression := ⟨start, form, [start], [start], []⟩

def isSimpleTarget (e : Expression) : Bool :=
  match e.form with
  | .name _ | .member | .superMember | .parenthesized => e.asTarget.isEmpty
  | _ => false

def isArrow (e : Expression) : Bool := e.form = .arrow

def statement (e : Expression) : Statement :=
  match e.form with
  | .assignment _ (some params) => .assignedFunction params
  | .assignment _ none => .assignment
  | .member => .member
  | _ => .expression

end Expression

end MixinExterns.Script
