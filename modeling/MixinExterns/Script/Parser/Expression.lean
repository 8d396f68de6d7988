import MixinExterns.Script.Parser.Basic

/-!
The expressions of a script: operands, the operators on them, functions and classes, and the
patterns that bind names.

Where an operand is missing in front of an operator, that is reported and parsing goes on behind
the operator.
-/

namespace MixinExterns.Script

open MixinExterns.Script.Parser

def unaryWords : List String := ["delete", "void", "typeof"]

section

variable (g : Grammar)

def expression : Parser Expression := do
  let first ← g.parse .assignment
  if ← seesMark .comma then
    use first
    skipping (fun _ => do
      if ← eat .comma then
        use (← g.parse .assignment)
        return some ()
      else return none) ()
    return .plain first.start .other
  else return first

/-- An expression in which `in` is an operator again. -/
def nestedExpression : Parser Expression :=
  within (fun c => { c with allowsIn := true }) (expression g)

/-- An expression without commas in which `in` is an operator again. -/
def nestedAssignment : Parser Expression :=
  within (fun c => { c with allowsIn := true }) (g.parse .assignment)

/-- An argument of a call, perhaps one that stands for several. -/
def argument : Parser Unit := do
  let _ ← eat .ellipsis
  use (← nestedAssignment g)

def arguments : Parser Unit := do
  expect .leftParen
  skipping (fun first => do
    match ← peek with
    | none | some (.mark .rightParen) => return none
    | _ =>
      unless first do expect .comma
      if ← seesMark .rightParen then return none
      argument g
      return some false) true
  expect .rightParen

/-- One more parameter of a function behind those in `names`, last one first, with the comma behind
it; none at the closing parenthesis. `rest` is the place of a rest parameter before it. -/
def parameter : List ParamName × Option Nat → Parser (Option (List ParamName × Option Nat)) :=
  fun (names, rest) => do
    match ← peek with
    | none | some (.mark .rightParen) => return none
    | _ =>
      if let some place := rest then report place
      let start ← here
      let isRest ← eat .ellipsis
      let name ← g.parse .binding
      let hasDefault ← eatToken (.assign "=")
      if hasDefault then
        use (← nestedAssignment g)
        if isRest then report start
      unless ← seesMark .rightParen do
        expect .comma
        if isRest && (← seesMark .rightParen) then report (← lastStart)
      let name := if isRest || hasDefault then none else name
      return some (name :: names, if isRest then some start else none)

def parameters : Parser (List ParamName) := do
  let (names, _) ← repeated (parameter g) ([], none)
  return names.reverse

/-- What is known inside of a block: its statements so far, last one first, whether the next one may
still ask for strict code, and whether one did. -/
abbrev Progress := List Statement × Bool × Bool

/-- One more statement of a block; none at its end. -/
def nextStatement (top closed : Bool) : Progress → Parser (Option Progress) :=
  fun (items, head, strict) => do
    let strictly (c : Context) : Context := { c with strict := c.strict || strict }
    match ← current? with
    | none =>
      if closed then report (← here)
      return none
    | some (.mark .rightBrace) =>
      if closed then
        advance
        return none
      else
        let item ← within strictly (g.parse (.statement true top))
        return some (item.statement :: items, false, strict)
    | some _ =>
      let item ← within strictly (g.parse (.statement true top))
      return some (item.statement :: items, false, strict || (head && item.asksStrict))

/-- The statements of a block up to the end of the script, or to the brace that closes it. At the
head of a script or function a statement may ask for strict code. -/
def statements (head top closed : Bool) : Parser (List Statement) := do
  let (items, _, _) ← repeated (nextStatement g top closed) ([], head, false)
  return items.reverse

def block : Parser Unit := do
  expect .leftBrace
  let _ ← statements g false false true

def inFunction (isAsync isGenerator : Bool) (c : Context) : Context :=
  { inFunction := true, inAsync := isAsync, inGenerator := isGenerator, strict := c.strict }

def functionBody : Parser Unit := do
  expect .leftBrace
  let _ ← statements g true false true

def functionRest (isAsync isGenerator : Bool) : Parser (List ParamName) :=
  within (inFunction isAsync isGenerator) do
    expect .leftParen
    let params ← parameters g
    expect .rightParen
    functionBody g
    return params

def functionOperand (start : Nat) (isAsync : Bool) : Parser Expression := do
  advance
  let isGenerator ← eatToken (.binary "*")
  let naming (c : Context) : Context :=
    { c with inAsync := isAsync, inGenerator := isGenerator }
  if ← within naming seesVariable then
    let _ ← within naming bindingName
  let params ← functionRest g isAsync isGenerator
  return .plain start (.function params)

def arrowBody (isAsync : Bool) : Parser Unit := do
  let c ← context
  let inside (c' : Context) : Context :=
    { inFunction isAsync false c' with allowsIn := c.allowsIn }
  if ← seesMark .leftBrace then within (inFunction isAsync false) (functionBody g)
  else use (← within inside (g.parse .assignment))

/-- What follows the parameters of an arrow function that begins at `start`. -/
def arrowRest (start : Nat) (isAsync : Bool) : Parser Expression := do
  expect .arrow
  arrowBody g isAsync
  return .plain start .arrow

/-- Whether the next token but one shows that a word is the name of a member, and not in front of
one. -/
def namesMember : Parser Bool := do
  match ← peekBehind with
  | none | some (.mark .leftParen) | some (.mark .rightBrace) | some (.mark .semicolon) |
    some (.mark .comma) | some (.mark .colon) | some (.assign _) => return true
  | _ => return false

def eatModifier (w : String) : Parser Bool := do
  if (← seesWord w) && !(← namesMember) then
    advance
    return true
  else return false

def propertyName (isPrivate : Bool) : Parser Unit := do
  match ← current with
  | .word _ | .number | .string _ => advance
  | .mark .leftBracket =>
    advance
    use (← nestedAssignment g)
    expect .rightBracket
  | .mark .hash =>
    if isPrivate then anyMemberName else failHere
  | _ => failHere

def classMember : Parser Unit := do
  if ← eat .semicolon then return ()
  let isStatic ← eatModifier "static"
  if isStatic && (← seesMark .leftBrace) then
    within (inFunction false false) (block g)
    return ()
  let isAsync ← (do
    if ← lineBreakBehind then return false else eatModifier "async")
  let isGenerator ← eatToken (.binary "*")
  unless isAsync || isGenerator do
    unless ← eatModifier "get" do
      let _ ← eatModifier "set"
  propertyName g true
  if ← seesMark .leftParen then
    let _ ← functionRest g isAsync isGenerator
  else
    if ← eatToken (.assign "=") then
      use (← within (inFunction false false) (g.parse .assignment))
    expectSemicolon

def classRest : Parser Unit :=
  within (fun c => { c with strict := true }) do
    if ← eatWord "extends" then
      use (← g.parse .member)
    expect .leftBrace
    skipping (fun _ => do
      match ← current with
      | .mark .rightBrace => return none
      | _ =>
        classMember g
        return some ()) ()
    expect .rightBrace

def classOperand (start : Nat) : Parser Expression := do
  advance
  if (← seesVariable) && !(← seesWord "extends") then
    let _ ← bindingName
  classRest g
  return .plain start .other

def listLiteral : Parser Expression := do
  let start ← here
  advance
  let (elements, open?) ← repeated (fun (elements, rest) => do
    match ← peek with
    | some (.mark .rightBracket) => return none
    | some (.mark .comma) =>
      advance
      return some (elements, none)
    | _ =>
      if let some _ := rest then
        expect .comma
        return some (elements, none)
      let place ← here
      let isRest ← eat .ellipsis
      let e ← nestedAssignment g
      return some ((e, isRest, place) :: elements, some ()))
    (([], none) : List (Expression × Bool × Nat) × Option Unit)
  expect .rightBracket
  let faults (inner : Expression → List Nat) : List Nat :=
    elements.reverse.flatMap fun (e, _, _) => inner e
  let early :=
    match elements with
    | (_, true, place) :: rest =>
      (rest.filter (·.2.1)).map (·.2.2) ++ (if open?.isNone then [place] else [])
    | rest => (rest.filter (·.2.1)).map (·.2.2)
  return {
    start, form := .other
    asTarget := faults (·.asTarget) ++ early
    asParam := faults (·.asParam) ++ early
    asValue := faults (·.asValue) }

/-- A property of an object: the places reported if the object is assigned to, is a parameter or is
evaluated. -/
def objectProperty : Parser (List Nat × List Nat × List Nat) := do
  let start ← here
  if ← eat .ellipsis then
    let e ← nestedAssignment g
    return (e.asTarget, e.asParam, e.asValue)
  let isAsync ← (do
    if ← lineBreakBehind then return false else eatModifier "async")
  let isGenerator ← eatToken (.binary "*")
  let isAccessor ← (do
    if isAsync || isGenerator then return false
    if ← eatModifier "get" then return true
    eatModifier "set")
  let shorthand ← seesVariable
  let isWord := match ← peek with | some (.word _) => true | _ => false
  propertyName g false
  if isAsync || isGenerator || isAccessor || (← seesMark .leftParen) then
    let _ ← functionRest g isAsync isGenerator
    return ([start], [start], [])
  if ← eat .colon then
    let e ← nestedAssignment g
    return (e.asTarget, e.asParam, e.asValue)
  if !isWord then failHere
  if !shorthand then fail (← lastStart)
  if ← eatToken (.assign "=") then
    use (← nestedAssignment g)
    return ([], [], [start])
  return ([], [], [])

def objectLiteral : Parser Expression := do
  let start ← here
  advance
  let (faults, _) ← repeated (fun (faults, first) => do
    match ← peek with
    | some (.mark .rightBrace) => return none
    | _ =>
      unless first do
        expect .comma
      if ← seesMark .rightBrace then return none
      let (t, p, v) ← objectProperty g
      return some ((faults.1 ++ t, faults.2.1 ++ p, faults.2.2 ++ v), false))
    ((([], [], []), true) : (List Nat × List Nat × List Nat) × Bool)
  expect .rightBrace
  return ⟨start, .other, faults.1, faults.2.1, faults.2.2⟩

/-- A template behind its first mark. -/
def templateRest : Parser Unit := do
  skipping (fun _ => do
    match ← current with
    | .templateText =>
      advance
      return some ()
    | .mark .templateOpen =>
      advance
      use (← nestedExpression g)
      expect .rightBrace
      return some ()
    | _ => return none) ()
  expect .backquote

/-- What stands in parentheses, at the opening one: an expression, or the parameters of an arrow
function. Behind the word `async` it may also be the arguments of a call. -/
def parenthesized (start : Nat) (mayBeArrow isAsync : Bool) : Parser Expression := do
  expect .leftParen
  let (items, _) ← repeated (fun (items, comma) => do
    match ← peek with
    | none | some (.mark .rightParen) => return none
    | _ =>
      unless comma do expect .comma
      if ← seesMark .rightParen then return none
      let isRest ← eat .ellipsis
      let e ← nestedAssignment g
      return some ((e, isRest) :: items, false))
    (([], true) : List (Expression × Bool) × Bool)
  expect .rightParen
  let items := items.reverse
  if ← seesMark .arrow then
    if (← lineBreak) || !mayBeArrow then fail start
    advance
    reportAll (items.flatMap (·.1.asParam))
    arrowBody g isAsync
    return .plain start .arrow
  if isAsync then
    reportAll (items.flatMap (·.1.asValue))
    return .plain start .other
  match items with
  | [] => fail start
  | [(e, false)] =>
    let target := match e.form with
      | .name _ | .member | .superMember | .parenthesized => e.asTarget
      | _ => [start]
    return ⟨start, .parenthesized, target, [start], e.asValue⟩
  | items =>
    match items.find? (·.2) with
    | some (e, _) => fail e.start
    | none =>
      reportAll (items.flatMap (·.1.asValue))
      return .plain start .parenthesized

/-- A name as an operand; `x => y` and `async x => y` also begin with one. -/
def nameOperand (start : Nat) (mayBeArrow : Bool) : Parser Expression := do
  let name ← variableName
  if mayBeArrow && !(← lineBreak) then
    if name = "async" && (← seesVariable) then
      let _ ← bindingName
      return ← arrowRest g start true
    if ← seesMark .arrow then
      return ← arrowRest g start false
  let faults := if (← context).strict && unboundInStrict.contains name then [start] else []
  return ⟨start, .name name, faults, faults, []⟩

/-- An operand that begins with none of the operators. -/
def primary : Parser Expression := do
  let start ← here
  let mayBeArrow := (← state).arrowStart = some start
  let literal (form : Form) : Parser Expression := do
    advance
    return .plain start form
  match ← peek with
  | some (.word "this") | some (.word "null") | some (.word "true") | some (.word "false") =>
    literal .other
  | some (.word "async") =>
    match ← peekBehind with
    | some (.word "function") =>
      if ← lineBreakBehind then nameOperand g start mayBeArrow
      else
        advance
        functionOperand g start true
    | some (.mark .leftParen) =>
      if mayBeArrow && !(← lineBreakBehind) then
        advance
        parenthesized g start mayBeArrow true
      else nameOperand g start mayBeArrow
    | _ => nameOperand g start mayBeArrow
  | some (.mark .leftBracket) => listLiteral g
  | some (.mark .leftBrace) => objectLiteral g
  | some (.word "function") => functionOperand g start false
  | some (.word "class") => classOperand g start
  | some .number | some .regularExpression => literal .other
  | some (.string text) => literal (.string text)
  | some (.mark .backquote) =>
    advance
    templateRest g
    return .plain start .other
  | some (.mark .leftParen) => parenthesized g start mayBeArrow false
  | some (.mark .hash) =>
    advance
    memberName
    return .plain start .other
  | _ =>
    if ← seesVariable then nameOperand g start mayBeArrow else failHere

/-- One step behind an operand: a member, a call or a template. -/
def subscript (mayCall : Bool) (e : Expression) : Parser (Option Expression) := do
  let called : Expression := .plain e.start .other
  let optional ← (do
    if (← seesMark .question) && (← peekBehind) = some (.mark .dot) then
      advance
      advance
      return true
    else return false)
  let member : Expression :=
    if optional then called else ⟨e.start, .member, [], [e.start], []⟩
  match ← current? with
  | some (.mark .leftBracket) =>
    use e
    advance
    use (← nestedExpression g)
    expect .rightBracket
    return some member
  | some (.mark .leftParen) =>
    if optional || mayCall then
      use e
      arguments g
      return some called
    else return none
  | some (.mark .dot) =>
    if optional then failHere
    use e
    advance
    anyMemberName
    return some member
  | some (.mark .backquote) =>
    if optional then failHere
    use e
    advance
    templateRest g
    return some called
  | _ =>
    if optional then
      use e
      anyMemberName
      return some called
    else return none

/-- The members, calls and templates behind an operand. -/
def subscripts (mayCall : Bool) (e : Expression) : Parser Expression :=
  repeated (subscript g mayCall) e

/-- The word `super` with what must follow it. -/
def superOperand (mayCall : Bool) : Parser Expression := do
  let start ← here
  advance
  match ← current? with
  | some (.mark .dot) | some (.mark .leftBracket) =>
    match ← subscript g mayCall (.plain start .other) with
    | some e => subscripts g mayCall { e with form := .superMember }
    | none => failHere
  | some (.mark .leftParen) =>
    if mayCall then subscripts g true (.plain start .other) else failHere
  | _ => failHere

/-- The word `import` inside an expression. -/
def importOperand : Parser Expression := do
  let start ← here
  advance
  if ← eat .dot then
    expectWord "meta"
    report start
    return .plain start .other
  if ← seesMark .leftParen then
    arguments g
    return .plain start .other
  failHere

/-- An operand with its members, and what is constructed by `new`. -/
def memberOrNew : Parser Expression := do
  let start ← here
  if ← eatWord "new" then
    if ← eat .dot then
      expectWord "target"
      unless (← context).inFunction do report start
      return ← subscripts g false (.plain start .other)
    use (← g.parse .member)
    if ← seesMark .leftParen then
      arguments g
      subscripts g false (.plain start .other)
    else return .plain start .other
  else if ← seesWord "super" then superOperand g false
  else if ← seesWord "import" then
    subscripts g false (← importOperand g)
  else
    let e ← primary g
    if e.isArrow then return e
    subscripts g false e

def leftHandSide : Parser Expression := do
  if ← seesWord "super" then superOperand g true
  else
    let e ← memberOrNew g
    if e.isArrow then return e
    match ← peek with
    | some (.mark .leftParen) | some (.mark .question) => subscripts g true e
    | _ => return e

/-- An expression that is changed in place must be a name or a member. -/
def checkUpdated (e : Expression) : Parser Unit := do
  unless e.isSimpleTarget do report e.start

/-- An expression that waits for another one, at its keyword. -/
def awaited : Parser Expression := do
  let start ← here
  advance
  use (← g.parse .unary)
  return .plain start .unary

def unaryExpression : Parser Expression := do
  let start ← here
  let change : Parser Expression := do
    advance
    checkUpdated (← g.parse .unary)
    return .plain start .update
  let apply : Parser Expression := do
    advance
    orElse (do use (← g.parse .unary)) report
    return .plain start .unary
  match ← peek with
  | some (.mark .increment) | some (.mark .decrement) => change
  | some (.mark .tilde) | some (.mark .bang) | some (.binary "+") | some (.binary "-") => apply
  | l =>
    if unaryWords.any fun w => l = some (.word w) then apply
    else if l = some (.word "await") && (← context).inAsync then awaited g
    else
      let e ← leftHandSide g
      if e.isArrow || (← lineBreak) then return e
      match ← peek with
      | some (.mark .increment) | some (.mark .decrement) =>
        checkUpdated e
        advance
        return .plain e.start .update
      | _ => return e

def operator? : Parser (Option String) := do
  match ← current? with
  | some (.binary op) => return some op
  | some (.word "instanceof") => return some "instanceof"
  | some (.word "in") => return if (← context).allowsIn then some "in" else none
  | _ => return none

/-- Whether operators are mixed that may not be. -/
def mixesOperators (operators : List String) : Bool :=
  operators.contains "??" && (operators.contains "||" || operators.contains "&&")

/-- The operators and operands behind a first one. A power must not be taken of an operand with an
operator in front. -/
def operatorsBehind (e : Expression) : Parser Expression := do
  let (operators, _) ← repeated (fun (operators, e) => do
    match ← operator? with
    | none => return none
    | some op =>
      use e
      advance
      if op = "**" && e.form = .unary then failHere
      let e ← g.parse .unary
      return some (op :: operators, e))
    (([], e) : List String × Expression)
  if operators.isEmpty then return e
  if mixesOperators operators then report e.start
  return .plain e.start .binary

def binaryExpression : Parser Expression := do
  let start ← begin
  let e ← orElse (g.parse .unary) fun place => do
    match ← current with
    | .binary _ | .word "in" | .word "instanceof" =>
      report (← here)
      return .plain start .other
    | _ => fail place
  if e.isArrow then return e
  operatorsBehind g e

def conditionalExpression : Parser Expression := do
  let e ← binaryExpression g
  if e.isArrow then return e
  if ← eat .question then
    use e
    use (← nestedAssignment g)
    expect .colon
    use (← g.parse .assignment)
    return .plain e.start .conditional
  return e

def yielded : Parser Expression := do
  let start ← here
  advance
  let many ← eatToken (.binary "*")
  let stops ← (do
    match ← peek with
    | none | some (.mark .rightParen) | some (.mark .rightBracket) | some (.mark .rightBrace) |
      some (.mark .comma) | some (.mark .semicolon) | some (.mark .colon) => return true
    | _ => lineBreak)
  if many || !stops then
    use (← g.parse .assignment)
  return .plain start .other

/-- Where an arrow function may begin, if one may at all. -/
def arrowPlace : Parser (Option Nat) := do
  match ← current with
  | .word w =>
    let place ← here
    return if isReserved w then none else some place
  | .mark .leftParen => return some (← here)
  | _ => return none

/-- The assignment to an operand, if its sign is next. -/
def assignmentBehind (e : Expression) : Parser Expression := do
  match e.form with
  | .arrow | .conditional | .binary | .unary | .update => return e
  | _ =>
    match ← current? with
    | some (.assign op) =>
      if op = "=" then reportAll e.asTarget
      else checkUpdated e
      advance
      let right ← g.parse .assignment
      use right
      let assigned := match right.form with
        | .function params => some params
        | _ => none
      let faults := if op = "=" then [] else [e.start]
      return ⟨e.start, .assignment (op = "=") assigned, faults, faults, []⟩
    | _ => return e

/-- An expression without commas. -/
def assignmentExpression : Parser Expression := do
  let c ← context
  if c.inGenerator && (← seesWord "yield") then yielded g
  else
    let arrowStart ← arrowPlace
    setState fun s => { s with arrowStart }
    assignmentBehind g (← conditionalExpression g)

def listPattern : Parser Unit := do
  advance
  skipping (fun first => do
    match ← peek with
    | some (.mark .rightBracket) => return none
    | some (.mark .comma) =>
      advance
      return some true
    | _ =>
      unless first do
        expect .comma
        return some true
      let isRest ← eat .ellipsis
      let _ ← g.parse .binding
      if ← eatToken (.assign "=") then
        use (← nestedAssignment g)
      if isRest && !(← seesMark .rightBracket) then failHere
      return some false) true
  expect .rightBracket

def objectPattern : Parser Unit := do
  advance
  skipping (fun first => do
    match ← peek with
    | some (.mark .rightBrace) => return none
    | _ =>
      unless first do expect .comma
      if ← seesMark .rightBrace then return none
      if ← eat .ellipsis then
        let _ ← g.parse .binding
        return some false
      let shorthand ← seesVariable
      propertyName g false
      if ← eat .colon then
        let _ ← g.parse .binding
      else if !shorthand then failHere
      if ← eatToken (.assign "=") then
        use (← nestedAssignment g)
      return some false) true
  expect .rightBrace

def bindingPattern : Parser ParamName := do
  match ← current with
  | .word _ => return some (← bindingName)
  | .mark .leftBracket =>
    listPattern g
    return none
  | .mark .leftBrace =>
    objectPattern g
    return none
  | _ => failHere

end

end MixinExterns.Script
