import MixinExterns.Script.Parser.Expression

/-!
The statements of a script, and the parser of a whole script.
-/

namespace MixinExterns.Script

open MixinExterns.Script.Parser

section

variable (g : Grammar)

/-- A statement with nothing to be asked of it. -/
def Item.of (s : Statement) : Item := ⟨s, false⟩

def condition : Parser Unit := do
  expect .leftParen
  use (← nestedExpression g)
  expect .rightParen

/-- A statement inside another one. -/
def substatement (change : Context → Context) : Parser Unit := do
  let _ ← within change (g.parse (.statement false false))

def inLoop (c : Context) : Context := { c with inLoop := true }

/-- Leaving or repeating what is around. A label must be one of those around. -/
def jump : Parser Item := do
  let start ← here
  let leaves ← seesWord "break"
  advance
  let c ← context
  if ← eatSemicolon then
    unless c.inLoop || (leaves && c.inSwitch) do report start
  else
    let label ← variableName
    expectSemicolon
    unless c.labels.contains label do report start
    unless leaves do
      unless c.inLoop do report start
  return .of .other

/-- The result of a function. Outside of functions there is none. -/
def resultStatement : Parser Item := do
  let start ← here
  advance
  unless ← seesEnd do
    use (← nestedExpression g)
  expectSemicolon
  unless (← context).inFunction do report start
  return .of .other

def throwStatement : Parser Item := do
  advance
  if ← lineBreak then failHere
  use (← nestedExpression g)
  expectSemicolon
  return .of .other

def ifStatement : Parser Item := do
  advance
  condition g
  let branch : Parser Unit := do
    if (← seesWord "function") && !(← context).strict then
      let _ ← g.parse (.statement true false)
    else substatement g id
  branch
  if ← eatWord "else" then branch
  return .of .other

def whileStatement : Parser Item := do
  advance
  condition g
  substatement g inLoop
  return .of .other

/-- A loop with its condition behind. -/
def doStatement : Parser Item := do
  advance
  substatement g inLoop
  expectWord "while"
  condition g
  let _ ← eatSemicolon
  return .of .other

def withStatement : Parser Item := do
  let start ← here
  advance
  if (← context).strict then report start
  condition g
  substatement g id
  return .of .other

/-- The declared variables behind their keyword. In the head of a loop they need no values. -/
def declarators (inHead : Bool) : Parser Unit := do
  skipping (fun first => do
    if !first && !(← eat .comma) then return none
    let start ← here
    let name ← g.parse .binding
    if ← eatToken (.assign "=") then
      use (← g.parse .assignment)
    else
      let closesHead := inHead && ((← seesWord "in") || (← seesWord "of"))
      if name.isNone && !closesHead then fail start
    return some false) true

def variableStatement : Parser Item := do
  advance
  declarators g false
  unless ← eatSemicolon do
    report (← here)
    let _ ← orElse (do use (← nestedExpression g)) fun _ => pure ()
    skipping (fun _ => do
      if ← eatSemicolon then return none
      advance
      return some ()) ()
  return .of .declaration

/-- Whether the word `let` is followed by what it declares. -/
def letDeclares : Parser Bool := do
  match ← peekBehind with
  | some (.mark .leftBracket) | some (.mark .leftBrace) => return true
  | some (.word w) => return !isReserved w
  | _ => return false

def seesVariables : Parser Bool := do
  match ← peek with
  | some (.word "var") | some (.word "const") => return true
  | some (.word "let") => letDeclares
  | _ => return false

/-- The rest of a loop's head behind its first part. -/
def loopHead : Parser Unit := do
  expect .semicolon
  unless ← seesMark .semicolon do
    use (← nestedExpression g)
  expect .semicolon
  unless ← seesMark .rightParen do
    use (← nestedExpression g)

/-- The rest of the head of a loop over the members of an object or the items of a sequence. -/
def memberHead : Parser Unit := do
  if ← eatWord "of" then use (← nestedAssignment g)
  else
    expectWord "in"
    use (← nestedExpression g)

def forStatement : Parser Item := do
  advance
  let _ ← eatWord "await"
  expect .leftParen
  let outer (c : Context) : Context := { c with allowsIn := false }
  let overMembers : Parser Bool := do return (← seesWord "of") || (← seesWord "in")
  if ← seesMark .semicolon then loopHead g
  else if ← seesVariables then
    advance
    within outer (declarators g true)
    if ← overMembers then memberHead g else loopHead g
  else
    let e ← within outer (expression g)
    if ← overMembers then
      reportAll e.asTarget
      memberHead g
    else
      use e
      loopHead g
  expect .rightParen
  substatement g inLoop
  return .of .other

def switchStatement : Parser Item := do
  advance
  condition g
  expect .leftBrace
  let inside (c : Context) : Context := { c with inSwitch := true }
  let body : Parser Unit := do
    expect .colon
    skipping (fun _ => do
      match ← current with
      | .word "case" | .word "default" | .mark .rightBrace => return none
      | _ =>
        let _ ← within inside (g.parse (.statement true false))
        return some ()) ()
  let _ ← repeated (fun hasDefault => do
    if ← eatWord "case" then
      use (← nestedExpression g)
      body
      return some hasDefault
    else if ← seesWord "default" then
      if hasDefault then report (← here)
      advance
      body
      return some true
    else return none) false
  expect .rightBrace
  return .of .other

def tryStatement : Parser Item := do
  advance
  block g
  let caught ← eatWord "catch"
  if caught then
    if ← eat .leftParen then
      let _ ← g.parse .binding
      expect .rightParen
    block g
  let finished ← eatWord "finally"
  if finished then block g
  unless caught || finished do report (← here)
  return .of .other

def functionStatement (isAsync : Bool) : Parser Item := do
  advance
  let isGenerator ← eatToken (.binary "*")
  let name ← bindingName
  let _ ← functionRest g isAsync isGenerator
  return .of (.function name)

def classStatement : Parser Item := do
  advance
  let _ ← bindingName
  classRest g
  return .of .declaration

/-- A statement behind its label. -/
def labelled (label : String) : Parser Item := do
  let c ← context
  if c.labels.contains label then report (← lastStart)
  let inside (c : Context) : Context := { c with labels := label :: c.labels }
  if ← seesWord "function" then
    let _ ← within inside (g.parse (.statement true false))
  else substatement g inside
  return .of .other

def asksStrict (e : Expression) : Bool :=
  match e.form with
  | .string text => text = "\"use strict\"" || text = "'use strict'"
  | _ => false

/-- Ends a statement that is an expression. If an operator comes instead, that is reported and the
expression goes on. -/
def endExpression (e : Expression) : Parser Item := do
  use e
  if ← eatSemicolon then return ⟨e.statement, asksStrict e⟩
  match ← current? with
  | some (.binary _) =>
    report (← here)
    let _ ← operatorsBehind g e
    return .of .expression
  | _ => failHere

def expressionStatement : Parser Item := do
  let e ← nestedExpression g
  match e.form with
  | .name label =>
    if ← eat .colon then labelled g label else endExpression g e
  | _ => endExpression g e

def statementAt (declarations top : Bool) : Parser Item := do
  let declared (p : Parser Item) : Parser Item := do
    unless declarations do report (← here)
    p
  match ← current with
  | .word "import" =>
    match ← peekBehind with
    | some (.mark .leftParen) | some (.mark .dot) => expressionStatement g
    | _ => failHere
  | .word "export" => failHere
  | .word "await" =>
    if top then
      report (← here)
      let e ← awaited g
      let _ ← operatorsBehind g e
      let _ ← eatSemicolon
      return .of .expression
    else expressionStatement g
  | .word "break" | .word "continue" => jump
  | .word "debugger" =>
    advance
    expectSemicolon
    return .of .other
  | .word "do" => doStatement g
  | .word "for" => forStatement g
  | .word "function" => declared (functionStatement g false)
  | .word "class" => declared (classStatement g)
  | .word "if" => ifStatement g
  | .word "return" => resultStatement g
  | .word "switch" => switchStatement g
  | .word "throw" => throwStatement g
  | .word "try" => tryStatement g
  | .word "with" => withStatement g
  | .word "while" => whileStatement g
  | .word "var" => variableStatement g
  | .word "const" => if declarations then variableStatement g else expressionStatement g
  | .word "let" =>
    if declarations && (← letDeclares) then variableStatement g
    else expressionStatement g
  | .mark .leftBrace =>
    block g
    return .of .other
  | .mark .semicolon =>
    advance
    return .of .empty
  | .word "async" =>
    if (← peekBehind) = some (.word "function") && !(← lineBreakBehind) then
      advance
      functionStatement g true
    else expressionStatement g
  | _ => expressionStatement g

def productions : Grammar where
  parse
    | .assignment => assignmentExpression g
    | .unary => unaryExpression g
    | .member => memberOrNew g
    | .binding => bindingPattern g
    | .statement declarations top => statementAt g declarations top

end

def script : Parser (List Statement) := do
  let s ← Parser.state
  statements (Grammar.close productions (8 * s.tokens.length + 8)) true true false

end MixinExterns.Script
