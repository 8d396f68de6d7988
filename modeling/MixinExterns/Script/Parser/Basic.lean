import MixinExterns.Script.Statement
import MixinExterns.Script.Token

/-!
Parsers over the tokens of a script. A parser either fails at a place or gives a result; either way
the tokens it did not take are left, so that another parser can go on from there. Besides failing
it can report faults that do not stop it.

The parsers of a grammar call each other. They are written over one that they may call for every
goal, and `Grammar.close` ties the knot with a bound on how deep the calls go.
-/

namespace MixinExterns.Script

/-- What a part of a script may contain because of where it stands. -/
structure Context where
  inFunction : Bool := false
  inAsync : Bool := false
  inGenerator : Bool := false
  strict : Bool := false
  inLoop : Bool := false
  inSwitch : Bool := false
  /-- Whether `in` is an operator. -/
  allowsIn : Bool := true
  labels : List String := []

/-- How far a parser has come. -/
structure State where
  tokens : List Token
  /-- More than the tokens that were there at the beginning. -/
  bound : Nat := tokens.length + 2
  /-- The beginning and the end of the token before. -/
  lastStart : Nat := 0
  lastStop : Nat := 0
  /-- Where a function of the form `x => y` may begin. -/
  arrowStart : Option Nat := none
  /-- The faults reported so far, latest first. -/
  faults : List Nat := []

/-- What a parser comes to. -/
inductive Outcome (α : Type) where
  | done (value : α) (state : State)
  | failed (place : Nat) (state : State)

/-- A parser. -/
def Parser (α : Type) : Type := Context → State → Outcome α

namespace Parser

variable {α β : Type}

instance : Monad Parser where
  pure a := fun _ s => .done a s
  bind p f := fun c s =>
    match p c s with
    | .done a s => f a c s
    | .failed place s => .failed place s

def context : Parser Context := fun c s => .done c s

def within (change : Context → Context) (p : Parser α) : Parser α := fun c s => p (change c) s

def state : Parser State := fun _ s => .done s s

def setState (f : State → State) : Parser Unit := fun _ s => .done () (f s)

def fail (place : Nat) : Parser α := fun _ s => .failed place s

/-- Runs a parser; if it fails, goes on with another one from the tokens that are left. -/
def orElse (p : Parser α) (recover : Nat → Parser α) : Parser α := fun c s =>
  match p c s with
  | .done a s => .done a s
  | .failed place s => recover place c s

def report (place : Nat) : Parser Unit :=
  setState fun s => { s with faults := place :: s.faults }

def reportAll (places : List Nat) : Parser Unit :=
  setState fun s => { s with faults := places.reverse ++ s.faults }

/-- Runs a step again and again until it gives none, at most `bound` times. -/
def iterate (step : α → Parser (Option α)) : Nat → α → Parser α
  | 0, a => pure a
  | bound + 1, a => do
    match ← step a with
    | some b => iterate step bound b
    | none => pure a

/-- Runs a step that takes a token each time until it gives none. -/
def repeated (step : α → Parser (Option α)) (a : α) : Parser α := do
  iterate step (← state).bound a

/-- Runs a step that takes a token each time until it gives none, for what it takes alone. -/
def skipping (step : α → Parser (Option α)) (a : α) : Parser Unit := do
  let _ ← repeated step a

def peek : Parser (Option Lexeme) := fun _ s => .done (s.tokens.head?.map (·.lexeme)) s

/-- What the token behind the next one is. -/
def peekBehind : Parser (Option Lexeme) := fun _ s =>
  .done ((s.tokens.drop 1).head?.map (·.lexeme)) s

def lineBreak : Parser Bool := fun _ s => .done (s.tokens.head?.any (·.afterLineBreak)) s

/-- Whether a line ends between the next token and the one behind it. -/
def lineBreakBehind : Parser Bool := fun _ s =>
  .done ((s.tokens.drop 1).head?.any (·.afterLineBreak)) s

def advance : Parser Unit := setState fun s =>
  match s.tokens with
  | [] => s
  | t :: rest => { s with tokens := rest, lastStart := t.start, lastStop := t.stop }

/-- The beginning of the next token, or of the last one at the end of the script. -/
def here : Parser Nat := fun _ s =>
  .done ((s.tokens.head?.map (·.start)).getD s.lastStart) s

def begin : Parser Nat := fun _ s =>
  .done ((s.tokens.head?.map (·.start)).getD s.lastStop) s

def lastStart : Parser Nat := fun _ s => .done s.lastStart s

/-- Fails at the next token, which does not belong here. -/
def failHere : Parser α := do
  let place ← here
  fail place

/-- What the next token is, failing if it is invalid. -/
def current? : Parser (Option Lexeme) := do
  match ← peek with
  | some (.invalid place) =>
    advance
    fail place
  | l => pure l

/-- What the next token is, failing if it is invalid or there is none. -/
def current : Parser Lexeme := do
  match ← current? with
  | some l => pure l
  | none => fail (← state).lastStop

def sees (l : Lexeme) : Parser Bool := do return (← peek) = some l

def seesMark (m : Mark) : Parser Bool := sees (.mark m)

def seesWord (w : String) : Parser Bool := sees (.word w)

/-- Takes the next token if it is this one. -/
def eatToken (l : Lexeme) : Parser Bool := do
  if ← sees l then
    advance
    return true
  else return false

/-- Takes the next token if it is this mark. -/
def eat (m : Mark) : Parser Bool := eatToken (.mark m)

/-- Takes the next token if it is this word. -/
def eatWord (w : String) : Parser Bool := eatToken (.word w)

def expect (m : Mark) : Parser Unit := do
  if ← eat m then return () else failHere

def expectWord (w : String) : Parser Unit := do
  if ← eatWord w then return () else failHere

/-- Whether a statement can end here: at a semicolon, a closing brace, the end of a line or of the
script. -/
def seesEnd : Parser Bool := do
  match ← peek with
  | none | some (.mark .semicolon) | some (.mark .rightBrace) => return true
  | _ => lineBreak

/-- Takes the semicolon of a statement, if it has not been left out rightly. -/
def eatSemicolon : Parser Bool := do
  if ← eat .semicolon then return true else seesEnd

def expectSemicolon : Parser Unit := do
  if ← eatSemicolon then return () else failHere

/-- Whether a word cannot stand for a variable here. -/
def isReservedIn (c : Context) (w : String) : Bool :=
  isReserved w || w = "enum" ||
    (w = "await" && c.inAsync) ||
    (w = "yield" && (c.inGenerator || c.strict)) ||
    (c.strict && (w = "let" || (strictWords.contains w && w ≠ "static")))

def seesVariable : Parser Bool := do
  match ← peek with
  | some (.word w) => return !isReservedIn (← context) w
  | _ => return false

def variableName : Parser String := do
  match ← current? with
  | some (.word w) =>
    advance
    let place ← lastStart
    if isReserved w then fail place
    else
      let c ← context
      if isReservedIn c w || (c.strict && w = "static") then report place
      return w
  | _ => failHere

def unboundInStrict : List String := ["eval", "arguments"]

def bindingName : Parser String := do
  let w ← variableName
  if (← context).strict && unboundInStrict.contains w then report (← lastStart)
  return w

/-- Takes the name of a member, which may be any word. -/
def memberName : Parser Unit := do
  match ← current? with
  | some (.word _) => advance
  | _ => failHere

/-- Takes the name of a member, perhaps a private one. -/
def anyMemberName : Parser Unit := do
  let _ ← eat .hash
  memberName

/-- Reports what is wrong with an expression that is only evaluated. -/
def use (e : Expression) : Parser Unit := reportAll e.asValue

end Parser

/-- A statement, and whether it asks for strict code. -/
structure Item where
  statement : Statement
  asksStrict : Bool := false

/-- What the parsers of a script call each other for, with what it gives. -/
inductive Goal : Type → Type where
  /-- An expression without commas. -/
  | assignment : Goal Expression
  /-- An operand with the operators that stand on it alone. -/
  | unary : Goal Expression
  /-- An operand with its members, and what is constructed by `new`. -/
  | member : Goal Expression
  /-- A pattern that binds names, as a parameter's name. -/
  | binding : Goal ParamName
  /-- A statement. A declaration may not stand everywhere. -/
  | statement (declarations top : Bool) : Goal Item

/-- A parser for every goal. -/
structure Grammar : Type 1 where
  parse : {α : Type} → Goal α → Parser α

/-- The grammar that calls itself through `step`, at most `depth` deep. -/
def Grammar.close (step : Grammar → Grammar) : Nat → Grammar
  | 0 => ⟨fun _ => Parser.failHere⟩
  | depth + 1 => ⟨fun goal context state => (step (close step depth)).parse goal context state⟩

end MixinExterns.Script
