import MixinExterns.Log.Event
import MixinExterns.Script.Lexer
import MixinExterns.Script.Parser.Statement
import MixinExterns.Script.Position

/-!
Checking that a text is a well-formed script. The statements of the script are given, or else the
place of its first error: the one that parsing stopped at or, if it went through, the first fault
that was reported.
-/

namespace MixinExterns.Script

/-- The statements of a list of tokens, or the number of the character at which they fail. -/
def statementsOf (tokens : List Token) : Except Nat (List Statement) :=
  match script {} { tokens } with
  | .failed place _ => .error place
  | .done statements s =>
    match s.faults.getLast? with
    | some place => .error place
    | none => .ok statements

/-- The statements of a script, or the place of its first error. -/
def parse (text : String) : Except Place (List Statement) :=
  (statementsOf (tokens text.toList)).mapError (place text.toList)

/-- Parses a script and reports how many statements it has. -/
def check (text : String) : Logged (Except Place (List Statement)) :=
  match parse text with
  | .error place => pure (.error place)
  | .ok statements => do
    Logged.note (.parsed statements.length)
    return .ok statements

end MixinExterns.Script
