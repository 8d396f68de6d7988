import MixinExterns.Text.Width

/-!
Where a character of a script stands: in which line, counted from one, and in which column of a
terminal, counted from zero. A line ends with a line feed, with a carriage return and a line feed,
or with a carriage return alone, unless the script ends there too.
-/

namespace MixinExterns.Script

structure Place where
  line : Nat
  column : Nat
  deriving DecidableEq, Repr

/-- The columns that a character takes. A character of two code units takes one more. -/
def columns (c : Char) : Nat :=
  if c = '\n' then 1 else Text.codeUnits c - 1 + Text.width c

def endsLine (c : Char) (rest : List Char) : Bool :=
  !rest.isEmpty && (c = '\n' || (c = '\r' && rest.head? ≠ some '\n'))

/-- The place of the `n`-th character of a text that begins at `p`. -/
def placeFrom (p : Place) : List Char → Nat → Place
  | _, 0 => p
  | [], _ => p
  | c :: rest, n + 1 =>
    placeFrom (if endsLine c rest then ⟨p.line + 1, 0⟩ else ⟨p.line, p.column + columns c⟩) rest n

/-- The place of the `n`-th character of a script, counted from zero. -/
def place (text : List Char) (n : Nat) : Place := placeFrom ⟨1, 0⟩ text n

end MixinExterns.Script
