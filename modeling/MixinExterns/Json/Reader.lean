import MixinExterns.Json.Error
import MixinExterns.Json.Value
import MixinExterns.Text.Hex

/-!
Reading JSON. A reader takes a cursor, the rest of the text with its place, to a value and the
cursor behind it. Brackets may be nested 127 deep. `value` is defined by recursion on the nesting
still allowed, and the items of a list or the members of an object by recursion on a bound on their
number.
-/

namespace MixinExterns.Json

/-- The unread rest of a text and where it begins. -/
structure Cursor where
  rest : List Char
  position : Position
  deriving DecidableEq

/-- A reader of `α`: a syntax error, or a result and the text behind it. -/
abbrev Reader (α : Type) := Cursor → Except SyntaxError (α × Cursor)

namespace Cursor

def ofString (text : String) : Cursor := ⟨text.toList, .start⟩

/-- The cursor behind the next character. -/
def next (c : Cursor) : Cursor :=
  match c.rest with
  | [] => c
  | ch :: rest => ⟨rest, c.position.after ch⟩

def fail {α : Type} (c : Cursor) (fault : SyntaxFault) : Except SyntaxError α :=
  .error ⟨fault, c.position⟩

def failAhead {α : Type} (c : Cursor) (fault : SyntaxFault) : Except SyntaxError α :=
  .error ⟨fault, c.position.advance 1 c.rest⟩

end Cursor

/-- The four characters that may stand between the parts of a JSON text. -/
def isSpace (c : Char) : Bool :=
  c = ' ' || c = '\n' || c = '\t' || c = '\r'

def skipSpaces : List Char → Position → Cursor
  | [], p => ⟨[], p⟩
  | ch :: rest, p => if isSpace ch then skipSpaces rest (p.after ch) else ⟨ch :: rest, p⟩

/-- The cursor at the next character that is no space. -/
def Cursor.skip (c : Cursor) : Cursor := skipSpaces c.rest c.position

def word : List Char → Cursor → Except SyntaxError Cursor
  | [], c => .ok c
  | w :: ws, c =>
    match c.rest with
    | [] => c.fail .endInValue
    | ch :: _ => if ch = w then word ws c.next else c.failAhead .expectedWord

def letterEscape (c : Char) : Option Char :=
  match c with
  | '"' => some '"'
  | '\\' => some '\\'
  | '/' => some '/'
  | 'b' => some '\x08'
  | 'f' => some '\x0c'
  | 'n' => some '\n'
  | 'r' => some '\r'
  | 't' => some '\t'
  | _ => none

/-- The code unit that the next four digits spell. Four bytes are looked at, digits or not. -/
def codeUnit (text : List Char) (p : Position) : Except SyntaxError (Nat × Position) :=
  let behind := p.advance 4 text
  if (text.take 4).foldl (fun n c => n + c.utf8Size) 0 < 4 then .error ⟨.endInString, behind⟩
  else
    match text with
    | a :: b :: c :: d :: _ =>
      match Text.hexNumber? [a, b, c, d] with
      | some n => .ok (n, behind)
      | none => .error ⟨.invalidEscape, behind⟩
    | _ => .error ⟨.invalidEscape, behind⟩

/-- Whether a code unit is the first of a surrogate pair. -/
def isLeading (n : Nat) : Bool := 0xD800 ≤ n && n ≤ 0xDBFF

def isTrailing (n : Nat) : Bool := 0xDC00 ≤ n && n ≤ 0xDFFF

/-- Reads a string behind its opening quote. `read` holds what was read, last character first. -/
def stringBody : List Char → Position → List Char → Except SyntaxError (String × Cursor)
  | [], p, _ => .error ⟨.endInString, p⟩
  | ch :: rest, p, read =>
    if ch = '"' then .ok (String.ofList read.reverse, ⟨rest, p.after ch⟩)
    else if ch = '\\' then
      match rest with
      | [] => .error ⟨.endInString, p.after ch⟩
      | e :: rest =>
        match letterEscape e with
        | some c => stringBody rest ((p.after ch).after e) (c :: read)
        | none =>
          if e ≠ 'u' then .error ⟨.invalidEscape, (p.after ch).advance 1 (e :: rest)⟩
          else
            match codeUnit rest ((p.after ch).after e) with
            | .error err => .error err
            | .ok (unit, p) =>
              if isTrailing unit then .error ⟨.loneSurrogate, p⟩
              else
                match rest with
                | _ :: _ :: _ :: _ :: rest =>
                  if !isLeading unit then stringBody rest p (Char.ofNat unit :: read)
                  else
                    match rest with
                    | [] => .error ⟨.endInString, p⟩
                    | '\\' :: [] => .error ⟨.endInString, p.after '\\'⟩
                    | '\\' :: 'u' :: rest =>
                      match codeUnit rest ((p.after '\\').after 'u') with
                      | .error err => .error err
                      | .ok (unit', p) =>
                        if !isTrailing unit' then .error ⟨.loneSurrogate, p⟩
                        else
                          match rest with
                          | _ :: _ :: _ :: _ :: rest =>
                            let point := (unit - 0xD800) * 0x400 + (unit' - 0xDC00) + 0x10000
                            stringBody rest p (Char.ofNat point :: read)
                          | _ => .error ⟨.endInString, p⟩
                    | '\\' :: rest =>
                      .error ⟨.unexpectedEndOfEscape, (p.after '\\').advance 1 rest⟩
                    | rest => .error ⟨.unexpectedEndOfEscape, p.advance 1 rest⟩
                | _ => .error ⟨.endInString, p⟩
    else if ch.toNat < 0x20 then .error ⟨.controlCharacter, p.after ch⟩
    else stringBody rest (p.after ch) (ch :: read)

def string : Reader String := fun c =>
  stringBody c.next.rest c.next.position []

def digitValue (c : Char) : Option Nat :=
  if '0' ≤ c ∧ c ≤ '9' then some (c.toNat - '0'.toNat) else none

def Cursor.digit? (c : Cursor) : Option Nat := c.rest.head?.bind digitValue

def skipDigits : List Char → Position → Cursor
  | [], p => ⟨[], p⟩
  | ch :: rest, p =>
    if (digitValue ch).isSome then skipDigits rest (p.after ch) else ⟨ch :: rest, p⟩

/-- Takes decimal digits into a number for as long as it stays within a bound. -/
def digitsWithin (bound : Nat) : List Char → Position → Nat → Nat × Cursor
  | [], p, n => (n, ⟨[], p⟩)
  | ch :: rest, p, n =>
    match digitValue ch with
    | none => (n, ⟨ch :: rest, p⟩)
    | some d =>
      if n * 10 + d ≤ bound then digitsWithin bound rest (p.after ch) (n * 10 + d)
      else (n, ⟨ch :: rest, p⟩)

/-- The largest significand that is kept. -/
def significandBound : Nat := Nat.pow 2 64 - 1

/-- The largest exponent that is kept. -/
def exponentBound : Nat := Nat.pow 2 31 - 1

/-- A power of ten up to `10 ^ 308`. -/
def powerOfTen (n : Nat) : Float := Float.ofScientific 1 false n

/-- The quotient `x / 10 ^ n`, dividing by at most `10 ^ 308` at a time. -/
def scaledDown (x : Float) (n : Nat) : Float :=
  if n ≤ 308 then x / powerOfTen n
  else if x == 0.0 then x
  else scaledDown (x / powerOfTen 308) (n - 308)
termination_by n

/-- The number `significand * 10 ^ exponent`, if it is not too large. -/
def scaled? (significand : Nat) (exponent : Int) : Option Float :=
  let x := significand.toUInt64.toFloat
  match exponent with
  | .ofNat n =>
    if n ≤ 308 then
      let y := x * powerOfTen n
      if y.isInf then none else some y
    else if x == 0.0 then some x
    else none
  | .negSucc n => some (scaledDown x (n + 1))

def signed (negative : Bool) (x : Float) : Number :=
  .real (if negative then -x else x)

/-- The number with a significand and an exponent, read up to the cursor. -/
def realNumber (negative : Bool) (significand : Nat) (exponent : Int) : Reader Number := fun c =>
  match scaled? significand exponent with
  | some x => .ok (signed negative x, c)
  | none => c.fail .numberOutOfRange

def exponentPart (negative : Bool) (significand : Nat) (scale : Int) : Reader Number := fun c =>
  let c := c.next
  let (down, c) :=
    match c.rest with
    | '+' :: _ => (false, c.next)
    | '-' :: _ => (true, c.next)
    | _ => (false, c)
  match c.rest with
  | [] => c.fail .endInValue
  | ch :: _ =>
    if (digitValue ch).isNone then c.failAhead .invalidNumber
    else
      let (exponent, c) := digitsWithin exponentBound c.rest c.position 0
      if c.digit?.isSome then
        if significand ≠ 0 && !down then c.failAhead .numberOutOfRange
        else .ok (signed negative 0.0, skipDigits c.rest c.position)
      else
        realNumber negative significand (if down then scale - exponent else scale + exponent) c

/-- Reads the digits behind a decimal point, at the point. -/
def fractionPart (negative : Bool) (significand : Nat) (scale : Nat) : Reader Number := fun c =>
  let c := c.next
  match c.rest with
  | [] => c.failAhead .endInValue
  | ch :: _ =>
    if (digitValue ch).isNone then c.failAhead .invalidNumber
    else
      let (significand, c') := digitsWithin significandBound c.rest c.position significand
      let taken := c'.position.column - c.position.column
      let c' := skipDigits c'.rest c'.position
      let exponent : Int := scale - taken
      match c'.rest with
      | 'e' :: _ | 'E' :: _ => exponentPart negative significand exponent c'
      | _ => realNumber negative significand exponent c'

/-- The number of an integer's digits alone. A minus zero and what has no place among the signed
and unsigned numbers of 64 bits is a floating point number. -/
def integerNumber (negative : Bool) (n : Nat) : Number :=
  if !negative then .integer n
  else if n = 0 || Nat.pow 2 63 < n then signed true n.toUInt64.toFloat
  else .integer (-n)

/-- Reads a number behind its sign. -/
def number (negative : Bool) : Reader Number := fun c =>
  match c.rest with
  | [] => c.fail .endInValue
  | ch :: _ =>
    if (digitValue ch).isNone then c.failAhead .invalidNumber
    else if ch = '0' && c.next.digit?.isSome then c.next.failAhead .invalidNumber
    else
      let (significand, c') := digitsWithin significandBound c.rest c.position 0
      let rest := skipDigits c'.rest c'.position
      let dropped := rest.position.column - c'.position.column
      match rest.rest with
      | '.' :: _ => fractionPart negative significand dropped rest
      | 'e' :: _ | 'E' :: _ => exponentPart negative significand dropped rest
      | _ =>
        if dropped = 0 then .ok (integerNumber negative significand, rest)
        else realNumber negative significand dropped rest

/-- Reads what stands before an item of a list or a member of an object other than the first: a
comma. The next character is no space and does not close the list or object. -/
def separator (close : Char) (missing : SyntaxFault) (c : Cursor) : Except SyntaxError Cursor :=
  match c.rest with
  | ',' :: _ =>
    let c := c.next.skip
    match c.rest with
    | [] => c.failAhead .endInValue
    | ch :: _ => if ch = close then c.failAhead .trailingComma else .ok c
  | _ => c.failAhead missing

/-- Reads at most `bound` items up to the closing bracket. -/
def items (item : Reader Value) : Nat → Bool → Reader (List Value)
  | 0, _, c => c.failAhead .endInList
  | bound + 1, first, c =>
    let c := c.skip
    match c.rest with
    | [] => c.failAhead .endInList
    | ch :: _ =>
      if ch = ']' then .ok ([], c.next)
      else do
        let c ← if first then pure c else separator ']' .expectedListCommaOrEnd c
        let (v, c) ← item c
        let (vs, c) ← items item bound false c
        return (v :: vs, c)

def member (item : Reader Value) : Reader (String × Value) := fun c =>
  match c.rest with
  | '"' :: _ => do
    let (key, c) ← string c
    let c := c.skip
    match c.rest with
    | [] => c.failAhead .endInObject
    | ':' :: _ =>
      let (v, c) ← item c.next
      return ((key, v), c)
    | _ => c.failAhead .expectedColon
  | _ => c.failAhead .keyNotString

/-- Reads at most `bound` members up to the closing brace. -/
def members (item : Reader Value) : Nat → Bool → Reader (List (String × Value))
  | 0, _, c => c.failAhead .endInObject
  | bound + 1, first, c =>
    let c := c.skip
    match c.rest with
    | [] => c.failAhead .endInObject
    | ch :: _ =>
      if ch = '\x7d' then .ok ([], c.next)
      else do
        let c ← if first then pure c else separator '\x7d' .expectedObjectCommaOrEnd c
        let (m, c) ← member item c
        let (ms, c) ← members item bound false c
        return (m :: ms, c)

/-- Reads a value, given how to read a list and an object at their opening brackets. -/
def valueWith (list object : Reader Value) : Reader Value := fun c =>
  let c := c.skip
  match c.rest with
  | [] => c.failAhead .endInValue
  | ch :: _ =>
    if ch = 'n' then do return (.null, ← word ['u', 'l', 'l'] c.next)
    else if ch = 't' then do return (.bool true, ← word ['r', 'u', 'e'] c.next)
    else if ch = 'f' then do return (.bool false, ← word ['a', 'l', 's', 'e'] c.next)
    else if ch = '-' then do
      let (n, c) ← number true c.next
      return (.number n, c)
    else if (digitValue ch).isSome then do
      let (n, c) ← number false c
      return (.number n, c)
    else if ch = '"' then do
      let (s, c) ← string c
      return (.string s, c)
    else if ch = '[' then list c
    else if ch = '\x7b' then object c
    else c.failAhead .expectedValue

/-- Reads a value whose brackets are nested at most `depth` deep and hold at most `bound` items or
members each. -/
def value (bound : Nat) : Nat → Reader Value
  | 0 => valueWith (·.failAhead .tooDeep) (·.failAhead .tooDeep)
  | depth + 1 =>
    valueWith
      (fun c => do
        let (vs, c) ← items (value bound depth) bound true c.next
        return (.list vs, c))
      (fun c => do
        let (ms, c) ← members (value bound depth) bound true c.next
        return (.object ms, c))

/-- How deep brackets may be nested. -/
def maxDepth : Nat := 127

/-- Reads the value at the beginning of a text. Brackets cannot hold more than there are characters. -/
def readFirst (text : String) : Except SyntaxError (Value × Cursor) :=
  value text.length maxDepth (.ofString text)

/-- Nothing but spaces may be left. -/
def finish (c : Cursor) : Except SyntaxError Unit :=
  let c := c.skip
  match c.rest with
  | [] => .ok ()
  | _ :: _ => c.failAhead .trailingCharacters

def read (text : String) : Except SyntaxError Value := do
  let (v, c) ← readFirst text
  finish c
  return v

end MixinExterns.Json
