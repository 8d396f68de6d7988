import MixinExterns.Text.Hex
import MixinExterns.Toml.Value

/-!
The values of TOML that are written without quotes or brackets: truth values, dates and times,
integers of 64 bits and floating point numbers. Digits may be parted by single low lines.
-/

namespace MixinExterns.Toml

/-- Removes the low lines between digits. There must be a digit on both sides of each. -/
def joinDigits? (isDigit : Char → Bool) : List Char → Option (List Char)
  | [] => none
  | [c] => if isDigit c then some [c] else none
  | c :: '_' :: rest => if isDigit c then (joinDigits? isDigit rest).map (c :: ·) else none
  | c :: rest => if isDigit c then (joinDigits? isDigit rest).map (c :: ·) else none

def numberOf (base : Nat) (digits : List Char) : Nat :=
  digits.foldl (fun n c => n * base + (Text.hexDigit? c).getD 0) 0

/-- The least number above all integers of 64 bits. -/
def integerBound : Int := Int.ofNat (Nat.pow 2 63)

/-- An integer, if it has 64 bits. -/
def bounded? (n : Int) : Option Value :=
  if -integerBound ≤ n ∧ n < integerBound then some (.integer n) else none

/-- An integer in another base than ten. -/
def radixInteger? (base : Nat) (isDigit : Char → Bool) (text : List Char) : Option Value := do
  bounded? (numberOf base (← joinDigits? isDigit text))

/-- The digits of a decimal number before the point: none may lead that is zero. -/
def wholeDigits? (text : List Char) : Option (List Char) := do
  let digits ← joinDigits? Char.isDigit text
  guard (digits.length = 1 || digits.head? ≠ some '0')
  return digits

/-- Whether a text begins with a minus sign, and the text behind its sign. -/
def splitSign : List Char → Bool × List Char
  | '-' :: rest => (true, rest)
  | '+' :: rest => (false, rest)
  | text => (false, text)

def signedReal (negative : Bool) (x : Float) : Value := .real (if negative then -x else x)

def exponent? (text : List Char) : Option Int := do
  let (negative, text) := splitSign text
  let n : Int := numberOf 10 (← joinDigits? Char.isDigit text)
  return if negative then -n else n

/-- The floating point number with the given digits behind a power of ten, if it is not too
large. A power beyond all numbers gives zero or none at once. -/
def real? (digits : List Char) (exponent : Int) : Option Float :=
  let significand := numberOf 10 digits
  let magnitude : Int := digits.length + exponent
  if significand = 0 || magnitude < -400 then some 0.0
  else if 400 < magnitude then none
  else
    let x := Float.ofScientific significand (exponent < 0) exponent.natAbs
    if x.isInf then none else some x

/-- A decimal number behind its sign: an integer, or a floating point number if it has a fraction
or an exponent. -/
def decimal? (negative : Bool) (text : List Char) : Option Value := do
  let mantissa := text.takeWhile fun c => c ≠ 'e' && c ≠ 'E'
  let exponent := text.drop mantissa.length
  let whole := mantissa.takeWhile (· ≠ '.')
  let fraction := mantissa.drop whole.length
  let wholeDigits ← wholeDigits? whole
  if fraction.isEmpty && exponent.isEmpty then
    let n : Int := numberOf 10 wholeDigits
    bounded? (if negative then -n else n)
  else
    let fractionDigits ←
      if fraction.isEmpty then some [] else joinDigits? Char.isDigit (fraction.drop 1)
    let power ← if exponent.isEmpty then some 0 else exponent? (exponent.drop 1)
    let x ← real? (wholeDigits ++ fractionDigits) (power - fractionDigits.length)
    return signedReal negative x

def number? (text : List Char) : Option Value :=
  match text with
  | '0' :: 'x' :: rest => radixInteger? 16 Text.isHexDigit rest
  | '0' :: 'o' :: rest => radixInteger? 8 (fun c => '0' ≤ c && c ≤ '7') rest
  | '0' :: 'b' :: rest => radixInteger? 2 (fun c => c = '0' || c = '1') rest
  | _ =>
    let (negative, text) := splitSign text
    if text = ['i', 'n', 'f'] then some (signedReal negative (1.0 / 0.0))
    else if text = ['n', 'a', 'n'] then some (.real (0.0 / 0.0))
    else decimal? negative text

/-- A value without quotes or brackets. -/
def scalar? (text : List Char) : Option Value :=
  if text = ['t', 'r', 'u', 'e'] then some (.boolean true)
  else if text = ['f', 'a', 'l', 's', 'e'] then some (.boolean false)
  else
    match Datetime.ofText? text with
    | some d => some (.datetime d)
    | none => number? text

end MixinExterns.Toml
