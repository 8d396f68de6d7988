/-!
Dates and times of TOML: a date, a time of day, or both, perhaps with an offset from universal
time. A text is read only if every part is in its range; it is written in one form.
-/

namespace MixinExterns.Toml

structure Date where
  year : Nat
  month : Nat
  day : Nat
  deriving DecidableEq, Repr

structure Time where
  hour : Nat
  minute : Nat
  second : Nat
  nanosecond : Nat
  deriving DecidableEq, Repr

inductive Offset where
  | zulu
  | minutes (n : Int)
  deriving DecidableEq, Repr

/-- A date, a time or both. Only both together may have an offset. -/
structure Datetime where
  date : Option Date := none
  time : Option Time := none
  offset : Option Offset := none
  deriving DecidableEq, Repr

namespace Datetime

/-- A number of exactly `n` digits, and what follows it. -/
def digits? : Nat → List Char → Nat → Option (Nat × List Char)
  | 0, rest, value => some (value, rest)
  | n + 1, c :: rest, value =>
    if c.isDigit then digits? n rest (value * 10 + (c.toNat - '0'.toNat)) else none
  | _ + 1, [], _ => none

def after? (c : Char) : List Char → Option (List Char)
  | d :: rest => if c = d then some rest else none
  | [] => none

def isLeap (year : Nat) : Bool :=
  year % 4 = 0 && (year % 100 ≠ 0 || year % 400 = 0)

def daysIn (year month : Nat) : Nat :=
  if month = 2 then (if isLeap year then 29 else 28)
  else if [4, 6, 9, 11].contains month then 30
  else 31

def date? (text : List Char) : Option (Date × List Char) := do
  let (year, rest) ← digits? 4 text 0
  let (month, rest) ← digits? 2 (← after? '-' rest) 0
  let (day, rest) ← digits? 2 (← after? '-' rest) 0
  guard (1 ≤ month && month ≤ 12 && 1 ≤ day && day ≤ daysIn year month)
  return (⟨year, month, day⟩, rest)

/-- The nanoseconds that the digits of a second's fraction make up; from the tenth on they do not
count. -/
def nanoseconds (fraction : List Char) : Nat :=
  ((fraction ++ List.replicate 9 '0').take 9).foldl
    (fun n c => n * 10 + (c.toNat - '0'.toNat)) 0

/-- Reads the fraction of a second, if there is one. -/
def fraction? (text : List Char) : Option (Nat × List Char) :=
  match text with
  | '.' :: rest =>
    let digits := rest.takeWhile Char.isDigit
    if digits.isEmpty then none else some (nanoseconds digits, rest.dropWhile Char.isDigit)
  | _ => some (0, text)

def time? (text : List Char) : Option (Time × List Char) := do
  let (hour, rest) ← digits? 2 text 0
  let (minute, rest) ← digits? 2 (← after? ':' rest) 0
  let (second, rest) ← digits? 2 (← after? ':' rest) 0
  let (nanosecond, rest) ← fraction? rest
  guard (hour ≤ 23 && minute ≤ 59 && second ≤ 60)
  return (⟨hour, minute, second, nanosecond⟩, rest)

def offset? (text : List Char) : Option (Option Offset) :=
  match text with
  | [] => some none
  | ['Z'] | ['z'] => some (some .zulu)
  | sign :: rest => do
    guard (sign = '+' || sign = '-')
    let (hours, rest) ← digits? 2 rest 0
    let (minutes, rest) ← digits? 2 (← after? ':' rest) 0
    guard (rest.isEmpty && hours ≤ 23 && minutes ≤ 59)
    let total : Int := hours * 60 + minutes
    return some (.minutes (if sign = '-' then -total else total))

def ofText? (text : List Char) : Option Datetime :=
  match date? text with
  | some (date, []) => some { date }
  | some (date, c :: rest) => do
    guard (c = 'T' || c = 't' || c = ' ')
    let (time, rest) ← time? rest
    let offset ← offset? rest
    return { date, time, offset }
  | none => do
    let (time, rest) ← time? text
    guard rest.isEmpty
    return { time }

/-- A number with at least `width` digits. -/
def padded (width n : Nat) : String :=
  let digits := Nat.toDigits 10 n
  String.ofList (List.replicate (width - digits.length) '0' ++ digits)

def dateText (d : Date) : String :=
  padded 4 d.year ++ "-" ++ padded 2 d.month ++ "-" ++ padded 2 d.day

/-- The text of a time. A fraction is written without zeros at its end. -/
def timeText (t : Time) : String :=
  let fraction := ((padded 9 t.nanosecond).toList.reverse.dropWhile (· = '0')).reverse
  padded 2 t.hour ++ ":" ++ padded 2 t.minute ++ ":" ++ padded 2 t.second ++
    (if fraction.isEmpty then "" else "." ++ String.ofList fraction)

def offsetText : Offset → String
  | .zulu => "Z"
  | .minutes n =>
    (if n < 0 then "-" else "+") ++ padded 2 (n.natAbs / 60) ++ ":" ++ padded 2 (n.natAbs % 60)

def text (d : Datetime) : String :=
  (d.date.elim "" dateText) ++ (if d.date.isSome && d.time.isSome then "T" else "") ++
    (d.time.elim "" timeText) ++ (d.offset.elim "" offsetText)

end Datetime

end MixinExterns.Toml
