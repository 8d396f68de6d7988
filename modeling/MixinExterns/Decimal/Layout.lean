import MixinExterns.Decimal.Shortest

/-!
How a floating point number is written out: the digits of its shortest decimal, either with the
point in its place and at least one digit on each side of it, or as one leading digit with an
exponent. Which of the two depends on where the point stands.
-/

namespace MixinExterns.Decimal

/-- The positions of the point that are written out. A number `0.d₁d₂… * 10 ^ p` has its point at
position `p`. -/
structure Layout where
  least : Option Int
  most : Option Int

/-- Numbers from `0.00001` up to, but not including, `10 ^ 16` are written out. -/
def Layout.compact : Layout := ⟨some (-4), some 16⟩

/-- Numbers from `0.0001` up to, but not including, `10 ^ 16` are written out. -/
def Layout.general : Layout := ⟨some (-3), some 16⟩

def Layout.positional : Layout := ⟨none, none⟩

def Layout.admits (layout : Layout) (point : Int) : Bool :=
  layout.least.all (· ≤ point) && layout.most.all (point ≤ ·)

def writtenOut (digits : List Char) (point : Int) : List Char :=
  if point ≤ 0 then '0' :: '.' :: List.replicate (-point).toNat '0' ++ digits
  else
    let whole := point.toNat
    if digits.length ≤ whole then
      digits ++ List.replicate (whole - digits.length) '0' ++ ['.', '0']
    else digits.take whole ++ '.' :: digits.drop whole

/-- One digit, the others behind a point if there are any, and the exponent. -/
def withExponent (digits : List Char) (point : Int) : List Char :=
  let exponent := (toString (point - 1)).toList
  match digits with
  | [] => 'e' :: exponent
  | [d] => d :: 'e' :: exponent
  | d :: rest => d :: '.' :: rest ++ 'e' :: exponent

/-- The text of a floating point number. -/
def Layout.write (layout : Layout) (x : Float) : String :=
  if x.isNaN then "NaN"
  else
    let sign := if x.toBits.toNat < Nat.pow 2 63 then "" else "-"
    if x.isInf then sign ++ "inf"
    else if x == 0.0 then sign ++ "0.0"
    else
      let d := (Binary.ofFloat x).shortest
      let digits := Nat.toDigits 10 d.digits
      let point := digits.length + d.exponent
      sign ++ String.ofList
        (if layout.admits point then writtenOut digits point else withExponent digits point)

end MixinExterns.Decimal
