/-!
The shortest decimal of a binary floating point number. A positive finite number `x` stands for
every real that rounds to it, an interval around `x`. Of the grids of multiples of a power of ten
the coarsest one with a point in that interval is taken, and its point nearest to `x`.
-/

namespace MixinExterns.Decimal

/-- The decimal `digits * 10 ^ exponent`. -/
structure Scaled where
  digits : Nat
  exponent : Int
  deriving DecidableEq, Repr

/-- A positive finite floating point number `mantissa * 2 ^ exponent`. -/
structure Binary where
  mantissa : Nat
  exponent : Int
  /-- Whether the gap to the number below is half of the gap to the number above. -/
  narrowBelow : Bool
  deriving DecidableEq, Repr

/-- The magnitude of a finite number other than zero. -/
def Binary.ofFloat (x : Float) : Binary :=
  let bits : Nat := x.toBits.toNat
  let hidden : Nat := Nat.pow 2 52
  let scale : Nat := bits / hidden % Nat.pow 2 11
  let fraction : Nat := bits % hidden
  if scale = 0 then ⟨fraction, -1074, false⟩
  else ⟨hidden + fraction, Int.ofNat scale - 1075, fraction = 0 && 1 < scale⟩

/-- The power `base ^ n` as a quotient of naturals. -/
def ratioPow (base : Nat) (n : Int) : Nat × Nat :=
  match n with
  | .ofNat k => (Nat.pow base k, 1)
  | .negSucc k => (1, Nat.pow base (k + 1))

/-- The point of the grid of multiples of `10 ^ k` that is nearest to the number among those which
round to it, as a multiple of `10 ^ k`. -/
def Binary.pointOn? (x : Binary) (k : Int) : Option Nat :=
  let (num2, den2) := ratioPow 2 (x.exponent - 2)
  let (num10, den10) := ratioPow 10 k
  let scaled (n : Nat) := n * num2 * den10
  let unit := num10 * den2
  let value := scaled (4 * x.mantissa)
  let low := scaled (4 * x.mantissa - (if x.narrowBelow then 1 else 2))
  let high := scaled (4 * x.mantissa + 2)
  let inside (n : Nat) : Bool :=
    if x.mantissa % 2 = 0 then low ≤ n * unit && n * unit ≤ high
    else low < n * unit && n * unit < high
  let below := value / unit
  let above := below + 1
  if inside below then
    if inside above && above * unit - value < value - below * unit then some above else some below
  else if inside above then some above
  else none

/-- Tries the grids of multiples of `10 ^ k` from `k = 310` down. -/
def Binary.search (x : Binary) : Nat → Int → Scaled
  | 0, k => ⟨0, k⟩
  | n + 1, k =>
    match x.pointOn? k with
    | some digits => ⟨digits, k⟩
    | none => search x n (k - 1)

/-- The shortest decimal that rounds to the number. -/
def Binary.shortest (x : Binary) : Scaled :=
  x.search 700 310

end MixinExterns.Decimal
