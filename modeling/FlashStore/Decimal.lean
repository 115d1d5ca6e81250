/-!
Non-negative binary floating-point numbers of 64 bits as exact values, and the shortest decimal that
reads back as one of them.

A number is a mantissa below `2 ^ 53` times a power of two not below `2 ^ -1074`. Sums are not
needed; a ratio of two natural numbers is rounded to the nearest number, and to the even mantissa
when two are equally near.

The numbers that round to `mantissa * 2 ^ exponent` are an interval around it, whose ends count if
the mantissa is even. Powers of ten are tried from the largest down; the first with a multiple in
the interval fixes the place of the last digit, and of the two multiples around the number the
nearer one is taken, or the even one if both are as near.
-/

namespace FlashStore.Decimal

structure Binary64 where
  mantissa : Nat
  exponent : Int
  deriving DecidableEq, Repr, Inhabited

namespace Binary64

def hiddenBit : Nat := 1 <<< 52

def minExponent : Int := -1074
def maxExponent : Int := 971

def zero : Binary64 := ⟨0, minExponent⟩

def isZero (x : Binary64) : Bool := x.mantissa == 0

/-- The quotient rounded to the nearest natural number, a tie to the even one. -/
def roundDiv (num den : Nat) : Nat :=
  let quotient := num / den
  let twice := 2 * (num % den)
  if den < twice ∨ (twice = den ∧ quotient % 2 = 1) then quotient + 1 else quotient

def inUnits (num den : Nat) (exponent : Int) : Nat × Nat :=
  (num <<< (-exponent).toNat, den <<< exponent.toNat)

/-- The number nearest to `num / den`: none if that is beyond the largest one. -/
def ofRatio? (num den : Nat) : Option Binary64 :=
  if num = 0 then
    some zero
  else
    let guess := max ((num.log2 : Int) - den.log2 - 52) minExponent
    let scaled := inUnits num den guess
    let exponent :=
      if scaled.1 / scaled.2 < hiddenBit ∧ minExponent < guess then guess - 1 else guess
    let scaled := inUnits num den exponent
    let mantissa := roundDiv scaled.1 scaled.2
    let rounded : Binary64 :=
      if mantissa = 2 * hiddenBit then ⟨hiddenBit, exponent + 1⟩ else ⟨mantissa, exponent⟩
    if maxExponent < rounded.exponent then none else some rounded

def ofNat? (n : Nat) : Option Binary64 := ofRatio? n 1

def mul? (x y : Binary64) : Option Binary64 :=
  let exponent := x.exponent + y.exponent
  ofRatio? ((x.mantissa * y.mantissa) <<< exponent.toNat) (1 <<< (-exponent).toNat)

def div? (x y : Binary64) : Option Binary64 :=
  let exponent := x.exponent - y.exponent
  ofRatio? (x.mantissa <<< exponent.toNat) (y.mantissa <<< (-exponent).toNat)

def powerOfTen? (k : Nat) : Option Binary64 := ofNat? (Nat.pow 10 k)

end Binary64

/-! Decimals -/

structure Scientific where
  digits : Nat
  exponent : Int
  deriving DecidableEq, Repr, Inhabited

namespace Binary64

/-- A decimal on the grid of `10 ^ k` that reads back as `x`. All quantities are scaled by a common
factor: a grid step becomes `step`, a quarter of the unit of `x` becomes `quarter`. -/
def onGrid? (x : Binary64) (k : Int) : Option Scientific :=
  let fine := x.exponent - 2
  let step := Nat.pow 10 k.toNat <<< (-fine).toNat
  let quarter := Nat.pow 10 (-k).toNat <<< fine.toNat
  let value := 4 * x.mantissa * quarter
  let below := if x.mantissa = hiddenBit ∧ minExponent < x.exponent then quarter else 2 * quarter
  let low := value - below
  let high := value + 2 * quarter
  let reads (d : Nat) : Bool :=
    if x.mantissa % 2 = 0 then low ≤ d * step && d * step ≤ high
    else low < d * step && d * step < high
  let floor := value / step
  let nearest := roundDiv value step
  let other := if nearest = floor then floor + 1 else floor
  if reads nearest then some ⟨nearest, k⟩
  else if reads other then some ⟨other, k⟩
  else none

/-- Tries the grids from `10 ^ (n - 330)` down. -/
def searchGrids (x : Binary64) : Nat → Scientific
  | 0 => ⟨0, 0⟩
  | n + 1 =>
    match x.onGrid? ((n : Int) - 330) with
    | some found => found
    | none => x.searchGrids n

def shortest (x : Binary64) : Scientific :=
  if x.isZero then ⟨0, 0⟩ else x.searchGrids 640

end Binary64

/-- How a decimal is laid out: positional when its first digit stands for a power of ten between
the two bounds, with `.0` where no digit follows the point; otherwise with an exponent, which
carries its sign and no leading zero. -/
structure Layout where
  leastPositional : Int := -5
  greatestPositional : Int := 15

def Layout.render (layout : Layout) (number : Scientific) : String :=
  let digits := Nat.toDigits 10 number.digits
  let leading := (digits.length : Int) - 1 + number.exponent
  let zeros (n : Int) := List.replicate n.toNat '0'
  let text :=
    if number.digits = 0 then
      ['0', '.', '0']
    else if leading < layout.leastPositional ∨ layout.greatestPositional < leading then
      let fraction := match digits.drop 1 with
        | [] => []
        | more => '.' :: more
      digits.take 1 ++ fraction ++ ['e', if leading < 0 then '-' else '+'] ++
        Nat.toDigits 10 leading.natAbs
    else if 0 ≤ number.exponent then
      digits ++ zeros number.exponent ++ ['.', '0']
    else if 0 ≤ leading then
      digits.take (leading + 1).toNat ++ '.' :: digits.drop (leading + 1).toNat
    else
      '0' :: '.' :: zeros (-leading - 1) ++ digits
  String.ofList text

end FlashStore.Decimal
