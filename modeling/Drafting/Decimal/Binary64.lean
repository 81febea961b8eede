/-!
# Binary numbers as exact values

A double is a sign, a natural significand and a power of two, or one of the special values; so are
the numbers of other precisions. All number texts of the library are computed from this view in
exact natural-number arithmetic: as a ratio, which can be scaled by powers of ten and rounded.
-/

namespace Drafting

/-- A power of a natural number; a negative exponent counts as zero. -/
def power (base : Nat) (exponent : Int) : Nat := Nat.pow base exponent.toNat

/-- The value of a double: `finite s m q` is `m * 2 ^ q`, negated when `s` holds. -/
inductive Binary64 where
  | undefined
  | infinite (negative : Bool)
  | finite (negative : Bool) (significand : Nat) (exponent : Int)
  deriving Repr, DecidableEq

namespace Binary64

/-- Reads sign, significand and exponent from the sixty-four bits of a double. -/
def ofBits (bits : Nat) : Binary64 :=
  let negative := bits / power 2 63 % 2 == 1
  let biased := bits / power 2 52 % power 2 11
  let fraction := bits % power 2 52
  if biased = 2047 then
    if fraction = 0 then infinite negative else undefined
  else if biased = 0 then finite negative fraction (-1074)
  else finite negative (fraction + power 2 52) (Int.ofNat biased - 1075)

/-- The exact value of a double. -/
def ofFloat (x : Float) : Binary64 := ofBits x.toBits.toNat

end Binary64

/-- A positive rational number as numerator and denominator. -/
structure Ratio where
  num : Nat
  den : Nat

namespace Ratio

/-- The ratio `n * 2 ^ q`. -/
def ofBinary (n : Nat) (q : Int) : Ratio := ⟨n * power 2 q, power 2 (-q)⟩

/-- Whether a ratio is not above another. -/
def le (r s : Ratio) : Bool := r.num * s.den ≤ s.num * r.den

/-- The ratio of two positive ratios. -/
def quotient (r s : Ratio) : Ratio := ⟨r.num * s.den, r.den * s.num⟩

/-- The ratio divided by `10 ^ k`. -/
def inUnits (r : Ratio) (k : Int) : Ratio := ⟨r.num * power 10 (-k), r.den * power 10 k⟩

/-- The integer part. -/
def floor (r : Ratio) : Nat := r.num / r.den

/-- The nearest natural number; a tie goes to the even neighbour. -/
def round (r : Ratio) : Nat :=
  let whole := r.num / r.den
  let rest := 2 * (r.num % r.den)
  if rest < r.den then whole
  else if r.den < rest then whole + 1
  else whole + whole % 2

/-- The power `e` of ten with `10 ^ e ≤ r < 10 ^ (e + 1)`, for a positive ratio. -/
def decimalExponent (r : Ratio) : Int :=
  if r.den ≤ r.num then (Nat.toDigits 10 (r.num / r.den)).length - 1
  else
    let needed := (r.den + r.num - 1) / r.num
    Int.negOfNat (Nat.toDigits 10 (needed - 1)).length

end Ratio

end Drafting
