import Drafting.Decimal.Binary64

/-!
# Shortest decimal text of a binary number

Among the decimals that read back as a given number of a precision, the one with the fewest digits
is chosen and, of several with that many digits, the one nearest to the number. For `1, 2, … 21`
digits the two neighbours of the value on that decimal grid are tested against the interval of reals
that round to it; the first grid with a hit wins.
-/

namespace Drafting.Decimal

/-- A decimal significand and the power of ten of its last digit. -/
structure Digits where
  significand : Nat
  unit : Int

/-- How many bits a significand has, and the exponent of the last place of the least numbers. -/
structure Precision where
  bits : Nat
  least : Int
  deriving DecidableEq, Repr

namespace Precision

/-- The precision of doubles. -/
def double : Precision := ⟨53, -1074⟩

/-- The precision of numbers that take so many bits in all. -/
def ofWidth : Nat → Precision
  | 16 => ⟨11, -24⟩
  | 32 => ⟨24, -149⟩
  | 128 => ⟨64, -16445⟩
  | _ => double

/-- How many digits a number may have before the point to be written in positional form, alone; in
a column, eight digits are the limit. -/
def plainDigits (p : Precision) : Nat :=
  match p.bits with
  | 11 => 3
  | 24 => 6
  | _ => 16

/-- The number of a precision nearest to a positive ratio, as its significand and its exponent;
there is no greatest one. -/
def round (p : Precision) (r : Ratio) : Nat × Int :=
  let size : Int := Int.ofNat r.num.log2 - r.den.log2
  let leading := if r.den * power 2 size ≤ r.num * power 2 (-size) then size else size - 1
  let unit := max (leading + 1 - p.bits) p.least
  ((Ratio.mk (r.num * power 2 (-unit)) (r.den * power 2 unit)).round, unit)

/-- The ratio that a positive ratio is rounded to in a precision. -/
def rounded (p : Precision) (r : Ratio) : Ratio :=
  let (m, q) := p.round r
  .ofBinary m q

/-- The significand and the exponent that a number `m * 2 ^ q` has in a precision, if it is one of
the numbers of that precision. -/
def fit (p : Precision) (m : Nat) (q : Int) : Nat × Int :=
  let dropped := max (Int.ofNat (m.log2 + 1) - p.bits) (p.least - q)
  (m * power 2 (-dropped) / power 2 dropped, q + dropped)

end Precision

/-- The reals that round to a positive number, as bounds on a common denominator. -/
structure Interval where
  low : Nat
  value : Nat
  high : Nat
  closed : Bool

/-- The rounding interval of `m * 2 ^ q` in quarters of the last binary place. Below a power of two
the gap is half as wide. -/
def Interval.ofBinary (p : Precision) (m : Nat) (q : Int) : Interval where
  low := if m = power 2 (p.bits - 1) ∧ p.least < q then 4 * m - 1 else 4 * m - 2
  value := 4 * m
  high := 4 * m + 2
  closed := m % 2 == 0

/-- Holds when the real `n / d` lies between the bounds, each of which is scaled by `scale`. -/
def Interval.contains (i : Interval) (scale n d : Nat) : Bool :=
  let x := n * d
  if i.closed then i.low * scale ≤ x && x ≤ i.high * scale
  else i.low * scale < x && x < i.high * scale

/-- The better of the two neighbours on the grid of `10 ^ unit`, if one of them reads back. -/
def nearestOnGrid? (i : Interval) (q : Int) (unit : Int) : Option Digits :=
  let scale := power 2 (q - 2) * power 10 (-unit)
  let step := power 2 (2 - q) * power 10 unit
  let below := i.value * scale / step
  let rest := i.value * scale - below * step
  let lowFits := i.contains scale below step
  let highFits := i.contains scale (below + 1) step
  let highNearer := step < 2 * rest || (step = 2 * rest && below % 2 = 1)
  match lowFits, highFits with
  | true, true => some ⟨if highNearer then below + 1 else below, unit⟩
  | true, false => some ⟨below, unit⟩
  | false, true => some ⟨below + 1, unit⟩
  | false, false => none

/-- The first of the grids, from coarse to fine, that holds a decimal which reads back. -/
def firstGrid? (i : Interval) (q : Int) (leading : Int) : Option Digits :=
  (List.range 21).findSome? fun n => nearestOnGrid? i q (leading - Int.ofNat n)

/-- The shortest digits of `m * 2 ^ q`, for positive `m`, without trailing zeros. -/
def shortest (p : Precision) (m : Nat) (q : Int) : Digits :=
  let (m, q) := p.fit m q
  let leading := (Ratio.ofBinary m q).decimalExponent
  let found := (firstGrid? (.ofBinary p m q) q leading).getD ⟨m, q⟩
  if found.significand = 10 then ⟨1, found.unit + 1⟩ else found

end Drafting.Decimal
