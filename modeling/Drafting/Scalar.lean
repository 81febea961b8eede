import Drafting.Decimal.Numeral

/-!
# Scalars

The numbers that sketches are made of. `Scalar` asks for the arithmetic and the comparisons that
the solvers use and for nothing else, so one definition of a solver runs on doubles and can be
reasoned about over the reals. `isFinite` is what separates a usable number from an overflow or an
undefined result; over the reals every number is finite. Numbers that can be more than a real, or
that can be at fault, say in the last six fields what becomes of them.
-/

namespace Drafting

/-- Arithmetic, order and the few transcendental functions that measuring a sketch takes. -/
class Scalar (α : Type) extends Zero α, One α, Add α, Sub α, Mul α, Div α, Neg α, LE α, LT α,
    NatCast α, OfScientific α where
  decidableLe : DecidableLE α
  decidableLt : DecidableLT α
  abs : α → α
  sqrt : α → α
  acos : α → α
  /-- The length of the hypotenuse over two legs. -/
  hypot : α → α → α
  isFinite : α → Bool
  /-- The least natural number that is not below a number. -/
  ceil : α → Nat
  /-- The number nearest to an integer, unless the integer is out of range. -/
  ofInt? : Int → Option α
  /-- The greatest number that is not above an integer. -/
  ofIntBelow : Int → α
  /-- How an integer compares with a number, by exact value; not at all if it is undefined. -/
  compareInt? : Int → α → Option Ordering
  ofNumeral : Numeral → α
  /-- How a number is written. -/
  text : α → String
  /-- The sign, the significand and the exponent of a number, if it is a binary one. -/
  binary? : α → Option Binary64 := fun _ => none
  /-- A number as an element with a width in bits. -/
  narrow : Nat → α → α := fun _ x => x
  /-- The second number if it is greater, else the first. -/
  greater : α → α → α := fun a b => @ite _ (a < b) (decidableLt a b) b a
  /-- The second number if it is less, else the first. -/
  lesser : α → α → α := fun a b => @ite _ (b < a) (decidableLt b a) b a
  /-- The first number moved on by the second. -/
  increase : α → α → α := fun a b => a + b
  /-- What moving a number on by another leaves of the first where it is also used elsewhere: the
  number itself, unless numbers of this sort are changed in place. -/
  wear : α → α → α := fun a _ => a
  /-- A number as a result that other numbers are compared with. -/
  settle : α → α := fun a => a
  /-- The second number, once the first is known to be no fault. -/
  after : α → α → α := fun _ b => b

namespace Scalar

attribute [reducible, instance] decidableLe decidableLt

-- numbers that have these operations anyway, as doubles do, keep to their own
attribute [instance(100)] toZero toOne toAdd toSub toMul toDiv toNeg toLE toLT
  toNatCast toOfScientific

variable {α : Type} [Scalar α]

/-- The number moved into the range from `low` to `high`. -/
def clamp (x low high : α) : α := greater low (lesser high x)

/-- Holds of zero with either sign. -/
def isZero (x : α) : Bool := decide (x ≤ 0) && decide (0 ≤ x)

/-- Holds of the upper infinity alone. -/
def isTop (x : α) : Bool := !isFinite x && decide (0 ≤ x)

/-- Sums a list from the left, starting at zero. -/
def sum (xs : List α) : α := xs.foldl (· + ·) 0

end Scalar

end Drafting
