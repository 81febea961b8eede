import Drafting.Scalar

/-!
# Residuals

How far a constraint is from holding: a number that was measured, or `infeasible` where the entities
lack what the measurement needs. An infeasible residual counts as greater than every finite number,
and no sum that it is part of comes out finite; it is kept apart from a measured number that has
overflowed.
-/

namespace Drafting

/-- A measured distance from holding, or none that could be measured. -/
inductive Residual (α : Type) where
  | infeasible
  | measured (r : α)
  deriving Repr, DecidableEq

namespace Residual

variable {α : Type}

/-- The residual of a measurement that may have failed. -/
def ofOption : Option α → Residual α
  | some r => measured r
  | none => infeasible

variable [Scalar α]

/-- Holds of a number that equals nothing, itself included. -/
def isUndefined (x : α) : Bool := !decide (x ≤ x)

/-- The measured number, if it is finite. -/
def finite? : Residual α → Option α
  | infeasible => none
  | measured r => if Scalar.isFinite r then some r else none

/-- Adds the square of a residual to a sum. An infeasible part makes the sum infeasible, an
undefined one makes it undefined, and the latter wins. -/
def addSquare (total r : Residual α) : Residual α :=
  match total, r with
  | measured t, measured x => measured (t + x * x)
  | measured t, infeasible => if isUndefined t then measured t else infeasible
  | infeasible, measured x => if isUndefined x then measured x else infeasible
  | infeasible, infeasible => infeasible

/-- The sum of the squares of residuals. -/
def sumOfSquares (rs : List (Residual α)) : Residual α := rs.foldl addSquare (measured 0)

/-- The root of the mean of the squares; zero for no residuals. -/
def rootMeanSquare (rs : List (Residual α)) : Residual α :=
  match rs with
  | [] => measured 0
  | rs =>
    match sumOfSquares rs with
    | infeasible => infeasible
    | measured t => measured (Scalar.sqrt (t / (rs.length : α)))

/-- Whether a residual is at most a bound. -/
def isAtMost (r : Residual α) (bound : α) : Bool :=
  match r with
  | infeasible => Scalar.isTop bound
  | measured x => decide (x ≤ bound)

/-- Whether a residual is greater than a bound. -/
def exceeds (r : Residual α) (bound : α) : Bool :=
  match r with
  | infeasible => Scalar.isFinite bound || decide (bound < 0)
  | measured x => decide (bound < x)

/-- Whether one residual is less than another. -/
def isLess (r s : Residual α) : Bool :=
  match r, s with
  | infeasible, _ => false
  | measured x, infeasible => Scalar.isFinite x || decide (x < 0)
  | measured x, measured y => decide (x < y)

/-- The residual as a number, the upper infinity where nothing could be measured. -/
def toReal : Residual α → α
  | infeasible => Scalar.ofNumeral (.infinite false)
  | measured r => r

end Residual

end Drafting
