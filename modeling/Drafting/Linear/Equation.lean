import Drafting.Scalar

/-!
# Linear equations

An equation has one coefficient for each unknown and a value. It holds of a list of numbers if the
inner product of its coefficients with them is its value. A system is a list of equations.
-/

namespace Drafting

/-- A linear equation: coefficients in the order of the unknowns, and the value they add up to. -/
structure Equation (α : Type) where
  coefficients : List α
  value : α
  deriving Repr, DecidableEq

namespace Linear

variable {α : Type} [Scalar α]

/-- The inner product of two lists; the longer one is cut off. -/
def dot (xs ys : List α) : α := Scalar.sum (List.zipWith (· * ·) xs ys)

/-- The length of a list of numbers as a vector. -/
def norm (xs : List α) : α := Scalar.sqrt (dot xs xs)

/-- The first list without `factor` times the second. -/
def subtract (factor : α) (xs ys : List α) : List α :=
  List.zipWith (fun x y => x - factor * y) xs ys

end Linear

namespace Equation

variable {α : Type} [Scalar α]

/-- What an equation makes of values for its unknowns. -/
def eval (e : Equation α) (xs : List α) : α := Linear.dot e.coefficients xs

/-- The coefficient of the first unknown. -/
def leading (e : Equation α) : α := e.coefficients.headD 0

/-- The equation without its first unknown. -/
def dropFirst (e : Equation α) : Equation α := ⟨e.coefficients.tail, e.value⟩

/-- The equation with its first unknown eliminated by means of another one. -/
def reduce (pivot e : Equation α) : Equation α :=
  let factor := e.leading / pivot.leading
  ⟨Linear.subtract factor e.coefficients.tail pivot.coefficients.tail,
    e.value - factor * pivot.value⟩

/-- The first unknown, given the others. -/
def solveFirst (e : Equation α) (others : List α) : α :=
  (e.value - e.dropFirst.eval others) / e.leading

end Equation

end Drafting
