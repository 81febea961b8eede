import Drafting.Linear.Elimination

/-!
# Least squares

A system that need not have a solution is replaced by its normal equations, which always have one:
the numbers that leave the least sum of squares. A Newton step solves the linear system of a
Jacobian; if it has more rows than unknowns, in the sense of least squares.
-/

namespace Drafting.Linear

variable {α : Type} [Scalar α]

/-- The coefficients of one unknown in all equations. -/
def coefficientsOf (system : List (Equation α)) (unknown : Nat) : List α :=
  system.map fun e => e.coefficients.getD unknown 0

/-- The normal equations of a system with `n` unknowns. -/
def normalEquations (n : Nat) (system : List (Equation α)) : List (Equation α) :=
  let columns := (List.range n).map (coefficientsOf system)
  let values := system.map Equation.value
  columns.map fun column => ⟨columns.map (dot column), dot column values⟩

/-- Solves a system with `n` unknowns in the sense of least squares. -/
def leastSquares (tolerance : α) (n : Nat) (system : List (Equation α)) : List α :=
  if system.isEmpty then List.replicate n 0
  else eliminate tolerance n (normalEquations n system)

/-- The equations of a step that makes up for the residuals of rows of a Jacobian. -/
def stepEquations (jacobian : List (List α)) (residuals : List α) : List (Equation α) :=
  List.zipWith (fun row residual => ⟨row, -residual⟩) jacobian residuals

/-- The step of `n` unknowns that makes up for residuals, as far as there is one. -/
def newtonStep (tolerance : α) (n : Nat) (jacobian : List (List α)) (residuals : List α) :
    List α :=
  let system := stepEquations jacobian residuals
  if system.length ≤ n then eliminate tolerance n system else leastSquares tolerance n system

end Drafting.Linear
