import Drafting.Iteration
import Drafting.Linear.LeastSquares
import Drafting.Linear.Parameter
import Drafting.Plane.Demand

/-!
# Damped Newton steps

A solve of demands steps until the length of the residuals is within the tolerance or the greatest
number of steps is reached. A step goes a share of the way that makes up for the residuals as far
as their slopes can tell.
-/

namespace Drafting.Plane

/-- The numbers that steer a solve. -/
structure Settings (α : Type) where
  maxIterations : Nat
  tolerance : α
  epsilon : α
  pivotTolerance : α
  damping : Linear.Gain α

/-- Numbers in slots with the residuals of demands on them. -/
structure Iterate (α : Type) where
  params : List α
  residuals : List α
  deriving Repr, DecidableEq

variable {α : Type} [Scalar α]

namespace Iterate

/-- Numbers with the residuals of demands. -/
def of (demands : List (Demand α)) (params : List α) : Iterate α :=
  ⟨params, Demand.allResiduals demands params⟩

/-- The length of the residuals. -/
def norm (i : Iterate α) : α := Linear.norm i.residuals

/-- Whether the residuals are within a tolerance. -/
def isDone (tolerance : α) (i : Iterate α) : Bool := decide (i.norm ≤ tolerance)

/-- The full step that makes up for the residuals. -/
def delta (settings : Settings α) (demands : List (Demand α)) (i : Iterate α) : List α :=
  Linear.newtonStep settings.pivotTolerance i.params.length
    (Demand.jacobian settings.epsilon demands i.params) i.residuals

/-- One damped step. -/
def next (settings : Settings α) (demands : List (Demand α)) (i : Iterate α) : Iterate α :=
  .of demands <| List.zipWith (· + ·) i.params (settings.damping.apply (i.delta settings demands))

end Iterate

/-- The iterates of a solve after each of its steps. -/
def run (settings : Settings α) (demands : List (Demand α)) (start : Iterate α) :
    List (Iterate α) :=
  Iteration.trail settings.maxIterations (Iterate.isDone settings.tolerance)
    (Iterate.next settings demands) start

end Drafting.Plane
