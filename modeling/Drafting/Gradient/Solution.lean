import Drafting.Gradient.Descent
import Drafting.Iteration

/-!
# Solutions of the gradient descent

A solve steps until the root mean square of the residuals is within the tolerance or the greatest
number of steps is reached. A failed solve names up to five constraints that are furthest from
holding, and says what it fell short of.
-/

namespace Drafting.Gradient

variable {ν τ α : Type} [Name ν]

/-- The numbers that steer a gradient descent. -/
structure Settings (τ : Type) where
  maxIterations : Nat
  tolerance : τ
  damping : τ

/-- Entities with the residual of a plan on them. -/
structure Iterate (ν τ : Type) [Name ν] where
  entities : Table ν (Entity ν τ)
  residual : Residual τ

/-- What a failed solve has to say. -/
structure Shortfall (τ : Type) where
  tolerance : τ
  iterations : Nat
  residual : Residual τ

/-- The outcome of a solve. -/
structure Solution (ν τ : Type) [Name ν] where
  success : Bool
  /-- The residual after each step. -/
  history : List (Residual τ)
  residual : Residual τ
  entities : Table ν (Entity ν τ)
  conflicts : Option (List ν)
  shortfall : Option (Shortfall τ)
  diagnostics : Diagnostics ν

/-- How many steps a solve has made. -/
def Solution.iterations (s : Solution ν τ) : Nat := s.history.length

variable [Scalar τ] [Scalar α] [Component τ α]

/-- Entities with the residual of a plan. -/
def Iterate.of (plan : List (Constraint ν α)) (entities : Table ν (Entity ν τ)) : Iterate ν τ :=
  ⟨entities, totalResidual plan entities⟩

/-- Whether the residual is within a tolerance. -/
def Iterate.isDone (tolerance : τ) (i : Iterate ν τ) : Bool := i.residual.isAtMost tolerance

/-- One step. -/
def Iterate.next (damping : τ) (plan : List (Constraint ν α)) (i : Iterate ν τ) : Iterate ν τ :=
  .of plan (descend damping plan i.entities)

/-- The iterates of a run after each of its steps. -/
def run (settings : Settings τ) (plan : List (Constraint ν α)) (start : Iterate ν τ) :
    List (Iterate ν τ) :=
  Iteration.trail settings.maxIterations (Iterate.isDone settings.tolerance)
    (Iterate.next settings.damping plan) start

/-- How many conflicts are named at most. -/
def maxConflicts : Nat := 5

/-- How many times the tolerance a residual has to be for its constraint to be in conflict. -/
def conflictFactor : τ := 10.0

/-- The planned constraints that are in conflict, with their residuals. -/
def offenders (tolerance : τ) (plan : List (Constraint ν α)) (entities : Table ν (Entity ν τ)) :
    List (ν × Residual τ) :=
  (plan.map fun c => (c.id, c.residual (snapshot entities))).filter fun offender =>
    offender.2.exceeds (tolerance * conflictFactor)

/-- The constraints furthest from holding; of equal ones the earlier comes first. -/
def worst (tolerance : τ) (plan : List (Constraint ν α)) (entities : Table ν (Entity ν τ)) :
    List ν :=
  (((offenders tolerance plan entities).mergeSort fun a b => !a.2.isLess b.2).take
    maxConflicts).map Prod.fst

/-- The solution when no constraint is planned. -/
def Solution.trivial (entities : Table ν (Entity ν τ)) (diagnostics : Diagnostics ν) :
    Solution ν τ where
  success := true
  history := []
  residual := .measured 0
  entities
  conflicts := none
  shortfall := none
  diagnostics

/-- The solution at the end of a run. -/
def Solution.ofRun (settings : Settings τ) (plan : List (Constraint ν α))
    (diagnostics : Diagnostics ν) (start : Iterate ν τ) (iterates : List (Iterate ν τ)) :
    Solution ν τ :=
  let final := Iteration.last start iterates
  let success := final.isDone settings.tolerance
  { success
    history := iterates.map Iterate.residual
    residual := final.residual
    entities := final.entities
    conflicts := if success then none else some (worst settings.tolerance plan final.entities)
    shortfall :=
      if success then none
      else some ⟨settings.tolerance, iterates.length, final.residual⟩
    diagnostics }

/-- Solves for the given constraints, starting from the given entities. -/
def solve (settings : Settings τ) (entities : Table ν (Entity ν τ))
    (constraints : List (Constraint ν α)) : Solution ν τ :=
  let diagnostics := diagnose entities constraints
  match plan entities constraints with
  | [] => .trivial entities diagnostics
  | plan =>
    let start := Iterate.of plan entities
    .ofRun settings plan diagnostics start (run settings plan start)

end Drafting.Gradient
