import Drafting.Constraint.Writing
import Drafting.Entity.Writing
import Drafting.Options.Reading
import Drafting.Sketch.Basic

/-!
# Writing sketches

The record of a sketch holds a copy of its options, its entities and its constraints in order.
-/

namespace Drafting.Sketch

variable {ν τ α : Type} [Name ν]

/-- The record of a sketch. -/
def toRecord [Scalar α] [Named ν α] [Component τ α] [Headroom] (s : Sketch ν τ α) :
    Except (Fault α) (Value α) := do
  s.options.requireCopy
  let constraints ← s.constraints.values.mapM Constraint.toRecord
  return .record [
    ("options", .record s.options.toFields),
    ("entities", .list (s.entities.values.map Entity.toRecord)),
    ("constraints", .list constraints)]

/-- How many entities and constraints a sketch has, and its method. -/
def engineText (s : Sketch ν τ α) : String :=
  "ConstraintSolverEngine(entities=" ++ toString s.entities.size ++ ", constraints=" ++
    toString s.constraints.size ++ ", method=" ++ s.options.method.name ++ ")"

/-- The text of a sketch inside its solver. -/
def solverText (s : Sketch ν τ α) : String := "ConstraintSolver(" ++ s.engineText ++ ")"

end Drafting.Sketch
