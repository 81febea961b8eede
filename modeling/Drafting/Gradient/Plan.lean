import Drafting.Residual.Measure

/-!
# Plans

Which constraints a gradient descent works on: the active ones all of whose entities are there. The
others among the active ones are skipped. A planned constraint without a formula is reported as
unsupported; it counts as satisfied.
-/

namespace Drafting.Gradient

variable {ν τ α : Type} [Name ν]

/-- What a solve could not take into account, by constraint. -/
structure Diagnostics (ν : Type) where
  skipped : List ν
  unsupported : List ν
  deriving DecidableEq, Repr

/-- Whether every active constraint was taken into account. -/
def Diagnostics.isClean (d : Diagnostics ν) : Bool := d.skipped.isEmpty && d.unsupported.isEmpty

/-- The entities of a table as a snapshot. -/
def snapshot (entities : Table ν (Entity ν τ)) : Snapshot ν τ := entities.get?

/-- The ids that a constraint names and that are not there. -/
def missing (entities : Table ν (Entity ν τ)) (c : Constraint ν α) : List ν :=
  c.entities.filter fun id => !entities.contains id

variable [Scalar α]

/-- The active constraints whose entities are all there. -/
def plan (entities : Table ν (Entity ν τ)) (constraints : List (Constraint ν α)) :
    List (Constraint ν α) :=
  constraints.filter fun c => c.isActive && c.isResolvable (snapshot entities)

/-- The active constraints that name an entity that is not there. -/
def unresolved (entities : Table ν (Entity ν τ)) (constraints : List (Constraint ν α)) :
    List (Constraint ν α) :=
  constraints.filter fun c => c.isActive && !c.isResolvable (snapshot entities)

/-- What a solve of the given constraints does not take into account. -/
def diagnose (entities : Table ν (Entity ν τ)) (constraints : List (Constraint ν α)) :
    Diagnostics ν where
  skipped := (unresolved entities constraints).map Constraint.id
  unsupported :=
    ((plan entities constraints).filter fun c => !c.relation.isMeasured).map Constraint.id

/-- Demands that constraints can be planned one after the other: whether one is active has to be
known, and the ids that an active one names have to be such as can be looked up. -/
def requirePlannable : List (Constraint ν α) → Except (Fault α) Unit
  | [] => .ok ()
  | c :: rest => do
    if ← c.active.truth then Name.requireAll c.entities
    requirePlannable rest

end Drafting.Gradient
