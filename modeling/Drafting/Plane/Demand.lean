import Drafting.Linear.Equation

/-!
# Demands on coordinates

A demand is a relation between points whose coordinates are slots of a list of numbers, or constant.
Its residuals say how far it is from holding: one number, or one for each coordinate. Their slopes
along the slots are central differences. They can be found in place, by moving one number at a time
on and back (`Demand.sweep`).
-/

namespace Drafting.Plane

/-- Where a point's coordinates are found. -/
inductive Source (α : Type) where
  | slots (x y : Nat)
  | constant (x y : α)
  deriving Repr, DecidableEq

/-- A relation that coordinates should satisfy. A point is fixed to where it is if no place to be
is given. -/
inductive Demand (α : Type) where
  | distance (p q : Source α) (goal : α)
  | horizontal (p q : Source α)
  | vertical (p q : Source α)
  | coincident (p q : Source α)
  | fixed (p : Source α) (anchor : Option (α × α))
  deriving Repr, DecidableEq

variable {α : Type} [Scalar α]

/-- The coordinates of a point, given the numbers in the slots. -/
def Source.locate (params : List α) : Source α → α × α
  | slots x y => (params.getD x 0, params.getD y 0)
  | constant x y => (x, y)

namespace Demand

/-- How far a demand is from holding. -/
def residuals (params : List α) : Demand α → List α
  | distance p q goal =>
    let (x₁, y₁) := p.locate params
    let (x₂, y₂) := q.locate params
    [Scalar.hypot (x₁ - x₂) (y₁ - y₂) - goal]
  | horizontal p q => [(p.locate params).2 - (q.locate params).2]
  | vertical p q => [(p.locate params).1 - (q.locate params).1]
  | coincident p q =>
    let (x₁, y₁) := p.locate params
    let (x₂, y₂) := q.locate params
    [x₁ - x₂, y₁ - y₂]
  | fixed p anchor =>
    let (x, y) := p.locate params
    let (goalX, goalY) := anchor.getD (x, y)
    [x - goalX, y - goalY]

/-- The residuals of demands, one after the other. -/
def allResiduals (demands : List (Demand α)) (params : List α) : List α :=
  demands.flatMap (residuals params)

/-- The residuals with another number in one slot. -/
def residualsAt (demands : List (Demand α)) (params : List α) (slot : Nat) (x : α) : List α :=
  allResiduals demands (params.set slot x)

/-- The slopes of the residuals along one slot. -/
def slopes (epsilon : α) (demands : List (Demand α)) (params : List α) (slot : Nat) : List α :=
  let x := params.getD slot 0
  List.zipWith (fun after before => (after - before) / (2.0 * epsilon))
    (residualsAt demands params slot (x + epsilon)) (residualsAt demands params slot (x - epsilon))

/-- The slopes of each residual along all slots. -/
def jacobian (epsilon : α) (demands : List (Demand α)) (params : List α) : List (List α) :=
  let columns := (List.range params.length).map (slopes epsilon demands params)
  (List.range (allResiduals demands params).length).map fun row =>
    columns.map fun column => column.getD row 0

/-- The slopes along one slot, from the residuals with the number in it moved on and moved back. In
the end the number is put back. -/
def probe (epsilon : α) (demands : List (Demand α)) (slot : Nat) : StateM (List α) (List α) := do
  let x := (← get).getD slot 0
  modify fun params => params.set slot (x + epsilon)
  let after := allResiduals demands (← get)
  modify fun params => params.set slot (x - epsilon)
  let before := allResiduals demands (← get)
  modify fun params => params.set slot x
  return List.zipWith (fun after before => (after - before) / (2.0 * epsilon)) after before

/-- The slopes of each residual, from probes of one slot after the other. -/
def sweep (epsilon : α) (demands : List (Demand α)) : StateM (List α) (List (List α)) := do
  let base := allResiduals demands (← get)
  let columns ← (List.range (← get).length).mapM (probe epsilon demands)
  return (List.range base.length).map fun row => columns.map fun column => column.getD row 0

end Demand

end Drafting.Plane
