import Drafting.Linear.Elimination

/-!
# Elimination in place

The equations of a system stand in a tableau that is changed in place. For each unknown the best of
the equations below the pivots changes places with the first of them, becomes a pivot, and is
subtracted from those below it, from the column of the unknown on. Coefficients to the left of it
stay, so what is left of a column that was skipped is still there when an equation becomes a pivot.
At the end the pivots determine their unknowns, from the last to the first.
-/

namespace Drafting

namespace Equation

variable {α : Type} [Scalar α]

/-- The coefficient of an unknown. -/
def coefficient (unknown : Nat) (e : Equation α) : α := e.coefficients.getD unknown 0

/-- The equation without the unknowns before one. -/
def drop {α : Type} (unknown : Nat) (e : Equation α) : Equation α :=
  ⟨e.coefficients.drop unknown, e.value⟩

/-- The equation with an unknown eliminated by means of another one. The coefficients of the
unknowns before it stay. -/
def clear (unknown : Nat) (pivot e : Equation α) : Equation α :=
  let factor := e.coefficient unknown / pivot.coefficient unknown
  ⟨e.coefficients.take unknown ++ Linear.subtract factor (e.coefficients.drop unknown)
    (pivot.coefficients.drop unknown), e.value - factor * pivot.value⟩

/-- An unknown, given those after it. -/
def solveAt (unknown : Nat) (e : Equation α) (xs : List α) : α :=
  (e.value - (e.drop (unknown + 1)).eval (xs.drop (unknown + 1))) / e.coefficient unknown

end Equation

namespace Linear

/-- The equations in the order in which elimination has put them, those that have become pivots and
those below them, and the rows and columns of the pivots. -/
structure Tableau (α : Type) where
  done : List (Equation α)
  rest : List (Equation α)
  pivots : List (Nat × Nat)

namespace Tableau

variable {α : Type} [Scalar α]

/-- All equations of the tableau. -/
def rows {α : Type} (s : Tableau α) : List (Equation α) := s.done ++ s.rest

/-- The equation with the greatest coefficient of an unknown, and the others. The first equation
takes its place among them. -/
def takePivotAt (unknown : Nat) (first : Equation α) (rest : List (Equation α)) :
    Equation α × List (Equation α) :=
  let size (e : Equation α) : α := Scalar.abs (e.coefficient unknown)
  exchange first rest (bestPlace (size first) 0 1 (rest.map size))

/-- The tableau after another unknown. -/
def step (tolerance : α) (s : Tableau α) (unknown : Nat) : Tableau α :=
  match s.rest with
  | [] => s
  | first :: rest =>
    let (pivot, others) := takePivotAt unknown first rest
    if Scalar.abs (pivot.coefficient unknown) < tolerance then s
    else ⟨s.done ++ [pivot], others.map (pivot.clear unknown),
      s.pivots ++ [(s.done.length, unknown)]⟩

/-- The tableau of a system after the first unknowns. -/
def reduced (tolerance : α) (system : List (Equation α)) (count : Nat) : Tableau α :=
  (List.range count).foldl (step tolerance) ⟨[], system, []⟩

/-- What a pivot, given by row and column, makes of its unknown. -/
def determine (rows : List (Equation α)) (pivot : Nat × Nat) (xs : List α) : List α :=
  xs.set pivot.2 ((rows.getD pivot.1 ⟨[], 0⟩).solveAt pivot.2 xs)

/-- The unknowns that the pivots determine, from the last pivot to the first. The others are
zero. -/
def solution (s : Tableau α) (n : Nat) : List α :=
  s.pivots.foldr (determine s.rows) (List.replicate n 0)

end Tableau

end Linear

end Drafting
