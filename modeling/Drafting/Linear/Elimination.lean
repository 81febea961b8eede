import Drafting.Linear.Equation

/-!
# Elimination

The unknowns are eliminated one after the other. For each, the equation with the greatest leading
coefficient becomes its pivot and eliminates it from the others; if even that coefficient is below
the tolerance, the unknown is free. What is left is one column for each unknown, from which the
unknowns are found from the last to the first. Free unknowns are zero, and equations that are left
without unknowns are dropped, whether they hold or not.
-/

namespace Drafting.Linear

/-- What elimination finds for one unknown: nothing, or the equation that determines it from the
unknowns after it, whose coefficients start with its own. -/
inductive Column (α : Type) where
  | free
  | pivot (e : Equation α)
  deriving Repr, DecidableEq

variable {α : Type} [Scalar α]

/-- Whether a number takes the place of the best one so far. One that is not comparable takes it,
and keeps it. -/
def outranks (x best : α) : Bool := decide (best ≤ best) && !decide (x ≤ best)

/-- The place of the best of the given numbers, which stand from `place` on, and of the number
`best` at `found` before them. -/
def bestPlace (best : α) (found place : Nat) : List α → Nat
  | [] => found
  | x :: rest =>
    if outranks x best then bestPlace x place (place + 1) rest
    else bestPlace best found (place + 1) rest

/-- The equation at a place, and the others with the first one in its place. -/
def exchange {α : Type} (first : Equation α) (rest : List (Equation α)) :
    Nat → Equation α × List (Equation α)
  | 0 => (first, rest)
  | place + 1 => (rest.getD place first, rest.set place first)

/-- The equation with the greatest leading coefficient, and the others. The first equation takes
its place among them. -/
def takePivot (first : Equation α) (rest : List (Equation α)) :
    Equation α × List (Equation α) :=
  let size (e : Equation α) : α := Scalar.abs e.leading
  exchange first rest (bestPlace (size first) 0 1 (rest.map size))

/-- The columns of a system with `n` unknowns. -/
def echelon (tolerance : α) (n : Nat) (system : List (Equation α)) : List (Column α) :=
  match n, system with
  | 0, _ => []
  | n + 1, [] => List.replicate (n + 1) .free
  | n + 1, first :: rest =>
    let (pivot, others) := takePivot first rest
    if Scalar.abs pivot.leading < tolerance then
      .free :: echelon tolerance n ((first :: rest).map Equation.dropFirst)
    else .pivot pivot :: echelon tolerance n (others.map pivot.reduce)

/-- The unknowns that columns determine; free ones are zero. -/
def backSubstitute : List (Column α) → List α
  | [] => []
  | .free :: rest => 0 :: backSubstitute rest
  | .pivot e :: rest =>
    let others := backSubstitute rest
    e.solveFirst others :: others

/-- Solves a system with `n` unknowns. -/
def eliminate (tolerance : α) (n : Nat) (system : List (Equation α)) : List α :=
  backSubstitute (echelon tolerance n system)

end Drafting.Linear
