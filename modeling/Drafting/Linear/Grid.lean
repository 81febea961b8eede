import Drafting.Value.Nested

/-!
# Grids of numbers

A grid is read from nested lists of numbers, whose lengths have to agree on every level. With two
axes it is a matrix, and its rows are lists of numbers.
-/

namespace Drafting.Linear

/-- Numbers in nested lists of equal lengths. -/
structure Grid (α : Type) where
  shape : List Nat
  data : List α

variable {α : Type} [Scalar α]

/-- The number that a single place takes over from a value. -/
def placed : Value α → Except (Fault α) α
  | .list _ | .tuple _ | .vector .. | .array _ (_ :: _) _ => .error .elementSequence
  | .array kind [] [v] => (Value.taken kind v).cellReal
  | v => v.cellReal

/-- The grid that a value describes. -/
def Grid.ofValue (v : Value α) : Except (Fault α) (Grid α) := do
  let o ← Outline.checked (← Outline.singled (.binary 64) v)
  return ⟨o.shape, ← o.leaves.mapM Value.cellReal⟩

/-- The numbers cut into rows of a length. -/
def Grid.rows (g : Grid α) (count length : Nat) : List (List α) :=
  (List.range count).map fun i => (g.data.drop (i * length)).take length

/-- Rows and columns of a grid that is taken as a matrix; one axis makes one row. -/
def Grid.extent (g : Grid α) : Option (Nat × Nat) :=
  match g.shape with
  | [] => some (1, 1)
  | [n] => some (1, n)
  | [rows, columns] => some (rows, columns)
  | _ => none

end Drafting.Linear
