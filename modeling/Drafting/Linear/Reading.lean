import Drafting.Linear.Grid
import Drafting.Linear.LeastSquares
import Drafting.Linear.Parameter
import Drafting.Linear.Rank
import Drafting.Value.Comparison

/-!
# Linear algebra on values

The operations on matrices take matrices, right-hand sides and tolerances as values. Without rows or
without unknowns the solution is zero; a right-hand side has to have one number for each row.
-/

namespace Drafting.Linear

variable {α : Type} [Scalar α]

/-- The least pivot of an elimination where none is given. -/
def standardPivot : Value α := .real 1e-12

/-- The tolerance of a survey where none is given. -/
def standardTolerance : α := 1e-6

/-- Up to which share of the longest direction a direction counts as none: the distance from one to
the next number. -/
def standardResolution : α := 2.220446049250313e-16

/-- The fit of rows that a survey uses. -/
def standardFit {ι : Type} : Fit α ι := Survey.fitWithin standardResolution

/-- The ways to solve a system of equations. -/
inductive Approach where
  | elimination
  | leastSquares
  | newton
  deriving DecidableEq, Repr

/-- The values of equations, as many as there are rows. -/
def columnValues (g : Grid α) (rows : Nat) : Except (Fault α) (List α) :=
  if g.data.length = rows then .ok g.data else .error (.notColumn g.data.length rows)

/-- The values of equations that are fitted by `columns` unknowns. Values with more than two axes
are a row of matrices. -/
def fittedValues (g : Grid α) (rows columns : Nat) : Except (Fault α) (List α) :=
  let found (n : Nat) : Except (Fault α) (List α) :=
    let sets := g.data.length / rows
    if n ≠ rows then .error (.columnLength n rows)
    else if sets = 1 then .ok g.data
    else .error (.notColumn (columns * sets) columns)
  match g.shape.reverse with
  | [] => .error .noColumn
  | [n] => found n
  | _ :: n :: _ => found n

/-- The values that an approach uses. -/
def Approach.values (approach : Approach) (g : Grid α) (rows columns : Nat) :
    Except (Fault α) (List α) :=
  match approach with
  | elimination => columnValues g rows
  | leastSquares => fittedValues g rows columns
  | newton => if rows ≤ columns then columnValues g rows else fittedValues g rows columns

/-- Solves for the unknowns of a matrix by an approach. -/
def Approach.apply (approach : Approach) (tolerance : α) (columns : Nat) (matrix : List (List α))
    (values : List α) : List α :=
  let system : List (Equation α) := List.zipWith Equation.mk matrix values
  match approach with
  | elimination => eliminate tolerance columns system
  | leastSquares => Linear.leastSquares tolerance columns system
  | newton => newtonStep tolerance columns matrix values

/-- Solves the system that values describe; what is no matrix has no unknowns. -/
def Approach.solve (approach : Approach) (matrix values pivotTolerance : Value α) :
    Except (Fault α) (List α) := do
  let g ← Grid.ofValue matrix
  match g.shape with
  | [rows, columns] =>
    if g.data.isEmpty then return List.replicate columns 0
    else
      let values ← approach.values (← Grid.ofValue values) rows columns
      return approach.apply (← leastPivot pivotTolerance) columns (g.rows rows columns) values
  | _ => return []

/-- The label of a row: the one given, or the index where labels are given for fewer rows. -/
def labelAt (labels : Value α) (index : Nat) : Except (Fault α) (Value α) :=
  let orIndex (label? : Option (Value α)) : Value α :=
    label?.getD (.text ("row" ++ toString index))
  match labels with
  | .record fields =>
    if index < fields.length then .error (.missingField (toString index)) else .ok (orIndex none)
  | .mapping entries =>
    if index < entries.length then Value.entryAt entries index else .ok (orIndex none)
  | .array _ [] _ => .error .noSize
  | labels =>
    match labels.items with
    | .ok given => .ok (orIndex given[index]?)
    | .error _ => .error (.noLength labels.kindName)

/-- A label added to others, unless it is among them. -/
def addLabel (labels : List (Value α)) (label : Value α) : Except (Fault α) (List (Value α)) := do
  return if ← label.isAmong labels then labels else labels ++ [label]

/-- Surveys rows and then labels the redundant ones, each label once. -/
def surveyRows (fit : Fit α Nat) (tolerance : α) (label : Nat → Except (Fault α) (Value α))
    (matrix : List (List α)) : Except (Fault α) (Survey α (Value α)) :=
  let labelled (s : Survey α Nat) : Except (Fault α) (Survey α (Value α)) := do
    let labels ← s.redundant.mapM label
    return ⟨s.kept, s.basis, ← labels.foldlM addLabel []⟩
  match survey tolerance fit id matrix with
  | .ok s => labelled s
  | .error s => do
    let _ ← labelled s
    throw .notFinite

/-- Analyses a matrix with labelled rows. -/
def analyzeRows (fit : Fit α Nat) (tolerance : α) (label : Nat → Except (Fault α) (Value α))
    (columns : Nat) (matrix : List (List α)) : Except (Fault α) (Analysis (Value α)) :=
  (surveyRows fit tolerance label matrix).map fun s => s.analysis matrix.length columns

/-- Analyses the matrix that a value describes. -/
def analyzeValue (matrix labels tolerance : Value α) :
    Except (Fault α) (Analysis (Value α)) := do
  let g ← Grid.ofValue matrix
  match g.extent with
  | some (rows, columns) =>
    if g.data.isEmpty then return ⟨0, columns, 0, []⟩
    else
      analyzeRows standardFit (← factor tolerance) (labelAt labels) columns (g.rows rows columns)
  | none => if g.data.isEmpty then return ⟨0, 0, 0, []⟩ else throw .notMatrix

end Drafting.Linear
