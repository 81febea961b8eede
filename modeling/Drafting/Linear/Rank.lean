import Drafting.Linear.Rotation

/-!
# Rank and redundancy

The rows of a Jacobian are surveyed in order. A row whose distance from the span of the rows kept
before it is within a tolerance, relative to its length, is redundant, and its label is noted once;
any other row is kept. What a row is apart from the span is left to a fit by least squares. The fit
that is used takes off the shares of an orthogonal basis of the span, twice so that rounding does
not build up. Directions of the span that are too short beside the longest count as none, so that
even more rows may be kept than there are unknowns.
-/

namespace Drafting.Linear

/-- What the rows of a Jacobian say about the unknowns. -/
structure Analysis (ι : Type) where
  rows : Nat
  columns : Nat
  rank : Nat
  /-- The labels of rows that depend on earlier ones. -/
  redundant : List ι
  deriving Repr, DecidableEq

/-- How many unknowns the rows leave undetermined. -/
def Analysis.freedom {ι : Type} (a : Analysis ι) : Nat := a.columns - a.rank

/-- Whether the rows determine every unknown, and none of them is redundant. -/
def Analysis.isFullyConstrained {ι : Type} (a : Analysis ι) : Bool :=
  a.freedom == 0 && a.redundant.isEmpty

/-- What has been found about the rows so far. -/
structure Survey (α ι : Type) where
  kept : List (List α)
  /-- Orthogonal directions that span the kept rows. -/
  basis : List (List α)
  redundant : List ι

variable {α ι : Type} [Scalar α]

/-- The multiple of a direction that a row contains. -/
def share (row direction : List α) : α :=
  let square := dot direction direction
  if Scalar.isZero square then 0 else dot row direction / square

/-- A vector and the size that it has been divided by: its greatest number where squares of that
would be out of range, and one otherwise. -/
def tamed (v : List α) : α × List α :=
  let most := peak v
  if Scalar.isZero most || (decide (1e-100 ≤ most) && decide (most ≤ 1e100)) then (1, v)
  else (most, v.map (· / most))

/-- What is left of a row without its share of a direction. -/
def rejectOne (row direction : List α) : List α :=
  let direction := (tamed direction).2
  let (size, row) := tamed row
  (subtract (share row direction) row direction).map (size * ·)

/-- What is left of a row without its shares of orthogonal directions. -/
def reject (basis : List (List α)) (row : List α) : List α := basis.foldl rejectOne row

/-- The part of a row that is orthogonal to a basis. -/
def leftover (basis : List (List α)) (row : List α) : List α := reject basis (reject basis row)

/-- Whether what is left of a row is within a tolerance, relative to its length. -/
def isNegligible (tolerance : α) (row left : List α) : Bool :=
  decide (norm left ≤ tolerance * Scalar.greater 1 (norm row))

/-- A list of labels with one more, unless it is there. -/
def noteOnce [BEq ι] (labels : List ι) (label : ι) : List ι :=
  if labels.contains label then labels else labels ++ [label]

/-- Whether a row can be compared with the rows kept before it. -/
def Survey.accepts (s : Survey α ι) (row : List α) : Bool :=
  s.kept.isEmpty || (row :: s.kept).all fun r => r.all Scalar.isFinite

/-- From which share of the longest on a kept row is long enough not to be lost beside it. -/
def safeShare : α := 1e-8

/-- Whether kept rows are so different in length that the shorter may be lost. -/
def Survey.isGraded (s : Survey α ι) : Bool :=
  let longest := peak (s.kept.map norm)
  s.basis.any fun direction => decide (norm direction < safeShare * longest)

/-- The directions that rows are compared with. -/
def Survey.directions (resolution : α) (s : Survey α ι) : List (List α) :=
  if s.isGraded then resolved resolution s.kept else s.basis

/-- A way to fit a row by the rows that a survey has kept: what it leaves over of the row. -/
abbrev Fit (α ι : Type) := Survey α ι → List α → List α

/-- The fit that takes off the shares of the directions that rows are compared with. -/
def Survey.fitWithin (resolution : α) : Fit α ι :=
  fun s row => leftover (s.directions resolution) row

/-- The survey with one more row. -/
def Survey.add [BEq ι] (tolerance : α) (fit : Fit α ι) (s : Survey α ι) (label : ι)
    (row : List α) : Survey α ι :=
  if isNegligible tolerance row (fit s row) then
    { s with redundant := noteOnce s.redundant label }
  else { s with kept := s.kept ++ [row], basis := s.basis ++ [leftover s.basis row] }

/-- Surveys rows, the first of which has the given index. If one of them cannot be compared, the
survey ends before it. -/
def Survey.addAll [BEq ι] (tolerance : α) (fit : Fit α ι) (label : Nat → ι) (s : Survey α ι)
    (index : Nat) : List (List α) → Except (Survey α ι) (Survey α ι)
  | [] => .ok s
  | row :: rest =>
    if s.accepts row then
      (s.add tolerance fit (label index) row).addAll tolerance fit label (index + 1) rest
    else .error s

/-- The survey of rows of numbers; `label` names the rows by index. -/
def survey [BEq ι] (tolerance : α) (fit : Fit α ι) (label : Nat → ι)
    (jacobian : List (List α)) : Except (Survey α ι) (Survey α ι) :=
  Survey.addAll tolerance fit label ⟨[], [], []⟩ 0 jacobian

/-- The analysis that a survey of rows for `columns` unknowns amounts to. -/
def Survey.analysis (s : Survey α ι) (rows columns : Nat) : Analysis ι :=
  ⟨rows, columns, s.kept.length, s.redundant⟩

end Drafting.Linear
