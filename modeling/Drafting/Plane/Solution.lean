import Drafting.Linear.Reading
import Drafting.Plane.Newton
import Drafting.Plane.Plan

/-!
# Solving drawings

A solve plans, steps, writes the numbers it has come to back into the objects and tells what they
are. If nothing is planned or there is no unknown, it leaves everything as it is. Options are found
out in the order in which a solve needs them: those that only a step needs are not looked at when no
step is made. An analysis plans in the same way and surveys the slopes at the current numbers.
-/

namespace Drafting.Plane

variable {ν α : Type} [Name ν]

/-- The outcome of a solve. -/
structure Solution (ν α : Type) [Name ν] where
  success : Bool
  /-- The length of the residuals after each step. -/
  history : List α
  residual : α
  /-- The numbers of the unknowns by id. -/
  values : Table ν α
  diagnostics : Diagnostics α

/-- How many steps a solve has made. -/
def Solution.iterations (s : Solution ν α) : Nat := s.history.length

variable [Scalar α]

/-- The settings that options amount to, given where a solve starts. -/
def Settings.ofOptions (o : NewtonOptions α) (maxIterations : Nat) (tolerance : α)
    (start : Iterate α) : Except (Fault α) (Settings α) := do
  if maxIterations = 0 ∨ start.isDone tolerance then
    return ⟨maxIterations, tolerance, 0, 0, .uniform 0⟩
  else
    let epsilon ← Linear.term o.epsilon
    let pivotTolerance ← Linear.leastPivot o.pivotTolerance
    let damping ← Linear.Gain.ofValue start.params.length o.damping
    return ⟨maxIterations, tolerance, epsilon, pivotTolerance, damping⟩

namespace Drawing

variable [Named ν α]

/-- The drawing with other numbers, which are written back. -/
def commit (d : Drawing ν α) (params : List α) : Attempt ν α Unit := writeBack { d with params }

/-- The solution when there is nothing to solve. -/
def trivial (d : Drawing ν α) (diagnostics : Diagnostics α) : Attempt ν α (Solution ν α) :=
  ⟨d, d.values.map fun values => ⟨true, [], 0, values, diagnostics⟩⟩

/-- Takes over the numbers that a run has come to. -/
def conclude (d : Drawing ν α) (diagnostics : Diagnostics α) (tolerance : α) (start : Iterate α)
    (iterates : List (Iterate α)) : Attempt ν α (Solution ν α) :=
  let final := Iteration.last start iterates
  (d.commit final.params).andThen fun d _ =>
    ⟨d, d.values.map fun values =>
      { success := final.isDone tolerance
        history := iterates.map Iterate.norm
        residual := final.norm
        values
        diagnostics }⟩

/-- Solves demands, starting from the numbers in the slots. -/
def solveDemands (d : Drawing ν α) (diagnostics : Diagnostics α) (demands : List (Demand α)) :
    Attempt ν α (Solution ν α) :=
  let start := Iterate.of demands d.params
  match d.options.maxIterations.iterationCap, d.options.tolerance.bound with
  | .error fault, _ => d.fail fault
  | .ok 0, .error fault => (d.commit d.params).andThen fun d _ => d.fail fault
  | .ok _, .error fault => d.fail fault
  | .ok maxIterations, .ok tolerance =>
    d.given (Settings.ofOptions d.options maxIterations tolerance start) fun settings =>
      d.conclude diagnostics tolerance start (run settings demands start)

/-- The demands of the rows of a plan. -/
def demands (d : Drawing ν α) (p : Plan α) : Except (Fault α) (List (Demand α)) :=
  p.rows.mapM (Row.demand d.board d.params.length)

/-- Whether there is nothing to step for. -/
def isIdle (d : Drawing ν α) (p : Plan α) : Bool := d.params.isEmpty || p.rows.isEmpty

/-- Solves for the constraints of a drawing. -/
def solve (d : Drawing ν α) : Attempt ν α (Solution ν α) :=
  d.given d.plan fun plan =>
    if d.isIdle plan then d.trivial plan.diagnostics
    else d.given (d.demands plan) (d.solveDemands plan.diagnostics)

/-- What the constraints of a drawing say about its unknowns, by a survey that fits rows by
`fit`. -/
def analyze (d : Drawing ν α) (fit : Linear.Fit α Nat) :
    Except (Fault α) (Linear.Analysis (Value α)) := do
  let plan ← d.plan
  if d.isIdle plan then return ⟨0, d.params.length, 0, []⟩
  else
    let demands ← d.demands plan
    let epsilon ← Linear.term d.options.epsilon
    Linear.analyzeRows fit Linear.standardTolerance
      (Linear.labelAt (.list plan.labels)) d.params.length
      (Demand.jacobian epsilon demands d.params)

end Drawing

end Drafting.Plane
