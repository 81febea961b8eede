import Drafting.Linear.Session
import Drafting.Log.Text
import Drafting.Plane.Writing

/-!
# The log of planar solves

What a solve and an analysis write to the log: which constraints they leave out, how long the
residuals are after each step and how they end. The calls that they consist of are traced. A run
that breaks off has the lines of what was done before, among them those of the calls that failed.
-/

namespace Drafting.Plane

/-- A record of the planar solver. -/
def planarRecord (severity : Log.Severity) (text : String) : Log.Record :=
  .plain severity .planar text

/-- A line with labels, given what keeps them from being written. If they are nested too deeply, so
is the line; for any other reason it is left out. -/
def labelled (fault? : Option (Fault Float)) (line : Log.Record) : List Log.Record :=
  match fault? with
  | none => [line]
  | some .tooDeep => [{ line with isTooDeep := true }]
  | some _ => []

section

variable [Headroom]

/-- The line for a constraint that is skipped. -/
def skipRecords : Standing Float → List Log.Record
  | .skipped label needed =>
    labelled (label.textFault? (Headroom.room .line)) <|
      planarRecord .debug ("Skipping " ++ label.plain ++ ": needs " ++ toString needed ++
        " resolvable point(s)")
  | _ => []

/-- The line for constraints that are ignored. -/
def ignoredRecords (d : Diagnostics Float) : List Log.Record :=
  if d.unsupported.isEmpty then []
  else
    labelled (Value.itemFault? (Headroom.room .line) d.unsupported) <|
      planarRecord .info ("Constraint types without a 2D residual (ignored): " ++
        (Value.list d.unsupported).shown)

end

/-- The line at the start of a run. -/
def startRecord (start : Iterate Float) : Log.Record :=
  planarRecord .info ("Newton-Raphson: " ++ toString start.residuals.length ++
    " residual row(s) over " ++ toString start.params.length ++ " variable(s), initial norm " ++
    (Decimal.Style.scientific 3).text start.norm)

/-- The line after a step; steps count from one. -/
def stepRecord (count : Nat) (reached : Iterate Float) : Log.Record :=
  planarRecord .debug ("Iteration " ++ toString count ++ ": |R| = " ++
    (Decimal.Style.general 6).text reached.norm)

/-- The line at the end of a run. -/
def endRecord (isDone : Bool) (count : Nat) (final : Iterate Float) : Log.Record :=
  planarRecord .info ("Newton-Raphson " ++ (if isDone then "converged" else "stopped") ++
    " after " ++ toString count ++ " iteration(s), |R|=" ++
    (Decimal.Style.scientific 3).text final.norm)

section

variable {ν : Type} [Name ν] [Named ν Float] [Headroom]

/-- Rows as a value. -/
def Board.rowsShown (b : Board ν Float) (rows : List (Row Float)) : Value Float :=
  .list (rows.map fun row => .object "_Row" (b.rowText row) .full)

/-- Diagnostics as a value that is no data. -/
def Diagnostics.shown (d : Diagnostics Float) : Value Float :=
  .object "SolveDiagnostics" d.text .full

/-- A solution as a value that is no data. -/
def Solution.shown (s : Solution ν Float) : Value Float := .object "SolveResult" s.text .full

namespace Drawing

/-- A call on a drawing. -/
def call (d : Drawing ν Float) (name : String) (arguments : List (Value Float)) : Log.Call :=
  ⟨.planar, "Solver2D." ++ name, .object "Solver2D" d.text .full :: arguments, []⟩

/-- The lines for skipped constraints, up to one that cannot be planned. -/
def skipRecords (d : Drawing ν Float) : List (Item × Nat) → List Log.Record
  | [] => []
  | (item, position) :: rest =>
    match d.standing position item with
    | .ok standing => Plane.skipRecords standing ++ d.skipRecords rest
    | .error _ => []

/-- The lines that planning writes. -/
def planRecords (d : Drawing ν Float) : List Log.Record :=
  d.skipRecords d.constraints.zipIdx ++
    match d.plan with
    | .ok plan => ignoredRecords plan.diagnostics
    | .error _ => []

/-- The plan of a solve, with its lines. -/
def planning (d : Drawing ν Float) : Logged (Except (Fault Float) (Plan Float)) :=
  (d.call "_plan" []).traced
    (.as fun plan => .tuple [d.board.rowsShown plan.rows, plan.diagnostics.shown])
    ⟨d.planRecords, d.plan⟩

/-- The slopes of the residuals of a plan, with their lines. -/
def slopes (d : Drawing ν Float) (plan : Plan Float) (params : List Float)
    (result : Except (Fault Float) (List (List Float))) :
    Logged (Except (Fault Float) (List (List Float))) :=
  (d.call "_jacobian" [d.board.rowsShown plan.rows, Linear.Session.column params]).traced
    (.as (Linear.Session.matrix params.length)) (.quiet result)

/-- The lines of a step from an iterate, which may come to nothing because of the options. -/
def stepRecords (d : Drawing ν Float) (plan : Plan Float) (demands : List (Demand Float))
    (i : Iterate Float) : List Log.Record :=
  let columns := i.params.length
  let slopes := d.slopes plan i.params <|
    (Linear.term d.options.epsilon).map fun epsilon => Demand.jacobian epsilon demands i.params
  slopes.records ++
    match slopes.value with
    | .error _ => []
    | .ok jacobian =>
      let step := Linear.Session.newtonStep d.options.pivotTolerance columns jacobian i.residuals <|
        (Linear.leastPivot d.options.pivotTolerance).map fun pivotTolerance =>
          Linear.newtonStep pivotTolerance columns jacobian i.residuals
      step.records

/-- The lines of steps that lead from iterate to iterate, `count` of them made before. -/
def runRecords (d : Drawing ν Float) (plan : Plan Float) (demands : List (Demand Float))
    (count : Nat) (from' : Iterate Float) : List (Iterate Float) → List Log.Record
  | [] => []
  | reached :: rest =>
    d.stepRecords plan demands from' ++
      stepRecord (count + 1) reached :: d.runRecords plan demands (count + 1) reached rest

/-- The lines of reading the numbers of the slots. -/
def readRecords (d : Drawing ν Float) : List Log.Record :=
  ((d.call "get_variable_values" []).traced (.as valuesRecord) (.quiet d.values)).records

/-- The lines of writing numbers back. -/
def commitRecords (d : Drawing ν Float) (params : List Float) : List Log.Record :=
  let call : Log.Call := d.call "_write_back" []
  (call.traced (.as fun _ => .null) (.quiet (d.commit params).result)).records

/-- The lines of taking over the numbers that a run has come to. -/
def concludeRecords (d : Drawing ν Float) (isDone : Bool) (count : Nat) (final : Iterate Float) :
    List Log.Record :=
  let committed := d.commit final.params
  d.commitRecords final.params ++
    match committed.result with
    | .ok _ => endRecord isDone count final :: committed.drawing.readRecords
    | .error _ => []

/-- The lines of solving demands. -/
def demandRecords (d : Drawing ν Float) (plan : Plan Float) (demands : List (Demand Float)) :
    List Log.Record :=
  let start := Iterate.of demands d.params
  startRecord start ::
    match d.options.maxIterations.iterationCap, d.options.tolerance.bound with
    | .error _, _ => []
    | .ok 0, .error _ => d.commitRecords d.params
    | .ok _, .error _ => []
    | .ok maxIterations, .ok tolerance =>
      match Settings.ofOptions d.options maxIterations tolerance start with
      | .error _ => d.stepRecords plan demands start
      | .ok settings =>
        let iterates := run settings demands start
        let final := Iteration.last start iterates
        d.runRecords plan demands 0 start iterates ++
          d.concludeRecords (final.isDone tolerance) iterates.length final

/-- The line when there is nothing to solve. -/
def idleRecord (d : Drawing ν Float) (p : Plan Float) : Log.Record :=
  planarRecord .info ("Nothing to solve (" ++ toString d.constraints.length ++ " constraint(s), " ++
    toString d.params.length ++ " variable(s), " ++ toString p.rows.length ++ " usable)")

/-- The lines of a solve inside its call. -/
def innerRecords (d : Drawing ν Float) : List Log.Record :=
  match d.plan with
  | .error _ => []
  | .ok plan =>
    if d.isIdle plan then d.idleRecord plan :: d.readRecords
    else
      match d.demands plan with
      | .error _ => []
      | .ok demands => d.demandRecords plan demands

/-- The lines of a solve with its outcome. -/
def solveRecords (d : Drawing ν Float) (result : Except (Fault Float) (Solution ν Float)) :
    List Log.Record :=
  ((d.call "solve" []).traced (.as Solution.shown)
    ⟨d.planning.records ++ d.innerRecords, result⟩).records

/-- The lines of a survey of the slopes of a plan with its outcome. -/
def surveyRecords (d : Drawing ν Float) (plan : Plan Float)
    (result : Except (Fault Float) (Linear.Analysis (Value Float))) : List Log.Record :=
  let slopes := d.slopes plan d.params do
    let demands ← d.demands plan
    let epsilon ← Linear.term d.options.epsilon
    return Demand.jacobian epsilon demands d.params
  slopes.records ++
    match slopes.value with
    | .ok jacobian =>
      (Linear.Session.analyze d.params.length jacobian plan.labels result).records
    | .error _ => []

/-- The lines of an analysis with its outcome. -/
def analysisRecords (d : Drawing ν Float)
    (result : Except (Fault Float) (Linear.Analysis (Value Float))) : List Log.Record :=
  let inner := match d.plan with
    | .ok plan => if d.isIdle plan then [] else d.surveyRecords plan result
    | .error _ => []
  ((d.call "analyze" []).traced (.as Linear.Session.analysisValue)
    ⟨d.planning.records ++ inner, result⟩).records

end Drawing

end

end Drafting.Plane
