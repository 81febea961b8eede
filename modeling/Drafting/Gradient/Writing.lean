import Drafting.Gradient.Fault
import Drafting.Entity.Writing
import Drafting.Constraint.Basic
import Drafting.Log.Record
import Drafting.Log.Text

/-!
# Reporting a gradient descent

The record of a solution, the sentence that tells how a failed solve fell short, and the log lines
of a solve: constraints that are skipped or unsupported, the start, one line for each step, and the
outcome.
-/

namespace Drafting.Gradient

variable {ν τ : Type} [Name ν] [Scalar τ] [Component τ Float]

/-- A residual as a real; what is no number counts as undefined. -/
def realOf (r : Residual τ) : Float :=
  match (Component.toValue r.toReal : Value Float) with
  | .real x => x
  | v => v.toReal.toOption.getD (0.0 / 0.0)

/-- The residual of a constraint as a real, unless something keeps it from being measured. -/
def evaluate (c : Constraint ν Float) (entities : Table ν (Entity ν τ)) :
    Except (Fault Float) Float := do
  if c.relation.isMeasured then Name.requireAll c.entities
  let residual := c.residual (snapshot entities)
  requireNone residual.fault?
  return realOf residual

/-- A number, or nothing where it is not finite. -/
def finiteOrNull (x : Float) : Value Float := if x.isFinite then .real x else .null

/-- How a failed solve fell short. -/
def Shortfall.message (s : Shortfall τ) : String :=
  "did not reach tolerance " ++
    (Log.styledText? (.scientific 1) (Component.toValue s.tolerance)).getD "" ++ " within " ++
    toString s.iterations ++ " iteration(s); residual " ++
    (Decimal.Style.scientific 3).text (realOf s.residual)

/-- A list of names as a value. -/
def nameList [Named ν Float] (names : List ν) : Value Float := .list (names.map Named.toValue)

/-- The record of diagnostics. -/
def Diagnostics.toRecord [Named ν Float] (d : Diagnostics ν) : Value Float :=
  .record [("skipped", nameList d.skipped), ("unsupported", nameList d.unsupported)]

/-- The record of a solution that took `elapsed` seconds. -/
def Solution.toRecord [Named ν Float] (s : Solution ν τ) (elapsed : Float) : Value Float :=
  .record [
    ("success", .flag s.success),
    ("iterations", .int s.iterations),
    ("residual", finiteOrNull (realOf s.residual)),
    ("conflicts", match s.conflicts with
      | some names => nameList names
      | none => .null),
    ("elapsed", .real elapsed),
    ("message", match s.shortfall with
      | some shortfall => .text shortfall.message
      | none => .null),
    ("entities", .list (s.entities.values.map Entity.toRecord)),
    ("diagnostics", s.diagnostics.toRecord)]

/-- A record of the gradient descent. -/
def engineRecord (severity : Log.Severity) (text : String) : Log.Record :=
  .plain severity .engine text

/-- The line for a constraint that is skipped. -/
def skipRecord (entities : Table ν (Entity ν τ)) (c : Constraint ν Float) : Log.Record :=
  engineRecord .debug ("Skipping " ++ Name.plain c.id ++ ": unresolved entities " ++
    Name.listText (missing entities c))

/-- The line for constraints without a formula. -/
def unsupportedRecords (names : List ν) : List Log.Record :=
  if names.isEmpty then []
  else [engineRecord .info ("Constraints without a residual (treated as satisfied): " ++
    Name.listText names)]

/-- The lines that planning writes; they end before a constraint that cannot be planned. -/
def planRecords (entities : Table ν (Entity ν τ)) (constraints : List (Constraint ν Float)) :
    List Log.Record :=
  let planned := constraints.takeWhile fun c => (requirePlannable [c]).toBool
  (unresolved entities planned).map (skipRecord entities) ++
    (if planned.length = constraints.length then
      unsupportedRecords (diagnose entities constraints).unsupported
    else [])

/-- The line at the start of a solve, unless an option in it is no number. -/
def startRecord? (entityCount planCount : Nat) (maxIterations tolerance damping : Value Float) :
    Option Log.Record := do
  let cap ← Log.wholeText? maxIterations
  let tolerance ← Log.styledText? (.scientific 1) tolerance
  let damping ← Log.styledText? (.general 3) damping
  return engineRecord .info ("Solving " ++ toString entityCount ++ " entities / " ++
    toString planCount ++ " evaluable constraints (max_iterations=" ++ cap ++
    " tol=" ++ tolerance ++ " damping=" ++ damping ++ ")")

/-- The lines of the steps, counted from one. -/
def stepRecords (verbose : Bool) (history : List (Residual τ)) : List Log.Record :=
  history.zipIdx.map fun (residual, i) =>
    engineRecord (if verbose then .info else .debug) ("Iteration " ++ toString (i + 1) ++
      ": residual = " ++ (Decimal.Style.general 6).text (realOf residual))

/-- The line at the end of a solve that took `elapsed` seconds. -/
def endRecord (s : Solution ν τ) (elapsed : Float) : Log.Record :=
  let conflicts := s.conflicts.getD []
  engineRecord .info ("Solver " ++ (if s.success then "converged" else "failed") ++ " in " ++
    toString s.iterations ++ " iteration(s) (" ++ (Decimal.Style.fixed 1).text (elapsed * 1000.0) ++
    " ms), residual=" ++ (Decimal.Style.scientific 3).text (realOf s.residual) ++
    (if conflicts.isEmpty then "" else ", conflicts=" ++ Name.listText conflicts))

end Drafting.Gradient
