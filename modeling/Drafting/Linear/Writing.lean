import Drafting.Linear.Rank
import Drafting.Log.Record
import Drafting.Value.Quoted

/-!
# Reporting linear algebra

The record of an analysis, and the lines of the log for a step with more rows than unknowns and for
an analysis.
-/

namespace Drafting.Linear

variable {α : Type} [Scalar α]

/-- A record of the linear algebra. -/
def linearRecord (severity : Log.Severity) (text : String) : Log.Record :=
  .plain severity .linear text

/-- The line of a step with more rows than unknowns. -/
def overdeterminedRecord (rows columns : Nat) : Log.Record :=
  linearRecord .debug ("newton_step: overdetermined " ++ toString rows ++ "x" ++
    toString columns ++ " system, using normal equations")

/-- The line of an analysis. -/
def analysisRecord (a : Analysis (Value α)) : Log.Record :=
  linearRecord .info ("Jacobian analysis: " ++ toString a.rows ++ "x" ++ toString a.columns ++
    " rank=" ++ toString a.rank ++ " dof=" ++ toString a.freedom ++ " redundant=" ++
    (Value.list a.redundant).shown)

/-- The record of an analysis. -/
def Analysis.toRecord (a : Analysis (Value α)) : Value α :=
  .record [("rows", .int a.rows), ("cols", .int a.columns), ("rank", .int a.rank),
    ("dof", .int a.freedom), ("fully_constrained", .flag a.isFullyConstrained),
    ("redundant", .list a.redundant)]

end Drafting.Linear
