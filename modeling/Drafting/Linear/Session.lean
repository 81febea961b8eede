import Drafting.Linear.LeastSquares
import Drafting.Linear.Writing
import Drafting.Log.Call

/-!
# Linear algebra in use, with its log

The operations on systems of equations as traced calls, each around a result that is given. A Newton
step passes its system on to an elimination; if there are more equations than unknowns, by way of
the normal equations.
-/

namespace Drafting.Linear.Session

/-- What a call comes to, with the lines it writes. -/
abbrev Outcome (β : Type) := Logged (Except (Fault Float) β)

/-- Numbers as an array with one axis. -/
def column (xs : List Float) : Value Float := .array (.binary 64) [xs.length] (xs.map .real)

/-- Rows of numbers as an array with two axes. -/
def matrix (columns : Nat) (rows : List (List Float)) : Value Float :=
  .array (.binary 64) [rows.length, columns] (rows.flatten.map .real)

variable [Headroom]

/-- A call that solves for unknowns, with a tolerance that may be anything. -/
def call (name : String) (pivotTolerance coefficients values : Value Float)
    (body : Outcome (List Float)) : Outcome (List Float) :=
  (Log.Call.mk .linear name [coefficients, values] [("pivot_tolerance", pivotTolerance)]).watched
    column body

/-- An elimination. -/
def eliminate (pivotTolerance : Value Float) (columns : Nat) (system : List (Equation Float))
    (result : Except (Fault Float) (List Float)) : Outcome (List Float) :=
  call "gaussian_elimination" pivotTolerance (matrix columns (system.map Equation.coefficients))
    (column (system.map Equation.value)) (.quiet result)

/-- A solution in the sense of least squares. -/
def leastSquares (pivotTolerance : Value Float) (columns : Nat) (system : List (Equation Float))
    (result : Except (Fault Float) (List Float)) : Outcome (List Float) :=
  call "least_squares_normal" pivotTolerance (matrix columns (system.map Equation.coefficients))
    (column (system.map Equation.value))
    (eliminate pivotTolerance columns (normalEquations columns system) result)

/-- A Newton step. -/
def newtonStep (pivotTolerance : Value Float) (columns : Nat) (jacobian : List (List Float))
    (residuals : List Float) (result : Except (Fault Float) (List Float)) :
    Outcome (List Float) :=
  let system := stepEquations jacobian residuals
  call "newton_step" pivotTolerance (matrix columns jacobian) (column residuals) <|
    if system.length ≤ columns then eliminate pivotTolerance columns system result
    else
      let passed := leastSquares pivotTolerance columns system result
      ⟨overdeterminedRecord system.length columns :: passed.records, passed.value⟩

/-- An analysis as a value that is no data. -/
def analysisValue (a : Analysis (Value Float)) : Value Float :=
  .object "JacobianAnalysis" ("JacobianAnalysis(rows=" ++ toString a.rows ++ ", cols=" ++
    toString a.columns ++ ", rank=" ++ toString a.rank ++ ", redundant=" ++
    (Value.list a.redundant).shown ++ ")") .full

/-- An analysis of labelled rows. -/
def analyze (columns : Nat) (jacobian : List (List Float)) (labels : List (Value Float))
    (result : Except (Fault Float) (Analysis (Value Float))) :
    Outcome (Analysis (Value Float)) :=
  (Log.Call.mk .linear "analyze_jacobian" [matrix columns jacobian, .list labels] []).traced
    (.as analysisValue) ⟨result.toOption.toList.map analysisRecord, result⟩

end Drafting.Linear.Session
