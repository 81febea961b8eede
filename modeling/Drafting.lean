import Drafting.Command.Arguments
import Drafting.Command.Files
import Drafting.Command.Load
import Drafting.Command.Report
import Drafting.Component
import Drafting.Constraint.Basic
import Drafting.Constraint.Builder
import Drafting.Constraint.Reading
import Drafting.Constraint.Writing
import Drafting.Decimal.Binary64
import Drafting.Decimal.Bytes
import Drafting.Decimal.Columns
import Drafting.Decimal.Format
import Drafting.Decimal.Numeral
import Drafting.Decimal.Shortest
import Drafting.Entity.Basic
import Drafting.Entity.Reading
import Drafting.Entity.Writing
import Drafting.Fault
import Drafting.Gradient.Descent
import Drafting.Gradient.Fault
import Drafting.Gradient.Plan
import Drafting.Gradient.Solution
import Drafting.Gradient.Writing
import Drafting.Headroom
import Drafting.Iteration
import Drafting.Json.Parser
import Drafting.Json.Printer
import Drafting.Linear.Elimination
import Drafting.Linear.Equation
import Drafting.Linear.Grid
import Drafting.Linear.LeastSquares
import Drafting.Linear.Parameter
import Drafting.Linear.Rank
import Drafting.Linear.Reading
import Drafting.Linear.Rotation
import Drafting.Linear.Session
import Drafting.Linear.Tableau
import Drafting.Linear.Writing
import Drafting.Log.Call
import Drafting.Log.Instrument
import Drafting.Log.Limits
import Drafting.Log.Operation
import Drafting.Log.Reading
import Drafting.Log.Record
import Drafting.Log.Summary
import Drafting.Log.Text
import Drafting.Main
import Drafting.Name
import Drafting.Options.Basic
import Drafting.Options.Reading
import Drafting.Plane.Basic
import Drafting.Plane.Demand
import Drafting.Plane.Drawing
import Drafting.Plane.Newton
import Drafting.Plane.Plan
import Drafting.Plane.Progress
import Drafting.Plane.Reading
import Drafting.Plane.Session
import Drafting.Plane.Solution
import Drafting.Plane.Writing
import Drafting.Proofs.Command.Loading
import Drafting.Proofs.Command.Run
import Drafting.Proofs.Command.Telling
import Drafting.Proofs.Domains
import Drafting.Proofs.Doubles
import Drafting.Proofs.Entity
import Drafting.Proofs.Exact
import Drafting.Proofs.Excess
import Drafting.Proofs.Gradient.Conflicts
import Drafting.Proofs.Gradient.Displacement
import Drafting.Proofs.Gradient.Frame
import Drafting.Proofs.Gradient.Guarded
import Drafting.Proofs.Gradient.Infeasible
import Drafting.Proofs.Gradient.Order
import Drafting.Proofs.Gradient.Run
import Drafting.Proofs.Gradient.Step
import Drafting.Proofs.Gradient.Survey
import Drafting.Proofs.Gradient.Translation
import Drafting.Proofs.Gradient.Unmeasured
import Drafting.Proofs.Guarded
import Drafting.Proofs.Iteration
import Drafting.Proofs.Json
import Drafting.Proofs.Linear.Divisors
import Drafting.Proofs.Linear.Elimination
import Drafting.Proofs.Linear.Equation
import Drafting.Proofs.Linear.Labels
import Drafting.Proofs.Linear.LeastSquares
import Drafting.Proofs.Linear.Optimality
import Drafting.Proofs.Linear.Rank
import Drafting.Proofs.Linear.Solvability
import Drafting.Proofs.Linear.Tableau
import Drafting.Proofs.Locality
import Drafting.Proofs.Log.Bracketing
import Drafting.Proofs.Log.Instrument
import Drafting.Proofs.Log.Showing
import Drafting.Proofs.Log.Transparency
import Drafting.Proofs.Meaning
import Drafting.Proofs.Naming
import Drafting.Proofs.Nudging
import Drafting.Proofs.Ordering
import Drafting.Proofs.Plane.Agreement
import Drafting.Proofs.Plane.Board
import Drafting.Proofs.Plane.Coherence
import Drafting.Proofs.Plane.Compromise
import Drafting.Proofs.Plane.Contraction
import Drafting.Proofs.Plane.Failure
import Drafting.Proofs.Plane.Growth
import Drafting.Proofs.Plane.History
import Drafting.Proofs.Plane.Independence
import Drafting.Proofs.Plane.Index
import Drafting.Proofs.Plane.Irrelevance
import Drafting.Proofs.Plane.Linear
import Drafting.Proofs.Plane.Overwriting
import Drafting.Proofs.Plane.Padding
import Drafting.Proofs.Plane.Planning
import Drafting.Proofs.Plane.Provenance
import Drafting.Proofs.Plane.Reading
import Drafting.Proofs.Plane.Registration
import Drafting.Proofs.Plane.Report
import Drafting.Proofs.Plane.Resolution
import Drafting.Proofs.Plane.Solving
import Drafting.Proofs.Plane.Soundness
import Drafting.Proofs.Plane.Splitting
import Drafting.Proofs.Plane.Typing
import Drafting.Proofs.Plane.Unread
import Drafting.Proofs.Plane.WriteBack
import Drafting.Proofs.Reading
import Drafting.Proofs.Registry
import Drafting.Proofs.Residual
import Drafting.Proofs.Sketch.Conflicts
import Drafting.Proofs.Sketch.Deletion
import Drafting.Proofs.Sketch.Displacement
import Drafting.Proofs.Sketch.Frame
import Drafting.Proofs.Sketch.History
import Drafting.Proofs.Sketch.Infeasible
import Drafting.Proofs.Sketch.Irrelevance
import Drafting.Proofs.Sketch.Order
import Drafting.Proofs.Sketch.Reachable
import Drafting.Proofs.Sketch.Records
import Drafting.Proofs.Sketch.Report
import Drafting.Proofs.Sketch.RoundTrip
import Drafting.Proofs.Sketch.Safety
import Drafting.Proofs.Sketch.Shortfall
import Drafting.Proofs.Sketch.Solving
import Drafting.Proofs.Sketch.Soundness
import Drafting.Proofs.Sketch.Splitting
import Drafting.Proofs.Sketch.Translation
import Drafting.Proofs.Sketch.Validity
import Drafting.Proofs.Space
import Drafting.Proofs.Table
import Drafting.Proofs.Validation
import Drafting.Quantity
import Drafting.Residual.Basic
import Drafting.Residual.Measure
import Drafting.Scalar
import Drafting.Scalar.Binary64
import Drafting.Sketch.Basic
import Drafting.Sketch.Reading
import Drafting.Sketch.Session
import Drafting.Sketch.Writing
import Drafting.Table.Basic
import Drafting.Text.Blank
import Drafting.Text.Digit
import Drafting.Text.Half
import Drafting.Text.Printable
import Drafting.Text.Quoted
import Drafting.Text.Utf8
import Drafting.Validation
import Drafting.Value.Arithmetic
import Drafting.Value.Array
import Drafting.Value.ArrayText
import Drafting.Value.Basic
import Drafting.Value.Comparison
import Drafting.Value.Conversion
import Drafting.Value.ElementList
import Drafting.Value.ElementName
import Drafting.Value.ElementRecord
import Drafting.Value.ElementText
import Drafting.Value.ElementType
import Drafting.Value.Elementwise
import Drafting.Value.Equality
import Drafting.Value.Fields
import Drafting.Value.Long
import Drafting.Value.Moment
import Drafting.Value.Nested
import Drafting.Value.Operand
import Drafting.Value.Quoted
import Drafting.Vector3
