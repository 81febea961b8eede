import Drafting.Plane.Solution
import Drafting.Value.Array

/-!
# Reporting planar sketches

Texts of objects, drawings, plans and solutions, and the record of a solution.
-/

namespace Drafting.Plane

/-- The text of a kind of unknown. -/
def Kind.text (kind : Kind) : String :=
  "<VariableKind." ++ kind.name.map Char.toUpper ++ ": " ++ Text.quoted kind.name ++ ">"

section

variable {ν α : Type} [Name ν] [Scalar α]

/-- The text of one of a closed set of things, or of what was put in its place. -/
def Choice.text {β : Type} (memberText : β → String) : Choice β α → String
  | member x => memberText x
  | raw v => v.shown

/-- The name of one of a closed set of things as a value; what was put in its place has none. -/
def Choice.nameValue {β : Type} (name : β → String) : Choice β α → Except (Fault α) (Value α)
  | member x => .ok (.text (name x))
  | raw v => .error (.missingOperation v.kindName "value")

/-- The text of a point. -/
def Point.text (p : Point ν α) : String :=
  "Point2D(x=" ++ p.x.shown ++ ", y=" ++ p.y.shown ++ ", id=" ++
    (match p.id with
      | some id => Name.shown id
      | none => "None") ++ ", fixed=" ++ p.fixed.shown ++ ")"

/-- The text of an unknown. -/
def Variable.text (v : Variable ν α) : String :=
  "Variable(id=" ++ Name.shown v.id ++ ", value=" ++ v.value.shown ++ ", kind=" ++
    v.kind.text Kind.text ++ ")"

/-- The text of what a constraint refers to. -/
def Board.referenceText (b : Board ν α) : Reference α → String
  | .item (.point place) => ((b.points[place]?).map Point.text).getD "..."
  | .item (.variable place) => ((b.unknowns[place]?).map Variable.text).getD "..."
  | .item (.constraint _) => "Constraint2D(...)"
  | .value v => v.shown

/-- The text of a constraint. -/
def Board.constraintText (b : Board ν α) (c : Constraint α) : String :=
  let references := match c.references with
    | .references refs => "[" ++ ", ".intercalate (refs.map b.referenceText) ++ "]"
    | .value v => v.shown
  "Constraint2D(type=" ++ c.relation.text Relation.text ++ ", entities=" ++ references ++
    ", target_value=" ++ c.target.shown ++ ", id=" ++ c.id.shown ++
    ", enabled=" ++ c.enabled.shown ++ ")"

/-- The text of an object. -/
def Board.itemText (b : Board ν α) : Item → String
  | .constraint place => ((b.constraints[place]?).map b.constraintText).getD "..."
  | item => b.referenceText (.item item)

/-- How many unknowns, points and constraints a drawing uses. -/
def Drawing.text (d : Drawing ν α) : String :=
  "Solver2D(variables=" ++ toString d.unknowns.length ++ ", points=" ++ toString d.points.size ++
    ", constraints=" ++ toString d.constraints.length ++ ")"

/-- The record of numbers by name. -/
def valuesRecord [Named ν α] (values : Table ν α) : Value α :=
  .ofEntries (values.entries.map fun entry => (Named.toValue entry.1, .real entry.2))

/-- The text of where a point is found. -/
def Source.text : Source α → String
  | .slots x y => "_PointSource(ix=" ++ toString x ++ ", iy=" ++ toString y ++ ", x=" ++
      Scalar.text (0 : α) ++ ", y=" ++ Scalar.text (0 : α) ++ ")"
  | .constant x y => "_PointSource(ix=None, iy=None, x=" ++ Scalar.text x ++ ", y=" ++
      Scalar.text y ++ ")"

/-- The text of a constraint that a solve works on. -/
def Board.rowText (b : Board ν α) (row : Row α) : String :=
  let points := match row.sources.map Source.text with
    | [point] => "(" ++ point ++ ",)"
    | points => "(" ++ ", ".intercalate points ++ ")"
  "_Row(label=" ++ row.label.shown ++ ", constraint=" ++ b.itemText row.constraint ++
    ", points=" ++ points ++ ")"

/-- The text of diagnostics. -/
def Diagnostics.text (d : Diagnostics α) : String :=
  "SolveDiagnostics(skipped=" ++ (Value.list d.skipped).shown ++ ", unsupported=" ++
    (Value.list d.unsupported).shown ++ ")"

/-- The record of diagnostics. -/
def Diagnostics.toRecord (d : Diagnostics α) : Value α :=
  .record [("skipped", .list d.skipped), ("unsupported", .list d.unsupported)]

/-- A number, or nothing where it is not finite. -/
def finiteOrNull (x : α) : Value α := if Scalar.isFinite x then .real x else .null

/-- The text of a solution. -/
def Solution.text (s : Solution ν α) : String :=
  let numbers := s.values.entries.map fun entry =>
    Name.shown entry.1 ++ ": " ++ Scalar.text entry.2
  "SolveResult(success=" ++ (Value.flag s.success : Value α).shown ++ ", iterations=" ++
    toString s.iterations ++ ", residual=" ++ Scalar.text s.residual ++ ", variables=\x7b" ++
    ", ".intercalate numbers ++ "\x7d, diagnostics=" ++ s.diagnostics.text ++ ")"

/-- The record of a solution. -/
def Solution.toRecord [Named ν α] (s : Solution ν α) : Value α :=
  .record [("success", .flag s.success), ("iterations", .int s.iterations),
    ("residual", finiteOrNull s.residual), ("variables", valuesRecord s.values),
    ("diagnostics", s.diagnostics.toRecord)]

/-- The record of the solution of a drawing. Where the tolerance is an array with axes, so is the
outcome of the comparison with it. -/
def Drawing.solutionRecord [Named ν α] (d : Drawing ν α) (s : Solution ν α) : Value α :=
  let isIdle := match d.plan with
    | .ok plan => d.isIdle plan
    | .error _ => true
  match isIdle, d.options.tolerance, s.toRecord with
  | false, .array _ (n :: shape) _, .record fields =>
    .record (Assoc.set "success" (Value.group (n :: shape) [.flag s.success]) fields)
  | _, _, written => written

end

end Drafting.Plane
