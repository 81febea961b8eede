import Drafting.Options.Reading
import Drafting.Plane.Drawing
import Drafting.Value.Fields

/-!
# Reading planar sketches

A drawing is read from a record with the sections `options`, `points`, `variables` and
`constraints`, each of which may be absent. Constraints name points by id. Options that are given
beside the record take the place of its own.
-/

namespace Drafting.Plane

variable {ν α : Type} [Scalar α] [Name ν]

/-- The point that the fields of a record describe. -/
def Point.ofFields [Headroom] (fields : List (String × Value α)) :
    Except (Fault α) (Point ν α) := do
  let x ← needed fields "x"
  let x ← x.toReal
  let y ← needed fields "y"
  let y ← y.toReal
  let id ← (← needed fields "id").spell (.id .point)
  let fixed ← (fieldOrNull fields "fixed").truth
  return { x := .real x, y := .real y, id := some (Name.ofText id), fixed := .flag fixed }

/-- The unknown that the fields of a record describe. -/
def Variable.ofFields [Headroom] (fields : List (String × Value α)) :
    Except (Fault α) (Variable ν α) := do
  let id ← (← needed fields "id").spell (.id .unknown)
  let value ← needed fields "value"
  Variable.build (Name.ofText id) value (fieldOr fields "kind" (.text Kind.parameter.name))

/-- A place as a record. -/
def placeRecord (place : α × α) : Value α := .record [("x", .real place.1), ("y", .real place.2)]

/-- The target that a value describes: a place, a number or nothing. -/
def targetOf : Value α → Except (Fault α) (Value α)
  | .null => .ok .null
  | .record fields => (placeOf fields).map placeRecord
  | .mapping entries => (placeOf (Value.textFields entries)).map placeRecord
  | v@(.list _) | v@(.tuple _) | v@(.vector ..) => do
    match ← v.items with
    | [x, y] => return .tuple [.real (← x.toReal), .real (← y.toReal)]
    | items => throw (.targetLength items.length)
  | v => do return .real (← v.toReal)

/-- The target in a record, under the first of its names that is there. -/
def targetField (fields : List (String × Value α)) : Except (Fault α) (Value α) :=
  match ["target", "target_value", "targetValue"].findSome? (field? fields) with
  | some v => targetOf v
  | none => .ok .null

/-- What the fields of a record constrain, and the names of what is constrained. -/
def Constraint.subject [Headroom] (fields : List (String × Value α)) :
    Except (Fault α) (Value α × List String) := do
  let relation ← needed fields "type"
  let references ← (fieldOr fields "entities" (.list [])).items
  return (relation, ← references.mapM fun v => v.spell .reference)

/-- The constraint that the fields of a record describe. -/
def Constraint.ofFields [Headroom] (fields : List (String × Value α)) :
    Except (Fault α) (Constraint α) := do
  let (relation, names) ← subject fields
  let target ← targetField fields
  let enabled ← (fieldOr fields "enabled" (.flag true)).truth
  return {
    relation := .member (← Relation.ofValue relation)
    references := .references (names.map fun name => .value (.text name))
    target
    id := fieldOrNull fields "id"
    enabled := .flag enabled }

namespace Drawing

variable [Named ν α] [Headroom]

/-- Uses the point that a record describes. -/
def addPointRecord (d : Drawing ν α) (v : Value α) : Except (Fault α) (Drawing ν α) := do
  let fields := v.fields?.getD []
  let read : Except (Fault α) (Drawing ν α) := do
    let p ← Point.ofFields fields
    let attempt := addPoint { d with board := d.board.addPoint p } (.point d.board.points.length)
    attempt.result
    return attempt.drawing
  read.mapError (.inRecord .point (recordLabel fields))

/-- Uses the unknown that a record describes. -/
def addVariableRecord (d : Drawing ν α) (v : Value α) : Except (Fault α) (Drawing ν α) := do
  let fields := v.fields?.getD []
  let read : Except (Fault α) (Drawing ν α) := do
    let u ← Variable.ofFields fields
    let attempt := (d.place u).addVariable (.variable d.board.unknowns.length)
    attempt.result
    return attempt.drawing
  read.mapError (.inRecord .unknown (recordLabel fields))

/-- Uses the constraint that a record describes. -/
def addConstraintRecord (d : Drawing ν α) (v : Value α) : Except (Fault α) (Drawing ν α) := do
  let fields := v.fields?.getD []
  let label := fieldOr fields "id" (.text ("#" ++ toString d.constraints.length))
  let c ← (Constraint.ofFields fields).mapError (.inRecord .constraint label)
  return addConstraint { d with board := d.board.addConstraint c }
    (.constraint d.board.constraints.length)

/-- The options of a drawing: those given beside it, or those in its record. -/
def optionsFor (fields : List (String × Value α)) (given? : Option (NewtonOptions α)) :
    Except (Fault α) (NewtonOptions α) :=
  match given? with
  | some options => .ok options
  | none => NewtonOptions.ofValue (fieldOrNull fields "options")

/-- The drawing that a value describes. -/
def ofRecord (v : Value α) (given? : Option (NewtonOptions α)) : Except (Fault α) (Drawing ν α) :=
  match v.fields? with
  | none => .error .notSketch
  | some fields => do
    let options ← optionsFor fields given?
    options.requireCopy
    let d : Drawing ν α := .empty options .empty
    let d ← (← sectionRecords fields "points").foldlM addPointRecord d
    let d ← (← sectionRecords fields "variables").foldlM addVariableRecord d
    (← sectionRecords fields "constraints").foldlM addConstraintRecord d

end Drawing

end Drafting.Plane
