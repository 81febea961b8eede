import Drafting.Constraint.Basic

/-!
# Writing constraints

The record of a constraint holds id, relation, references and activity, the target value if there
is one, and the priority if it is not zero. Of an array it can be unknown whether it counts as zero;
then there is no record.
-/

namespace Drafting.Constraint

variable {ν α : Type} [Scalar α] [Name ν]

/-- The record of a constraint. -/
def toRecord [Named ν α] (c : Constraint ν α) : Except (Fault α) (Value α) := do
  let hasPriority ← c.priority.truth
  return .record <|
    [("id", Named.toValue c.id), ("type", .text c.relation.name),
      ("entities", .list (c.entities.map Named.toValue)), ("active", c.active)] ++
    (match c.value with
      | some x => [("value", .real x)]
      | none => []) ++
    (if hasPriority then [("priority", c.priority)] else [])

/-- A constraint as a value that is no data. -/
def toObject (c : Constraint ν α) : Value α :=
  .object "Constraint" c.text <| match c.active.truth with
    | .error (.ambiguous isEmpty) => .unclear isEmpty
    | _ => .text c.brief

end Drafting.Constraint
