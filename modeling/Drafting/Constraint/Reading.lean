import Drafting.Constraint.Basic
import Drafting.Value.Fields

/-!
# Reading constraints

A constraint is built from unchecked fields, or read from a record: there the references have to be
a list, ids are taken as text, the priority has to be a number, and a constraint is active unless
its record says otherwise.
-/

namespace Drafting.Constraint

variable {ν α : Type} [Scalar α] [Name ν] [Named ν α]

/-- Builds a constraint from fields as they are given. -/
def build (id relation entities value priority active : Value α) :
    Except (Fault α) (Constraint ν α) := do
  let relation ← Relation.ofValue relation
  let ids ← entities.items
  let value ← value.toReal?
  return ⟨← Named.read id, relation, ← ids.mapM Named.read, value, priority, active⟩

/-- Builds a constraint from a list of fields; value, priority and activity may be left out. -/
def ofFields (fields : List (String × Value α)) : Except (Fault α) (Constraint ν α) := do
  requireArguments "Constraint.__init__" ["id", "type", "entities"]
    ["value", "priority", "active"] fields
  let get := fieldOrNull fields
  build (get "id") (get "type") (get "entities") (get "value")
    ((field? fields "priority").getD (.real 0)) ((field? fields "active").getD (.flag true))

/-- The list of references in a record. -/
def referenceList : Value α → Except (Fault α) (List (Value α))
  | .list items => .ok items
  | .tuple items => .ok items
  | .vector x y z => .ok [x, y, z]
  | _ => .error .notReferenceList

/-- The constraint that the fields of a record describe. -/
def ofRecordFields [Headroom] (fields : List (String × Value α)) :
    Except (Fault α) (Constraint ν α) := do
  let references ← referenceList (← needed fields "entities")
  let id ← (← needed fields "id").spell (.id .constraint)
  let relation ← needed fields "type"
  let names ← references.mapM fun v => v.spell .reference
  let priority ← match field? fields "priority" with
    | some v => v.toReal
    | none => .ok 0
  let active ← match field? fields "active" with
    | some v => v.truth
    | none => .ok true
  build (.text id) relation (.tuple (names.map .text))
    (fieldOrNull fields "value") (.real priority) (.flag active)

/-- The constraint that a value describes. -/
def ofRecord [Headroom] (v : Value α) : Except (Fault α) (Constraint ν α) := do
  let fields ← recordFields v
  (ofRecordFields fields).mapError (.inRecord .constraint (recordLabel fields))

end Drafting.Constraint
