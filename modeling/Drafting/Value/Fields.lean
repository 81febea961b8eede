import Drafting.Headroom
import Drafting.Value.Conversion

/-!
# Fields of records

Records are read field by field: some fields have to be there, some hold a list of records in turn,
and the field `id` is what a record is called by when something in it is wrong.
-/

namespace Drafting

variable {α : Type}

/-- The value of a field that has to be there. -/
def needed (fields : List (String × Value α)) (name : String) : Except (Fault α) (Value α) :=
  match field? fields name with
  | some v => .ok v
  | none => .error (.missingField name)

/-- Demands that fields are arguments of a function: none that it does not expect, and all that it
needs. -/
def requireArguments (function : String) (needed optional : List String)
    (fields : List (String × Value α)) : Except (Fault α) Unit :=
  match fields.find? fun field => !(needed ++ optional).contains field.1 with
  | some field => .error (.argumentUnexpected function field.1)
  | none =>
    match needed.filter fun name => (field? fields name).isNone with
    | [] => .ok ()
    | missing => .error (.argumentsMissing function missing)

/-- The fields of a value that is to be a record. -/
def recordFields : Value α → Except (Fault α) (List (String × Value α))
  | .record fields => .ok fields
  | .mapping entries => .ok (Value.textFields entries)
  | .array kind .. =>
    .error (if kind.isCompound then .missingOperation "numpy.ndarray" "get" else .noNamedItem)
  | v => .error (.missingOperation v.kindName "get")

/-- What a record is called by: its id, or a question mark. -/
def recordLabel (fields : List (String × Value α)) : Value α :=
  (field? fields "id").getD (.text "?")

/-- Demands that every item of a section is a record, from an index on. -/
def requireRecords (name : String) (index : Nat) : List (Value α) → Except (Fault α) Unit
  | [] => .ok ()
  | item :: rest =>
    if item.isRecord then requireRecords name (index + 1) rest
    else .error (.notRecord name index)

/-- The records of a section; an absent section has none. -/
def sectionRecords (fields : List (String × Value α)) (name : String) :
    Except (Fault α) (List (Value α)) :=
  match (field? fields name).getD (.list []) with
  | .list items => do
    requireRecords name 0 items
    return items
  | v => .error (.notList name v.shortKindName)

end Drafting
