import Drafting.Entity.Basic
import Drafting.Value.Fields

/-!
# Reading entities

An entity is built from unchecked fields, each of which is checked in turn: the kind, the position,
the direction, the normal, the radius, and the parameters one by one. `Entity.ofRecord` reads the
fields of a record and names the record in what it reports.
-/

namespace Drafting

namespace Entity

variable {ν τ : Type} [Name ν]

/-- The parameters of a kind of entity, so far as they have been checked. -/
structure Checked (ν τ : Type) [Name ν] (kind : Kind) where
  table : Table ν τ
  carried : ∀ name ∈ table.keys, kind.carries name = true

/-- No parameters. -/
def Checked.none {kind : Kind} : Checked ν τ kind :=
  ⟨.empty, by simp [Table.keys, Table.empty, Assoc.keys]⟩

/-- One more parameter, of a name that the kind carries. -/
def Checked.insert {kind : Kind} (c : Checked ν τ kind) (name : ν) (value : τ)
    (h : kind.carries name = true) : Checked ν τ kind where
  table := c.table.insert name value
  carried := by
    intro k hk
    simp only [Table.keys, Table.insert, Assoc.keys_set] at hk
    split at hk
    · exact c.carried k hk
    · rcases List.mem_append.mp hk with hk | hk
      · exact c.carried k hk
      · simp only [List.mem_singleton] at hk
        exact hk ▸ h

variable {α : Type} [Scalar α]

/-- The kind that a value names. -/
def Kind.ofValue (v : Value α) : Except (Fault α) Kind := v.member .entityKind all name

/-- One item of a list of pairs, at its place in the list. -/
def pair (index : Nat) (item : Value α) : Except (Fault α) (Value α × Value α) :=
  match item.items with
  | .error _ => .error (.notPair index)
  | .ok [key, value] => do
    Name.require key
    return (key, value)
  | .ok items => .error (.pairLength index items.length)

/-- A list of pairs, from an index on. -/
def pairs (index : Nat) : List (Value α) → Except (Fault α) (List (Value α × Value α))
  | [] => .ok []
  | item :: rest => do
    let first ← pair index item
    let others ← pairs (index + 1) rest
    return first :: others

/-- The named values of a record, or of a list of pairs; of two pairs with one name the later value
counts. -/
def namedValues : Value α → Except (Fault α) (List (Value α × Value α))
  | .record fields => .ok (fields.map fun field => (.text field.1, field.2))
  | .mapping entries => .ok entries
  | v => do
    let found ← pairs 0 (← v.items)
    return found.foldl (fun acc (key, value) => Assoc.set key value acc) []

variable [Named ν α] [Component τ α]

/-- Checks named values one by one: the kind has to carry the name, and the value has to be a
number. -/
def checkParameters (id : Value α) (kind : Kind) (c : Checked ν τ kind) :
    List (Value α × Value α) → Except (Fault α) (Checked ν τ kind)
  | [] => .ok c
  | (key, value) :: rest => do
    let name : ν ← Named.read key
    if h : kind.carries name = true then
      match value.toReal with
      | .ok x => checkParameters id kind (c.insert name (Component.ofReal x) h) rest
      | .error .tooLarge => .error .tooLarge
      | .error _ => .error (.nonNumericParameter id key)
    else .error (.strayParameter id kind.name key (kind.parameterNames?.getD []))

/-- Builds an entity from its parts. Reading the parameters as named values may have failed, which
is reported when all other parts are in order. -/
def build (id kind position direction radius normal : Value α)
    (parameters : Except (Fault α) (List (Value α × Value α))) :
    Except (Fault α) (Entity ν τ) := do
  let kind ← Kind.ofValue kind
  let position ← Vector3.ofValue? position
  let direction ← Vector3.ofValue? direction
  let normal ← Vector3.ofValue? normal
  let radius ← radius.toReal?
  let checked : Checked ν τ kind ← checkParameters id kind .none (← parameters)
  return ⟨← Named.read id, kind, position, direction, radius.map Component.ofReal, normal,
    checked.table, checked.carried⟩

/-- Builds an entity from fields as they are given; all but id and kind may be left out. -/
def ofFields (fields : List (String × Value α)) : Except (Fault α) (Entity ν τ) := do
  requireArguments "ConstraintEntity.__init__" ["id", "kind"]
    ["position", "direction", "radius", "normal", "parameters"] fields
  let get := fieldOrNull fields
  build (get "id") (get "kind") (get "position") (get "direction") (get "radius")
    (get "normal") (namedValues ((field? fields "parameters").getD (.record [])))

/-- The entity that a record describes; id and kind are needed, empty parameters are none. -/
def ofRecordFields [Headroom] (fields : List (String × Value α)) :
    Except (Fault α) (Entity ν τ) := do
  let get := fieldOrNull fields
  let id ← (← needed fields "id").spell (.id .entity)
  let kind ← needed fields "kind"
  let given := get "parameters"
  let parameters ← if ← given.truth then namedValues given else .ok []
  build (.text id) kind (get "position") (get "direction") (get "radius") (get "normal")
    (.ok parameters)

/-- The entity that a value describes. -/
def ofRecord [Headroom] (v : Value α) : Except (Fault α) (Entity ν τ) := do
  let fields ← recordFields v
  (ofRecordFields fields).mapError (.inRecord .entity (recordLabel fields))

end Entity

end Drafting
