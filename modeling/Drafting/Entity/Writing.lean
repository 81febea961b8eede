import Drafting.Entity.Basic

/-!
# Writing entities

The record of an entity holds its id and kind and then only what it has: vectors as lists of three
components, the radius, and the parameters unless there are none.
-/

namespace Drafting.Entity

variable {ν τ α : Type} [Name ν]

/-- A field for a value that may be absent. -/
def optionalField {β : Type} (name : String) (toValue : β → Value α) :
    Option β → List (String × Value α)
  | some x => [(name, toValue x)]
  | none => []

/-- The record of parameters. -/
def parameterRecord [Named ν α] [Component τ α] (parameters : Table ν τ) : Value α :=
  .ofEntries (parameters.entries.map fun entry =>
    (Named.toValue entry.1, Component.toValue entry.2))

/-- The record of an entity. -/
def toRecord [Named ν α] [Component τ α] (e : Entity ν τ) : Value α :=
  .record <|
    [("id", Named.toValue e.id), ("kind", .text e.kind.name)] ++
    optionalField "position" Vector3.toValue e.position ++
    optionalField "direction" Vector3.toValue e.direction ++
    optionalField "normal" Vector3.toValue e.normal ++
    optionalField "radius" Component.toValue e.radius ++
    (if e.parameters.size = 0 then [] else [("parameters", parameterRecord e.parameters)])

/-- An entity as a value that is no data. -/
def toObject [Scalar τ] (e : Entity ν τ) : Value α :=
  .object "ConstraintEntity" e.text (.text e.brief)

end Drafting.Entity
