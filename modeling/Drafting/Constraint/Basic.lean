import Drafting.Name
import Drafting.Value.Conversion

/-!
# Constraints

A constraint is a relation between entities that it names by id, in an order that matters. It may
have a target value; its priority is kept as given and has no effect on solving.
-/

namespace Drafting

/-- The relations that a constraint can state. -/
inductive Relation where
  | coincident
  | parallel
  | perpendicular
  | tangent
  | concentric
  | horizontal
  | vertical
  | distance
  | angle
  | radius
  | equal
  | symmetric
  | fixed
  | unknown
  deriving DecidableEq, Repr

namespace Relation

/-- All relations. -/
def all : List Relation :=
  [coincident, parallel, perpendicular, tangent, concentric, horizontal, vertical, distance, angle,
    radius, equal, symmetric, fixed, unknown]

/-- The name of a relation. -/
def name : Relation → String
  | coincident => "coincident"
  | parallel => "parallel"
  | perpendicular => "perpendicular"
  | tangent => "tangent"
  | concentric => "concentric"
  | horizontal => "horizontal"
  | vertical => "vertical"
  | distance => "distance"
  | angle => "angle"
  | radius => "radius"
  | equal => "equal"
  | symmetric => "symmetric"
  | fixed => "fixed"
  | unknown => "unknown"

/-- The full text of a relation. -/
def text (relation : Relation) : String :=
  "<ConstraintType." ++ relation.name.map Char.toUpper ++ ": " ++ Text.quoted relation.name ++ ">"

/-- The relation with a name; blanks around the name and its case do not matter, and every other
text names the unknown relation. -/
def ofName (s : String) : Relation :=
  let plain := String.ofList ((Text.trim Text.isBlank s.toList).map Char.toLower)
  (all.find? fun relation => relation.name == plain).getD unknown

/-- The relation that a value names; an array names one by its only element. -/
def ofValue {α : Type} [Scalar α] (v : Value α) : Except (Fault α) Relation :=
  match v with
  | .text s => .ok (ofName s)
  | v => v.lookupText?.map fun name? =>
    (name?.bind fun s => all.find? fun relation => relation.name == s).getD unknown

/-- How many entities a relation is between. -/
def arity? : Relation → Option Nat
  | coincident | parallel | perpendicular | tangent | concentric | distance | angle | equal =>
    some 2
  | horizontal | vertical | radius | fixed => some 1
  | symmetric => some 3
  | unknown => none

/-- The relations without a dimension. -/
def isGeometric : Relation → Bool
  | coincident | parallel | perpendicular | tangent | horizontal | vertical | concentric => true
  | _ => false

/-- The relations that can be measured on entities in space. -/
def isMeasured : Relation → Bool
  | coincident | parallel | perpendicular | tangent | horizontal | vertical | distance | angle
  | radius | equal => true
  | _ => false

end Relation

/-- A relation between the entities with the given ids, with names of type `ν` and a target value
of type `α`. Whether it is active is kept as given. -/
structure Constraint (ν α : Type) where
  id : ν
  relation : Relation
  entities : List ν
  value : Option α
  priority : Value α
  active : Value α

namespace Constraint

variable {ν α : Type} [Name ν]

/-- Whether a constraint names an entity. -/
def references [Named ν α] (c : Constraint ν α) (id : ν) : Except (Fault α) Bool :=
  Named.isAmong id c.entities

variable [Scalar α]

/-- Whether a constraint counts. -/
def isActive (c : Constraint ν α) : Bool := c.active.isTruthy

/-- The target value, zero where none is given. -/
def target (c : Constraint ν α) : α := c.value.getD 0

/-- A short text: relation, id, references and whether the constraint is inactive. -/
def brief (c : Constraint ν α) : String :=
  "<" ++ c.relation.name ++ " " ++ Name.shown c.id ++ " on " ++ Name.listText c.entities ++
    (if c.isActive then "" else " inactive") ++ ">"

/-- The full text of a constraint, field by field. -/
def text (c : Constraint ν α) : String :=
  let value : Value α := match c.value with
    | some x => .real x
    | none => .null
  let names := match c.entities with
    | [name] => "(" ++ Name.shown name ++ ",)"
    | names => "(" ++ ", ".intercalate (names.map Name.shown) ++ ")"
  "Constraint(id=" ++ Name.shown c.id ++ ", type=" ++ c.relation.text ++ ", entities=" ++
    names ++ ", value=" ++ value.shown ++ ", priority=" ++ c.priority.shown ++ ", active=" ++
    c.active.shown ++ ")"

end Constraint

end Drafting
