import Drafting.Constraint.Basic
import Drafting.Name
import Drafting.Value.Fields

/-!
# Objects of planar sketches

Points of the plane, scalar unknowns, and constraints between points. Objects lie on a board and are
referred to by their place on it, so that a change of an object is seen wherever the object is used.
Coordinates and values are kept as they were given until a solve replaces them by numbers; a kind or
a relation that was put in later is kept as it was given, too. Any field can be put into any object:
one that its sort lacks is kept beside the others, and lets the object stand for another sort.
-/

namespace Drafting.Plane

variable {ν α : Type}

/-- One of a closed set of things, or a value that was put in the place of one. -/
inductive Choice (β α : Type) where
  | member (x : β)
  | raw (v : Value α)

/-- What an unknown stands for. -/
inductive Kind where
  | x
  | y
  | angle
  | distance
  | parameter
  deriving DecidableEq, Repr

namespace Kind

/-- All kinds. -/
def all : List Kind := [x, y, angle, distance, parameter]

/-- The name of a kind. -/
def name : Kind → String
  | x => "x"
  | y => "y"
  | angle => "angle"
  | distance => "distance"
  | parameter => "parameter"

/-- The kind that a value names. -/
def ofValue [Scalar α] (v : Value α) : Except (Fault α) Kind := v.member .variableKind all name

end Kind

/-- An object on a board, by its sort and its place among the objects of that sort. -/
inductive Item where
  | point (place : Nat)
  | variable (place : Nat)
  | constraint (place : Nat)
  deriving DecidableEq, Repr

/-- The kind of thing that an object is. -/
def Item.kindName : Item → String
  | .point _ => "Point2D"
  | .variable _ => "Variable"
  | .constraint _ => "Constraint2D"

/-- What a constraint refers to: an object on the board, or a value, of which texts are ids. -/
inductive Reference (α : Type) where
  | item (object : Item)
  | value (v : Value α)

/-- The kind of thing that a reference stands for. -/
def Reference.kindName : Reference α → String
  | .item object => object.kindName
  | .value v => v.shortKindName

/-- What a field of an object holds: a value, or a list of references. -/
inductive Content (α : Type) where
  | value (v : Value α)
  | references (refs : List (Reference α))

/-- What is put into an object beside the fields of its sort, by name. -/
abbrev Extras (α : Type) := List (String × Content α)

/-- A point of the plane, perhaps with an id. Whether it is marked as fixed has no effect on
solving. -/
structure Point (ν α : Type) where
  x : Value α
  y : Value α
  id : Option ν
  fixed : Value α
  extras : Extras α := []

/-- A scalar unknown. -/
structure Variable (ν α : Type) where
  id : ν
  value : Value α
  kind : Choice Kind α
  extras : Extras α := []

/-- A relation between points, in the order of the references. -/
structure Constraint (α : Type) where
  relation : Choice Relation α
  references : Content α
  target : Value α
  id : Value α
  enabled : Value α
  extras : Extras α := []

/-- The place that a record gives by the fields `x` and `y`. -/
def placeOf [Scalar α] (fields : List (String × Value α)) : Except (Fault α) (α × α) := do
  let x ← needed fields "x"
  let x ← x.toReal
  let y ← needed fields "y"
  return (x, ← y.toReal)

/-- Builds an unknown from a kind and a number given as values. -/
def Variable.build [Scalar α] (id : ν) (value kind : Value α) :
    Except (Fault α) (Variable ν α) := do
  let kind ← Kind.ofValue kind
  return { id, value := .real (← value.toReal), kind := .member kind }

namespace Content

/-- A field as a value; references have no value. -/
def toValue : Content α → Value α
  | value v => v
  | references _ => .list []

/-- How many references a field holds, if it has a length. -/
def length : Content α → Except (Fault α) Nat
  | references refs => .ok refs.length
  | value (.text s) => .ok s.length
  | value (.list items) | value (.tuple items) => .ok items.length
  | value (.vector ..) => .ok 3
  | value (.record fields) => .ok fields.length
  | value (.mapping entries) => .ok entries.length
  | value (.array _ [] _) => .error .noSize
  | value (.array _ (n :: _) _) => .ok n
  | value v => .error (.noLength v.kindName)

/-- The first references that a field holds, if it has an order. -/
def front [Scalar α] (count : Nat) : Content α → Except (Fault α) (List (Reference α))
  | references refs => .ok (refs.take count)
  | value (.record _) | value (.mapping _) => .error (.unhashable "slice")
  | value (.array _ [] _) => .error .tooManyIndices
  | value v =>
    match v.items with
    | .ok items => .ok ((items.take count).map .value)
    | .error _ => .error (.notIndexable v.kindName)

end Content

/-- The point with another field. -/
def Point.put [Named ν α] (p : Point ν α) (name : String) (content : Content α) : Point ν α :=
  match name, content with
  | "x", .value v => { p with x := v }
  | "y", .value v => { p with y := v }
  | "id", .value .null => { p with id := none }
  | "id", .value v => { p with id := some (Named.ofAny v) }
  | "fixed", .value v => { p with fixed := v }
  | name, content => { p with extras := Assoc.set name content p.extras }

/-- The unknown with another field. -/
def Variable.put [Named ν α] (u : Variable ν α) (name : String) (content : Content α) :
    Variable ν α :=
  match name, content with
  | "id", .value v => { u with id := Named.ofAny v }
  | "value", .value v => { u with value := v }
  | "kind", .value v => { u with kind := .raw v }
  | name, content => { u with extras := Assoc.set name content u.extras }

/-- The constraint with another field. -/
def Constraint.put (c : Constraint α) (name : String) (content : Content α) : Constraint α :=
  match name, content with
  | "type", .value v => { c with relation := .raw v }
  | "entities", content => { c with references := content }
  | "target_value", .value v => { c with target := v }
  | "id", .value v => { c with id := v }
  | "enabled", .value v => { c with enabled := v }
  | name, content => { c with extras := Assoc.set name content c.extras }

/-- Objects by their places. -/
structure Board (ν α : Type) where
  points : List (Point ν α)
  unknowns : List (Variable ν α)
  constraints : List (Constraint α)

namespace Board

/-- The board without objects. -/
def empty : Board ν α := ⟨[], [], []⟩

/-- The board with one more point, which takes the last place. -/
def addPoint (b : Board ν α) (p : Point ν α) : Board ν α := { b with points := b.points ++ [p] }

/-- The board with one more unknown, which takes the last place. -/
def addVariable (b : Board ν α) (v : Variable ν α) : Board ν α :=
  { b with unknowns := b.unknowns ++ [v] }

/-- The board with one more constraint, which takes the last place. -/
def addConstraint (b : Board ν α) (c : Constraint α) : Board ν α :=
  { b with constraints := b.constraints ++ [c] }

/-- Puts a field into an object. -/
def put [Named ν α] (b : Board ν α) (item : Item) (name : String) (content : Content α) :
    Board ν α :=
  match item with
  | .point place => { b with points := b.points.modify place fun p => p.put name content }
  | .variable place => { b with unknowns := b.unknowns.modify place fun u => u.put name content }
  | .constraint place =>
    { b with constraints := b.constraints.modify place fun c => c.put name content }

/-- The id of an object as a value. -/
def idValue [Named ν α] (b : Board ν α) : Item → Value α
  | .point place => (((b.points[place]?).bind Point.id).map Named.toValue).getD .null
  | .variable place => ((b.unknowns[place]?).map fun u => Named.toValue u.id).getD .null
  | .constraint place => ((b.constraints[place]?).map Constraint.id).getD .null

/-- The id of an object. -/
def idOf [Named ν α] (b : Board ν α) (item : Item) : ν := Named.ofAny (b.idValue item)

/-- The fields of an object that its sort lacks. -/
def extras (b : Board ν α) : Item → Extras α
  | .point place => ((b.points[place]?).map Point.extras).getD []
  | .variable place => ((b.unknowns[place]?).map Variable.extras).getD []
  | .constraint place => ((b.constraints[place]?).map Constraint.extras).getD []

/-- A field of an object that its sort lacks. -/
def extra (b : Board ν α) (item : Item) (name : String) : Except (Fault α) (Content α) :=
  match (b.extras item).lookup name with
  | some content => .ok content
  | none => .error (.missingOperation item.kindName name)

/-- The value of an object, which an unknown has. -/
def value (b : Board ν α) (item : Item) : Except (Fault α) (Value α) :=
  match item with
  | .variable place => (b.unknowns[place]?).elim (.error (.noItem "list")) fun u => .ok u.value
  | item => (b.extra item "value").map Content.toValue

/-- A coordinate of an object, which a point has. -/
def coordinate (b : Board ν α) (item : Item) (axis : Kind) : Except (Fault α) (Value α) :=
  match item with
  | .point place => (b.points[place]?).elim (.error (.noItem "list")) fun p =>
      .ok (if axis = .y then p.y else p.x)
  | item => (b.extra item axis.name).map Content.toValue

/-- What a constraint has, or what has been put under a name into an object of another sort. -/
def ofConstraint {β : Type} (b : Board ν α) (item : Item) (own : Constraint α → β) (name : String)
    (other : Content α → β) : Except (Fault α) β :=
  match item with
  | .constraint place => (b.constraints[place]?).elim (.error (.noItem "list")) fun c => .ok (own c)
  | item => (b.extra item name).map other

/-- Whether an object is enabled, which a constraint tells. -/
def enabled (b : Board ν α) (item : Item) : Except (Fault α) (Value α) :=
  b.ofConstraint item Constraint.enabled "enabled" Content.toValue

/-- The relation that an object states, as a constraint does. -/
def relation (b : Board ν α) (item : Item) : Except (Fault α) (Choice Relation α) :=
  b.ofConstraint item Constraint.relation "type" fun content => .raw content.toValue

/-- The references of an object, which a constraint has. -/
def references (b : Board ν α) (item : Item) : Except (Fault α) (Content α) :=
  b.ofConstraint item Constraint.references "entities" id

/-- The target of an object, which a constraint has. -/
def target (b : Board ν α) (item : Item) : Except (Fault α) (Value α) :=
  b.ofConstraint item Constraint.target "target_value" Content.toValue

end Board

end Drafting.Plane
