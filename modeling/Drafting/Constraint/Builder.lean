import Drafting.Constraint.Reading
import Drafting.Constraint.Writing
import Drafting.Log.Call

/-!
# Building constraints

For every relation there is a builder that takes the id, the entities in their roles and, for the
dimensions, the target value.
-/

namespace Drafting

namespace Constraint.Builder

variable {ν α : Type} [Scalar α] [Name ν] [Named ν α]

/-- The arguments that the builder of a relation takes after the id, by name. -/
def roles : Relation → List String
  | .coincident => ["point1", "point2"]
  | .parallel | .perpendicular => ["line1", "line2"]
  | .tangent => ["circle", "line"]
  | .concentric | .equal => ["entity1", "entity2"]
  | .horizontal | .vertical => ["line"]
  | .distance => ["entity1", "entity2", "value"]
  | .angle => ["line1", "line2", "value"]
  | .radius => ["entity", "value"]
  | .symmetric => ["entity1", "entity2", "axis"]
  | .fixed => ["entity"]
  | .unknown => []

/-- The name of the builder of a relation. -/
def functionName (relation : Relation) : String := "ConstraintSolver." ++ relation.name

/-- Builds a constraint from the arguments of its relation's builder. -/
def build (relation : Relation) (arguments : List (Value α)) :
    Except (Fault α) (Constraint ν α) :=
  let parameters := "id" :: roles relation
  match arguments, parameters.drop arguments.length with
  | id :: rest, [] =>
    if parameters.length < arguments.length then
      .error (.argumentsExtra (functionName relation) parameters.length parameters.length
        arguments.length)
    else
      let count := relation.arity?.getD 0
      Constraint.build id (.text relation.name) (.tuple (rest.take count))
        ((rest.drop count).headD .null) (.real 0) (.flag true)
  | _, missing => .error (.argumentsMissing (functionName relation) missing)

/-- The operations on a sketch, which are there beside the builders, with what they take beside the
sketch. -/
def operations : List (String × List String) :=
  [("add_entity", ["entity"]), ("add_entities", ["entities"]), ("remove_entity", ["entity_id"]),
    ("move_entity", ["entity_id", "position"]), ("add_constraint", ["constraint"]),
    ("add_constraints", ["constraints"]), ("remove_constraint", ["constraint_id"]),
    ("set_constraint_active", ["constraint_id", "active"]), ("solve", []),
    ("commit", ["solution"]), ("get_entities", []), ("get_constraints", []),
    ("get_constraints_for_entity", ["entity_id"]), ("clear", [])]

/-- What is there by a name and cannot be called, with its kind. -/
def inert : List (String × String) :=
  [("options", "property"), ("__doc__", "str"), ("__module__", "str"), ("__name__", "str"),
    ("__qualname__", "str"), ("__dict__", "mappingproxy"), ("__weakref__", "getset_descriptor"),
    ("__annotations__", "dict"), ("__bases__", "tuple"), ("__mro__", "tuple")]

/-- The fault of taking nothing for a constraint. -/
def noConstraint : Fault α := .missingOperation (Value.null : Value α).kindName "id"

/-- The fault of an operation on a sketch whose arguments start with something else than a sketch.
An operation on several things looks at the sketch for each of them. -/
def strayOperation (name : String) (parameters : List String) (arguments : List (Value α)) :
    Fault α :=
  let function := "ConstraintSolver." ++ name
  let parameters := "self" :: parameters
  match arguments, parameters.drop arguments.length with
  | first :: rest, [] =>
    let stray := Fault.missingOperation first.kindName "_engine"
    if parameters.length < arguments.length then
      .argumentsExtra function parameters.length parameters.length arguments.length
    else if name = "add_entities" ∨ name = "add_constraints" then
      match (rest.headD .null).items with
      | .error fault => fault
      | .ok [] => noConstraint
      | .ok _ => stray
    else stray
  | _, missing => .argumentsMissing function missing

/-- The fault of making a sketch anew whose arguments start with something else than a sketch. -/
def strayCreation : List (Value α) → Fault α
  | [] => .argumentsMissing "ConstraintSolver.__init__" ["self"]
  | [first] | [first, .null] =>
    match first with
    | .object .. => noConstraint
    | _ => .missingOperation first.kindName "_engine"
  | [_, options] => .missingOperation options.kindName "method"
  | arguments => .argumentsExtra "ConstraintSolver.__init__" 1 2 arguments.length

/-- The fault of an operation that everything has: what it answers is no constraint. -/
def commonFault? (name : String) (arguments : List (Value α)) : Option (Fault α) :=
  let beside (expected : Nat) (answer : String) : Fault α :=
    match arguments with
    | [] => .argumentNeeded name
    | _ :: rest =>
      if rest.length = expected then .missingOperation answer "id"
      else .argumentsExpected expected rest.length
  match name, arguments with
  | "__eq__", _ | "__lt__", _ | "__le__", _ | "__gt__", _ | "__ge__", _ =>
    some (beside 1 "NotImplementedType")
  | "__ne__", _ => some (beside 1 "bool")
  | "__str__", _ => some (beside 0 "str")
  | "__hash__", _ => some (beside 0 "int")
  | "__class__", [first] => some (.noBuilder first.kindName "id")
  | "__class__", _ => some .kindArguments
  | "__new__", first :: _ => some (.noKind first.kindName)
  | _, _ => none

/-- Builds a constraint by the builder with a name, as a traced call. Other names are at fault. -/
def callNamed [Named ν Float] (name : String) (arguments : List (Value Float)) :
    Logged (Except (Fault Float) (Constraint ν Float)) :=
  let traced (function : String) (result : Except (Fault Float) (Constraint ν Float)) :=
    (Log.Call.mk .facade function arguments []).traced (.as Constraint.toObject) (.quiet result)
  match Relation.all.find? fun relation => relation.name == name && relation != .unknown with
  | some relation => traced (functionName relation) (build relation arguments)
  | none =>
    match operations.lookup name, inert.lookup name with
    | some parameters, _ =>
      traced ("ConstraintSolver." ++ name) (.error (strayOperation name parameters arguments))
    | none, some kind => .quiet (.error (.notCallable kind))
    | none, none =>
      if name = "__init__" then .quiet (.error (strayCreation arguments))
      else if name = "__repr__" then .quiet (.error (strayOperation name [] arguments))
      else .quiet (.error ((commonFault? name arguments).getD (.noBuilder "ConstraintSolver" name)))

/-- Builds a constraint by the builder that a value names, as a traced call. -/
def call [Named ν Float] (name : Value Float) (arguments : List (Value Float)) :
    Logged (Except (Fault Float) (Constraint ν Float)) :=
  match name with
  | .text name => callNamed name arguments
  | name => .quiet (.error (.notAttribute name.shortKindName))

end Constraint.Builder

end Drafting
