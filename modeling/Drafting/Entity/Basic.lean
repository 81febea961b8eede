import Drafting.Name
import Drafting.Vector3

/-!
# Entities

Points, lines, circles, arcs, splines and planes. An entity may have a position, a direction, a
radius and a normal, and it carries named parameters. Which names a kind carries is fixed except
for splines, and the type guarantees that no entity has any other.
-/

namespace Drafting

namespace Entity

/-- The kinds of entities. -/
inductive Kind where
  | point
  | line
  | circle
  | arc
  | spline
  | plane
  deriving DecidableEq, Repr

namespace Kind

/-- All kinds. -/
def all : List Kind := [point, line, circle, arc, spline, plane]

/-- The name of a kind. -/
def name : Kind → String
  | point => "point"
  | line => "line"
  | circle => "circle"
  | arc => "arc"
  | spline => "spline"
  | plane => "plane"

/-- The kind with a name. -/
def ofName? (s : String) : Option Kind := all.find? fun kind => kind.name == s

/-- The names of the parameters that a kind carries, in alphabetical order; a spline carries any. -/
def parameterNames? : Kind → Option (List String)
  | point => some []
  | line => some ["length"]
  | circle => some []
  | arc => some ["end_angle", "start_angle"]
  | spline => none
  | plane => some ["offset"]

/-- Whether a kind carries a parameter of a name. -/
def carries {ν : Type} [Name ν] (kind : Kind) (name : ν) : Bool :=
  match kind.parameterNames? with
  | some names => (Name.text? name).any names.contains
  | none => true

/-- Circles and arcs, the kinds that have a radius. -/
def isRound : Kind → Bool
  | circle => true
  | arc => true
  | _ => false

end Kind

end Entity

/-- An entity of a sketch, with names of type `ν` and numbers of type `τ`. -/
structure Entity (ν τ : Type) [Name ν] where
  id : ν
  kind : Entity.Kind
  position : Option (Vector3 τ)
  direction : Option (Vector3 τ)
  radius : Option τ
  normal : Option (Vector3 τ)
  parameters : Table ν τ
  carried : ∀ name ∈ parameters.keys, kind.carries name = true

namespace Entity

variable {ν τ : Type} [Name ν]

/-- The entity at another position. -/
def moveTo (e : Entity ν τ) (position : Option (Vector3 τ)) : Entity ν τ := { e with position }

/-- The entity with its parameters changed one by one; their names stay. -/
def mapParameters (e : Entity ν τ) (f : ν → τ → τ) : Entity ν τ :=
  { e with
    parameters := e.parameters.mapValues f
    carried := by
      intro name h
      simp only [Table.keys, Table.mapValues, Assoc.keys_map] at h
      exact e.carried name h }

/-- The entity with one parameter changed. -/
def modifyParameter (e : Entity ν τ) (name : ν) (f : τ → τ) : Entity ν τ :=
  e.mapParameters fun k v => if k == name then f v else v

/-- The entity with the value of one parameter set, if its kind carries the parameter. -/
def setParameter (e : Entity ν τ) (name : ν) (value : τ) : Entity ν τ :=
  if h : e.kind.carries name = true then
    { e with
      parameters := e.parameters.insert name value
      carried := by
        intro k hk
        simp only [Table.keys, Table.insert, Assoc.keys_set] at hk
        split at hk
        · exact e.carried k hk
        · rcases List.mem_append.mp hk with hk | hk
          · exact e.carried k hk
          · simp only [List.mem_singleton] at hk
            exact hk ▸ h }
  else e

variable [Scalar τ]

/-- The radius of an entity whose radius is present and not zero. -/
def properRadius? (e : Entity ν τ) : Option τ :=
  e.radius.filter fun r => !Scalar.isZero r

/-- A short text: kind, id, position and the number of parameters. -/
def brief (e : Entity ν τ) : String :=
  let position := match e.position with
    | some p => p.text
    | none => "None"
  "<" ++ e.kind.name ++ " " ++ Name.shown e.id ++ " pos=" ++ position ++ " params=" ++
    toString e.parameters.size ++ ">"

/-- The text of a value that may be absent. -/
def optionText {β : Type} (text : β → String) : Option β → String
  | some x => text x
  | none => "None"

/-- The full text of an entity, field by field. -/
def text (e : Entity ν τ) : String :=
  let kind :=
    "<EntityKind." ++ e.kind.name.map Char.toUpper ++ ": " ++ Text.quoted e.kind.name ++ ">"
  let parameters := e.parameters.entries.map fun entry =>
    Name.shown entry.1 ++ ": " ++ Scalar.text entry.2
  "ConstraintEntity(id=" ++ Name.shown e.id ++ ", kind=" ++ kind ++
    ", position=" ++ optionText Vector3.text e.position ++
    ", direction=" ++ optionText Vector3.text e.direction ++
    ", radius=" ++ optionText Scalar.text e.radius ++
    ", normal=" ++ optionText Vector3.text e.normal ++
    ", parameters=\x7b" ++ ", ".intercalate parameters ++ "\x7d)"

end Entity

end Drafting
