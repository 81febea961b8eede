import Drafting.Residual.Basic
import Drafting.Entity.Basic
import Drafting.Constraint.Basic

/-!
# Measuring constraints

One formula per relation, over the entities that a constraint names and that are there. A formula
gives no number when entities, kinds or data are missing. Directions are taken to have unit length.
Relations without a formula are always satisfied.
-/

namespace Drafting

namespace Measure

variable {ν τ : Type} [Name ν] [Scalar τ]

/-- The distance between two positions. -/
def coincident : List (Entity ν τ) → Option τ
  | a :: b :: _ => do
    let p ← a.position
    let q ← b.position
    return p.distance q
  | _ => none

/-- How far the cosine of two directions is from one, whatever their sense. -/
def parallel : List (Entity ν τ) → Option τ
  | a :: b :: _ => do
    let u ← a.direction
    let v ← b.direction
    return Scalar.abs (Scalar.abs (u.dot v) - 1)
  | _ => none

/-- The cosine of two directions. -/
def perpendicular : List (Entity ν τ) → Option τ
  | a :: b :: _ => do
    let u ← a.direction
    let v ← b.direction
    return Scalar.abs (u.dot v)
  | _ => none

/-- The difference between a circle's radius and the distance of its centre from a line. -/
def tangent : List (Entity ν τ) → Option τ
  | circle :: line :: _ =>
    if circle.kind = .circle ∧ line.kind = .line then do
      let radius ← circle.properRadius?
      let centre ← circle.position
      let anchor ← line.position
      let direction ← line.direction
      return Scalar.abs (centre.offLine anchor direction - radius)
    else none
  | _ => none

/-- The rise of a direction. -/
def horizontal : List (Entity ν τ) → Option τ
  | a :: _ => do
    let u ← a.direction
    return Scalar.abs u.y
  | [] => none

/-- The run of a direction. -/
def vertical : List (Entity ν τ) → Option τ
  | a :: _ => do
    let u ← a.direction
    return Scalar.abs u.x
  | [] => none

/-- The difference between a target and the distance of a point from a point or from a line. -/
def distance (target : τ) : List (Entity ν τ) → Option τ
  | a :: b :: _ =>
    if a.kind = .point ∧ b.kind = .point then do
      let p ← a.position
      let q ← b.position
      return Scalar.abs (p.distance q - target)
    else if a.kind = .point ∧ b.kind = .line then do
      let p ← a.position
      let anchor ← b.position
      let direction ← b.direction
      return Scalar.abs (p.offLine anchor direction - target)
    else none
  | _ => none

/-- The difference between a target and the angle of two directions. -/
def angle (target : τ) : List (Entity ν τ) → Option τ
  | a :: b :: _ => do
    let u ← a.direction
    let v ← b.direction
    return Scalar.abs (Scalar.acos (Scalar.clamp (u.dot v) (-1) 1) - target)
  | _ => none

/-- The difference between a target and a radius. -/
def radius (target : τ) : List (Entity ν τ) → Option τ
  | a :: _ =>
    if a.kind.isRound then do
      let r ← a.properRadius?
      return Scalar.abs (r - target)
    else none
  | [] => none

/-- The difference between the lengths of two lines or the radii of two circles or arcs. -/
def equal : List (Entity ν τ) → Option τ
  | a :: b :: _ =>
    if a.kind = .line ∧ b.kind = .line then do
      let m ← a.parameters.get? (Name.ofText "length")
      let n ← b.parameters.get? (Name.ofText "length")
      return Scalar.abs (m - n)
    else if a.kind.isRound ∧ b.kind.isRound then do
      let r ← a.properRadius?
      let s ← b.properRadius?
      return Scalar.abs (r - s)
    else none
  | _ => none

/-- The formula of a relation. -/
def formula (relation : Relation) (target : τ) (entities : List (Entity ν τ)) : Option τ :=
  match relation with
  | .coincident => coincident entities
  | .parallel => parallel entities
  | .perpendicular => perpendicular entities
  | .tangent => tangent entities
  | .horizontal => horizontal entities
  | .vertical => vertical entities
  | .distance => distance target entities
  | .angle => angle target entities
  | .radius => radius target entities
  | .equal => equal entities
  | .concentric | .symmetric | .fixed | .unknown => some 0

end Measure

/-- Where entities are found by id. -/
abbrev Snapshot (ν τ : Type) [Name ν] := ν → Option (Entity ν τ)

/-- A snapshot in which one id stands for another entity. -/
def Snapshot.replace {ν τ : Type} [Name ν] (entities : Snapshot ν τ) (id : ν) (e : Entity ν τ) :
    Snapshot ν τ :=
  fun name => if name == id then some e else entities name

namespace Constraint

variable {ν τ α : Type} [Name ν]

/-- The entities that a constraint names and that are there, in the order it names them. -/
def resolve (c : Constraint ν α) (entities : Snapshot ν τ) : List (Entity ν τ) :=
  c.entities.filterMap entities

/-- Whether every entity that a constraint names is there. -/
def isResolvable (c : Constraint ν α) (entities : Snapshot ν τ) : Bool :=
  c.entities.all fun id => (entities id).isSome

variable [Scalar α] [Scalar τ] [Component τ α]

/-- How far a constraint is from holding. -/
def residual (c : Constraint ν α) (entities : Snapshot ν τ) : Residual τ :=
  .ofOption <| (Measure.formula c.relation (Component.ofReal c.target)
    (c.resolve entities)).map Scalar.settle

end Constraint

/-- The two families of relations. -/
inductive Family where
  | geometric
  | dimensional
  deriving DecidableEq, Repr

/-- The family of a relation. -/
def Relation.family (relation : Relation) : Family :=
  if relation.isGeometric then .geometric else .dimensional

/-- The name of a family. -/
def Family.name : Family → String
  | geometric => "GeometricConstraint"
  | dimensional => "DimensionalConstraint"

/-- The family of a constraint with its id and relation. -/
def Constraint.familyText {ν α : Type} [Name ν] (c : Constraint ν α) : String :=
  c.relation.family.name ++ "(" ++ Name.shown c.id ++ ", " ++ c.relation.name ++ ")"

end Drafting
