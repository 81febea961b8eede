import Drafting.Entity.Basic
import Drafting.Constraint.Basic
import Drafting.Scalar.Binary64

/-!
# Checking a sketch before it is solved

`Validation.check` accepts a sketch whose ids are distinct and whose constraints can all be measured
in full: each relation has a formula, the right number of references, all of them to entities that
are there, and these have what the formula needs. The first problem found is reported.
-/

namespace Drafting.Validation

/-- What is wrong with a constraint. -/
inductive Complaint (ν : Type) where
  | unknownRelation
  | unmeasured
  | referenceCount (expected found : Nat)
  | unknownEntities (ids : List ν)
  | noTarget
  | noDirection (entity : ν)
  | noPosition (entity : ν)
  | distanceKinds (first second : Entity.Kind)
  | noPositions
  | lineWithoutDirection (line : ν)
  | tangentKinds (first second : Entity.Kind)
  | incompleteCircle (circle : ν)
  | incompleteLine (line : ν)
  | notRound (entity : ν)
  | noLengths
  | equalKinds
  | noRadii
  deriving DecidableEq, Repr

/-- What is wrong with a sketch. -/
inductive Problem (ν : Type) where
  | duplicateEntity (id : ν)
  | duplicateConstraint (id : ν)
  | constraint (id : ν) (relation : Relation) (complaint : Complaint ν)
  /-- A value of this kind is no id. -/
  | unusableId (kind : String)
  deriving DecidableEq, Repr

section

variable {ν : Type} [Name ν]

/-- The wording of a complaint. -/
def Complaint.text : Complaint ν → String
  | unknownRelation => "unknown constraint type"
  | unmeasured => "has no residual and would be ignored by the solver"
  | referenceCount expected found => s!"expected {expected} entities, got {found}"
  | unknownEntities ids => "references unknown entities " ++ Name.listText ids
  | noTarget => "needs a target value"
  | noDirection entity => "entity \"" ++ Name.plain entity ++ "\" has no direction"
  | noPosition entity => "entity \"" ++ Name.plain entity ++ "\" has no position"
  | distanceKinds first second =>
    "expects point-point or point-line, got " ++ first.name ++ "-" ++ second.name
  | noPositions => "entities need positions"
  | lineWithoutDirection line => "line \"" ++ Name.plain line ++ "\" has no direction"
  | tangentKinds first second =>
    "expects circle then line, got " ++ first.name ++ "-" ++ second.name
  | incompleteCircle circle =>
    "circle \"" ++ Name.plain circle ++ "\" needs centre and radius"
  | incompleteLine line => "line \"" ++ Name.plain line ++ "\" needs position and direction"
  | notRound entity =>
    "entity \"" ++ Name.plain entity ++ "\" is not a circle/arc with a radius"
  | noLengths => "lines need a \"length\" parameter"
  | equalKinds => "expects two lines or two circles/arcs"
  | noRadii => "circles/arcs need a radius"

/-- The wording of a problem. -/
def Problem.message : Problem ν → String
  | duplicateEntity id => "[entity " ++ Name.plain id ++ "] duplicate entity id"
  | duplicateConstraint id => "[constraint " ++ Name.plain id ++ "] duplicate constraint id"
  | constraint id relation complaint =>
    "[constraint " ++ Name.plain id ++ "] " ++ relation.name ++ ": " ++ complaint.text
  | unusableId kind => (Fault.unhashable kind : Fault Float).message

end

variable {ν τ α : Type} [Name ν] [Scalar τ]

/-- Demands a condition. -/
def require (condition : Bool) (complaint : Complaint ν) : Except (Complaint ν) Unit :=
  if condition then .ok () else .error complaint

/-- Relations that drive a measured value toward a target. -/
def needsTarget : Relation → Bool
  | .distance | .angle | .radius => true
  | _ => false

/-- Relations between directions. -/
def needsDirections : Relation → Bool
  | .parallel | .perpendicular | .angle | .horizontal | .vertical => true
  | _ => false

/-- Demands of each entity in turn what a test asks. -/
def requireEach (entities : List (Entity ν τ)) (test : Entity ν τ → Bool)
    (complaint : Entity ν τ → Complaint ν) : Except (Complaint ν) Unit :=
  match entities with
  | [] => .ok ()
  | e :: rest => do
    require (test e) (complaint e)
    requireEach rest test complaint

/-- Checks the entities of a distance. -/
def checkDistance : List (Entity ν τ) → Except (Complaint ν) Unit
  | [a, b] => do
    require (a.kind == .point && (b.kind == .point || b.kind == .line))
      (.distanceKinds a.kind b.kind)
    require (a.position.isSome && b.position.isSome) .noPositions
    if b.kind == .line then require b.direction.isSome (.lineWithoutDirection b.id) else .ok ()
  | _ => .ok ()

/-- Checks the entities of a tangency. -/
def checkTangent : List (Entity ν τ) → Except (Complaint ν) Unit
  | [circle, line] => do
    require (circle.kind == .circle && line.kind == .line) (.tangentKinds circle.kind line.kind)
    require (circle.properRadius?.isSome && circle.position.isSome) (.incompleteCircle circle.id)
    require (line.position.isSome && line.direction.isSome) (.incompleteLine line.id)
  | _ => .ok ()

/-- Checks the entity of a radius. -/
def checkRadius : List (Entity ν τ) → Except (Complaint ν) Unit
  | e :: _ => require (e.kind.isRound && e.properRadius?.isSome) (.notRound e.id)
  | [] => .ok ()

/-- Whether an entity has a length. -/
def hasLength (e : Entity ν τ) : Bool := e.parameters.contains (Name.ofText "length")

/-- Checks the entities of an equality. -/
def checkEqual : List (Entity ν τ) → Except (Complaint ν) Unit
  | [a, b] =>
    if a.kind == .line && b.kind == .line then
      require (hasLength a && hasLength b) .noLengths
    else do
      require (a.kind.isRound && b.kind.isRound) .equalKinds
      require (a.properRadius?.isSome && b.properRadius?.isSome) .noRadii
  | _ => .ok ()

/-- Checks that the entities of a constraint have what its formula needs. -/
def checkFields (c : Constraint ν α) (entities : List (Entity ν τ)) :
    Except (Complaint ν) Unit := do
  if needsTarget c.relation then require c.value.isSome .noTarget
  if needsDirections c.relation then
    requireEach entities (fun e => e.direction.isSome) fun e => .noDirection e.id
  else match c.relation with
    | .coincident =>
      requireEach entities (fun e => e.position.isSome) fun e => .noPosition e.id
    | .distance => checkDistance entities
    | .tangent => checkTangent entities
    | .radius => checkRadius entities
    | .equal => checkEqual entities
    | _ => .ok ()

/-- The entity with an id. -/
def find? (entities : List (Entity ν τ)) (id : ν) : Option (Entity ν τ) :=
  entities.find? fun e => e.id == id

/-- Checks one constraint against entities with distinct ids. -/
def checkConstraint (entities : List (Entity ν τ)) (c : Constraint ν α) :
    Except (Complaint ν) Unit := do
  require (c.relation != .unknown) .unknownRelation
  require c.relation.isMeasured .unmeasured
  let expected := c.relation.arity?.getD 0
  require (c.entities.length == expected) (.referenceCount expected c.entities.length)
  let missing := c.entities.filter fun id => (find? entities id).isNone
  require missing.isEmpty (.unknownEntities missing)
  checkFields c (c.entities.filterMap (find? entities))

/-- Demands that names can be looked up. -/
def requireUsable (names : List ν) : Except (Problem ν) Unit :=
  match names.findSome? Name.obstacle? with
  | some kind => .error (.unusableId kind)
  | none => .ok ()

/-- Checks that the ids of entities are distinct, after those seen already. -/
def checkEntities (seen : List ν) : List (Entity ν τ) → Except (Problem ν) Unit
  | [] => .ok ()
  | e :: rest => do
    requireUsable [e.id]
    if seen.any (· == e.id) then throw (.duplicateEntity e.id)
    else checkEntities (e.id :: seen) rest

/-- Whether a check of a constraint gets as far as to look its entities up. -/
def isLookedUp (c : Constraint ν α) : Bool :=
  c.relation.isMeasured && some c.entities.length == c.relation.arity?

/-- Checks constraints in turn, whose ids have to differ from those seen already. -/
def checkConstraints (entities : List (Entity ν τ)) (seen : List ν) :
    List (Constraint ν α) → Except (Problem ν) Unit
  | [] => .ok ()
  | c :: rest => do
    requireUsable [c.id]
    if seen.any (· == c.id) then throw (.duplicateConstraint c.id)
    else
      if isLookedUp c then requireUsable c.entities
      match checkConstraint entities c with
      | .error complaint => throw (.constraint c.id c.relation complaint)
      | .ok () => checkConstraints entities (c.id :: seen) rest

/-- Checks a whole sketch. -/
def check (entities : List (Entity ν τ)) (constraints : List (Constraint ν α)) :
    Except (Problem ν) Unit := do
  checkEntities [] entities
  checkConstraints entities [] constraints

end Drafting.Validation
