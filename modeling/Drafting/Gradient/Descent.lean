import Drafting.Gradient.Plan

/-!
# Gradient descent

The freedoms of an entity are the three components of its position, if it has one, and its
parameters. A step moves every freedom against the sum of the slopes that the planned constraints
have along it, each slope being a forward difference of the constraint's residual. Residuals that
are not finite, before or after the nudge, contribute no slope. The differences come from trials,
made one after the other on the entities as the trials before leave them; reals are left as they
are.
-/

namespace Drafting

/-- A number of an entity that a solve may change. -/
inductive Freedom (ν : Type) where
  | position (axis : Axis)
  | parameter (name : ν)
  deriving Repr

/-- Whether two freedoms are the same; names are compared as names. -/
instance {ν : Type} [Name ν] : BEq (Freedom ν) where
  beq
    | .position a, .position b => decide (a = b)
    | .parameter m, .parameter n => m == n
    | _, _ => false

namespace Entity

variable {ν τ : Type} [Name ν]

/-- The freedoms of an entity. -/
def freedoms (e : Entity ν τ) : List (Freedom ν) :=
  (if e.position.isSome then Axis.all.map Freedom.position else []) ++
    e.parameters.keys.map Freedom.parameter

variable [Scalar τ]

/-- The entity moved by `delta` along one of its freedoms. -/
def nudge (e : Entity ν τ) (freedom : Freedom ν) (delta : τ) : Entity ν τ :=
  match freedom with
  | .position axis => e.moveTo (e.position.map fun p => p.shift axis delta)
  | .parameter name => e.modifyParameter name (· + delta)

/-- What a nudge leaves of the entity itself. -/
def wear (e : Entity ν τ) (freedom : Freedom ν) (delta : τ) : Entity ν τ :=
  match freedom with
  | .position axis => e.moveTo (e.position.map fun p => p.wear axis delta)
  | .parameter _ => e

end Entity

namespace Gradient

variable {ν τ α : Type} [Name ν] [Scalar τ]

/-- How far a freedom is moved to see how a residual changes. -/
def nudgeSize : τ := 1e-5

/-- The share of the damped slope that a step goes. -/
def stepScale : τ := 0.01

/-- How a residual changes along one freedom of one entity. -/
structure Slope (ν τ : Type) where
  entity : ν
  freedom : Freedom ν
  slope : τ

/-- An entity moved along one of its freedoms, to see how the residual of a constraint changes. -/
structure Trial (ν τ : Type) [Name ν] where
  entity : ν
  freedom : Freedom ν
  /-- The residual before. -/
  base : τ
  moved : Entity ν τ
  /-- The residual with the moved entity. -/
  residual : Residual τ
  /-- All entities as the trial leaves them. -/
  left : Table ν (Entity ν τ)

/-- The slope that a trial has found, if its residual is finite. -/
def Trial.slope? (t : Trial ν τ) : Option (Slope ν τ) :=
  t.residual.finite?.map fun nudged => ⟨t.entity, t.freedom, (nudged - t.base) / nudgeSize⟩

/-- The entities as trials leave them. -/
def leftBy (entities : Table ν (Entity ν τ)) (trials : List (Trial ν τ)) :
    Table ν (Entity ν τ) :=
  (trials.getLast?.map Trial.left).getD entities

/-- Trials for one thing after the other, each on what those before leave. -/
def inTurn {β : Type} (trials : Table ν (Entity ν τ) → β → List (Trial ν τ)) :
    Table ν (Entity ν τ) → List β → List (Trial ν τ)
  | _, [] => []
  | entities, x :: rest =>
    let own := trials entities x
    own ++ inTurn trials (leftBy entities own) rest

section

variable [Scalar α] [Component τ α]

/-- The trial of a constraint with an entity moved along one of its freedoms. -/
def trial (c : Constraint ν α) (base : τ) (id : ν) (entities : Table ν (Entity ν τ))
    (freedom : Freedom ν) : Option (Trial ν τ) :=
  (entities.get? id).map fun e =>
    let moved := e.nudge freedom nudgeSize
    { entity := id, freedom, base, moved
      residual := c.residual ((snapshot entities).replace id moved)
      left := entities.modify id fun e => e.wear freedom nudgeSize }

/-- The trials of a constraint along the freedoms of the entity with an id. -/
def trialsAt (c : Constraint ν α) (base : τ) (entities : Table ν (Entity ν τ)) (id : ν) :
    List (Trial ν τ) :=
  let freedoms := ((entities.get? id).map Entity.freedoms).getD []
  inTurn (fun entities freedom => (trial c base id entities freedom).toList) entities freedoms

/-- The trials of a constraint along the freedoms of the entities it names, each taken once. -/
def trialsOf (entities : Table ν (Entity ν τ)) (c : Constraint ν α) : List (Trial ν τ) :=
  match (c.residual (snapshot entities)).finite? with
  | some base => inTurn (trialsAt c base) entities c.entities.eraseDups
  | none => []

/-- The trials of all planned constraints, in the order of the plan. -/
def survey (plan : List (Constraint ν α)) (entities : Table ν (Entity ν τ)) :
    List (Trial ν τ) :=
  inTurn trialsOf entities plan

end

/-- The change of one freedom, if there is a slope along it. -/
def change? (damping : τ) (own : List (Slope ν τ)) (freedom : Freedom ν) : Option τ :=
  match own.filter fun s => s.freedom == freedom with
  | [] => none
  | along => some (-(Scalar.sum (along.map Slope.slope)) * (damping * stepScale))

/-- The names among the parameters of an entity that are no texts. -/
def wordless (e : Entity ν τ) : List ν := e.parameters.keys.filter fun k => (Name.text? k).isNone

/-- The change along a parameter whose name is no text. It goes to the parameter that is named by
the text of that name. -/
def applyWordless (damping : τ) (own : List (Slope ν τ)) (e : Entity ν τ) (name : ν) :
    Entity ν τ :=
  match change? damping own (.parameter name) with
  | some delta =>
    e.setParameter (Name.spelled name) ((e.parameters.get? (Name.spelled name)).getD 0 + delta)
  | none => e

/-- The entity after a step, given the slopes along its own freedoms. -/
def applySlopes (damping : τ) (e : Entity ν τ) (own : List (Slope ν τ)) : Entity ν τ :=
  if own.isEmpty then e
  else
    let along (axis : Axis) : τ := (change? damping own (.position axis)).getD 0
    let moved := e.moveTo (e.position.map fun p => p.add ⟨along .x, along .y, along .z⟩)
    let changed := moved.mapParameters fun name v =>
      match Name.text? name, change? damping own (.parameter name) with
      | some _, some delta => v + delta
      | _, _ => v
    (wordless e).foldl (applyWordless damping own) changed

variable [Scalar α] [Component τ α]

/-- One step of all entities against the slopes that a survey of them finds. -/
def descend (damping : τ) (plan : List (Constraint ν α)) (entities : Table ν (Entity ν τ)) :
    Table ν (Entity ν τ) :=
  let trials := survey plan entities
  let all := trials.filterMap Trial.slope?
  (leftBy entities trials).mapValues fun id e =>
    applySlopes damping e (all.filter fun s => s.entity == id)

/-- The root mean square of the residuals of a plan. -/
def totalResidual (plan : List (Constraint ν α)) (entities : Table ν (Entity ν τ)) : Residual τ :=
  .rootMeanSquare (plan.map fun c => c.residual (snapshot entities))

end Gradient

end Drafting
