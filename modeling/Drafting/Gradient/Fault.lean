import Drafting.Gradient.Solution

/-!
# Faults of a descent

Numbers that are at fault show at the start of a descent or in its first step, which turns whatever
it touches into reals: the residuals are measured, every freedom is nudged, the damping is applied
and the entities are moved. The fault that is met first is reported. Reals are never at fault.
-/

namespace Drafting

/-- What the parameters of an entity are at fault for: each of them has to be a number. -/
def Entity.parameterFault? {ν τ α : Type} [Name ν] [Named ν α] [Scalar τ] [Component τ α]
    (e : Entity ν τ) : Option (Fault α) :=
  e.parameters.entries.findSome? fun (name, x) =>
    match (Component.fault? (Scalar.settle x) : Option (Fault α)) with
    | none => none
    | some .tooLarge => some .tooLarge
    | some _ => some (.nonNumericParameter (Named.toValue e.id) (Named.toValue name))

/-- What an entity is at fault for: its position, or else its parameters. -/
def Entity.fault? {ν τ α : Type} [Name ν] [Named ν α] [Scalar τ] [Component τ α]
    (e : Entity ν τ) : Option (Fault α) :=
  (e.position.bind Vector3.fault?).or e.parameterFault?

/-- What a residual is at fault for. -/
def Residual.fault? {τ α : Type} [Component τ α] : Residual τ → Option (Fault α)
  | infeasible => none
  | measured r => Component.fault? r

namespace Gradient

variable {ν τ α : Type} [Name ν] [Scalar τ] [Scalar α] [Component τ α]

/-- The first fault in measuring a plan. -/
def measureFault? (plan : List (Constraint ν α)) (entities : Snapshot ν τ) : Option (Fault α) :=
  plan.findSome? fun c => (c.residual entities).fault?

/-- What a trial is at fault for: the moved entity, or else its residual. -/
def Trial.fault? [Named ν α] (t : Trial ν τ) : Option (Fault α) :=
  t.moved.fault?.or t.residual.fault?

/-- The first fault in finding the slopes of a plan. -/
def slopeFault? [Named ν α] (plan : List (Constraint ν α)) (entities : Table ν (Entity ν τ)) :
    Option (Fault α) :=
  (survey plan entities).findSome? Trial.fault?

/-- The items of a list up to the first that a test holds of, which is the last one taken. -/
def upToFirst {β : Type} (test : β → Bool) : List β → List β
  | [] => []
  | x :: rest => if test x then [x] else x :: upToFirst test rest

/-- The first fault of a step. -/
def stepFault? [Named ν α] (damping : τ) (plan : List (Constraint ν α))
    (entities : Table ν (Entity ν τ)) : Option (Fault α) :=
  let moved := descend damping plan entities
  (slopeFault? plan entities).or <|
    (Component.fault? (damping * stepScale)).or <|
      (moved.values.findSome? Entity.fault?).or (measureFault? plan (snapshot moved))

/-- Demands that there is no fault. -/
def requireNone : Option (Fault α) → Except (Fault α) Unit
  | none => .ok ()
  | some fault => .error fault

end Gradient

end Drafting
