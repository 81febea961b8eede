import Drafting.Gradient.Fault
import Drafting.Options.Basic

/-!
# Sketches

A sketch holds entities and constraints by their ids, in the order in which they first came, and the
options to solve them with. Removing an entity removes the constraints that name it. A solve leaves
the sketch as it is, unless it holds numbers that are changed in place; the entities of a solution
are stored by committing it.
-/

namespace Drafting

/-- Entities and constraints by id, and how to solve for them. -/
structure Sketch (ν τ α : Type) [Name ν] where
  options : DescentOptions α
  entities : Table ν (Entity ν τ)
  constraints : Table ν (Constraint ν α)

namespace Sketch

/-- What an operation makes of a sketch, and what comes of it. An operation that fails may have
gone part of its way. -/
structure Attempt (ν τ α β : Type) [Name ν] where
  sketch : Sketch ν τ α
  result : Except (Fault α) β

variable {ν τ α : Type} [Name ν]

/-- The sketch without entities and constraints. -/
def empty (options : DescentOptions α) : Sketch ν τ α := ⟨options, .empty, .empty⟩

/-- Adds an entity, or replaces the one with its id. -/
def addEntity (s : Sketch ν τ α) (e : Entity ν τ) : Except (Fault α) (Sketch ν τ α) := do
  Name.require e.id
  return { s with entities := s.entities.insert e.id e }

/-- Adds a constraint, or replaces the one with its id. -/
def addConstraint (s : Sketch ν τ α) (c : Constraint ν α) : Except (Fault α) (Sketch ν τ α) := do
  Name.require c.id
  return { s with constraints := s.constraints.insert c.id c }

/-- The constraints that name an entity. -/
def constraintsFor [Named ν α] (s : Sketch ν τ α) (id : ν) :
    Except (Fault α) (List (Constraint ν α)) :=
  s.constraints.values.filterM fun c => c.references id

/-- A table without one name. A table that is empty is left as it is, whatever the name is. -/
def without {μ : Type} (entries : Table ν μ) (id : ν) : Except (Fault α) (Table ν μ) := do
  unless entries.size == 0 do Name.require id
  return entries.erase id

/-- Removes an entity and then the constraints that name it. -/
def removeEntity [Named ν α] (s : Sketch ν τ α) (id : ν) : Attempt ν τ α Unit :=
  match without s.entities id with
  | .error fault => ⟨s, .error fault⟩
  | .ok entities =>
    let s := { s with entities }
    match s.constraints.filterM? fun _ c => (c.references id).map not with
    | .error fault => ⟨s, .error fault⟩
    | .ok constraints => ⟨{ s with constraints }, .ok ()⟩

/-- Removes a constraint. -/
def removeConstraint (s : Sketch ν τ α) (id : ν) : Except (Fault α) (Sketch ν τ α) := do
  return { s with constraints := ← without s.constraints id }

/-- Removes every entity and every constraint. -/
def clear (s : Sketch ν τ α) : Sketch ν τ α := { s with entities := .empty, constraints := .empty }

/-- Stores the entities of a solution in place of those with their ids; others are left out. -/
def commit (s : Sketch ν τ α) (solution : Gradient.Solution ν τ) : Sketch ν τ α :=
  { s with
    entities := s.entities.mapValues fun id e => (solution.entities.get? id).getD e }

variable [Scalar α]

/-- Moves an entity that is there to the position that a value gives. -/
def moveEntity [Component τ α] [Named ν α] (s : Sketch ν τ α) (id : ν) (position : Value α) :
    Except (Fault α) (Sketch ν τ α) := do
  Name.require id
  if s.entities.contains id then
    let position ← Vector3.ofValue position
    return { s with entities := s.entities.modify id fun e => e.moveTo (some position) }
  else throw (.unknownEntity (Named.toValue id))

/-- Switches a constraint that is there on or off. -/
def setActive [Named ν α] (s : Sketch ν τ α) (id : ν) (active : Value α) :
    Except (Fault α) (Sketch ν τ α) := do
  let active ← active.truth
  Name.require id
  if s.constraints.contains id then
    return { s with
      constraints := s.constraints.modify id fun c => { c with active := .flag active } }
  else throw (.unknownConstraint (Named.toValue id))

/-- The constraints that a solve works on. -/
def plan (s : Sketch ν τ α) : List (Constraint ν α) :=
  Gradient.plan s.entities s.constraints.values

/-- What a solve leaves out of account. -/
def diagnose (s : Sketch ν τ α) : Gradient.Diagnostics ν :=
  Gradient.diagnose s.entities s.constraints.values

variable [Scalar τ] [Component τ α]

/-- Demands that the constraints of a sketch can be planned and measured. -/
def requireMeasurable (s : Sketch ν τ α) : Except (Fault α) Unit := do
  Gradient.requirePlannable s.constraints.values
  if !s.plan.isEmpty then
    let _ ← s.options.verbose.truth
    Gradient.requireNone (Gradient.measureFault? s.plan (Gradient.snapshot s.entities))

/-- The greatest number of steps and the tolerance of a sketch, and whether a step is made. -/
def limits (s : Sketch ν τ α) : Except (Fault α) (Nat × τ × Bool) := do
  let maxIterations ← s.options.maxIterations.iterationCap
  let tolerance : τ ← Component.bound s.options.tolerance
  let start := Gradient.Iterate.of s.plan s.entities
  return (maxIterations, tolerance, !(maxIterations = 0 ∨ start.isDone tolerance))

/-- The settings that the options of a sketch amount to, found out in the order in which a solve
needs them; the damping is needed only for a step. -/
def settings [Named ν α] (s : Sketch ν τ α) : Except (Fault α) (Gradient.Settings τ) := do
  let (maxIterations, tolerance, steps) ← s.limits
  if !steps then return ⟨maxIterations, tolerance, 0⟩
  else
    let damping ← Component.factor s.options.damping
    Gradient.requireNone (Gradient.stepFault? damping s.plan s.entities)
    return ⟨maxIterations, tolerance, damping⟩

/-- Runs the descent for the constraints of a sketch. -/
def descend [Named ν α] (s : Sketch ν τ α) :
    Except (Fault α) (Gradient.Solution ν τ) := do
  s.requireMeasurable
  if s.plan.isEmpty then return .trivial s.entities s.diagnose
  else return Gradient.solve (← s.settings) s.entities s.constraints.values

/-- Demands that the tolerance can be multiplied and written, which a failed solve takes. -/
def requireReportable (s : Sketch ν τ α) (solution : Gradient.Solution ν τ) :
    Except (Fault α) Unit := do
  if !solution.success then
    let tolerance : τ ← Component.factor s.options.tolerance
    Gradient.requireNone (Component.fault? (tolerance * Gradient.conflictFactor))
    match s.options.tolerance with
    | v@(.array _ (_ :: _) _) => throw (.noStyle v.kindName)
    | _ => return

/-- What a run of the descent comes to once it is reported. -/
def conclude (s : Sketch ν τ α) (run : Except (Fault α) (Gradient.Solution ν τ)) :
    Except (Fault α) (Gradient.Solution ν τ) := do
  let solution ← run
  s.requireReportable solution
  return solution

/-- Whether a solve of a sketch makes a step. -/
def steps (s : Sketch ν τ α) : Bool :=
  match s.requireMeasurable, (s.limits : Except (Fault α) (Nat × τ × Bool)) with
  | .ok (), .ok (_, _, steps) => !s.plan.isEmpty && steps
  | _, _ => false

/-- What a solve leaves of a sketch: the trials of the first step go on until one is at fault. -/
def worn [Named ν α] (s : Sketch ν τ α) : Sketch ν τ α :=
  if s.steps then
    let trials := Gradient.upToFirst
      (fun t => (t.fault? : Option (Fault α)).isSome) (Gradient.survey s.plan s.entities)
    { s with entities := Gradient.leftBy s.entities trials }
  else s

/-- Solves for the constraints of a sketch. -/
def solve [Named ν α] (s : Sketch ν τ α) : Attempt ν τ α (Gradient.Solution ν τ) :=
  ⟨s.worn, s.conclude s.descend⟩

end Sketch

end Drafting
