import Drafting.Sketch.Basic
import Drafting.Constraint.Reading
import Drafting.Entity.Reading
import Drafting.Options.Reading

/-!
# Reading sketches

A sketch is read from a record with the sections `options`, `entities` and `constraints`, each of
which may be absent. Options that are given beside the record take the place of its own.
-/

namespace Drafting

namespace Sketch

variable {ν τ α : Type} [Scalar α] [Name ν] [Named ν α] [Headroom]

/-- Adds the entities that records describe, one after the other. -/
def addEntityRecords [Component τ α] (s : Sketch ν τ α) :
    List (Value α) → Except (Fault α) (Sketch ν τ α)
  | [] => .ok s
  | item :: rest => do addEntityRecords (← s.addEntity (← Entity.ofRecord item)) rest

/-- Adds the constraints that records describe, one after the other. -/
def addConstraintRecords (s : Sketch ν τ α) : List (Value α) → Except (Fault α) (Sketch ν τ α)
  | [] => .ok s
  | item :: rest => do addConstraintRecords (← s.addConstraint (← Constraint.ofRecord item)) rest

/-- The options of a sketch: those given beside it, or those in its record. -/
def optionsFor (fields : List (String × Value α)) (given? : Option (DescentOptions α)) :
    Except (Fault α) (DescentOptions α) :=
  match given? with
  | some options => .ok options
  | none => DescentOptions.ofValue (fieldOrNull fields "options")

/-- The sketch that a value describes. -/
def ofRecord [Component τ α] (v : Value α) (given? : Option (DescentOptions α)) :
    Except (Fault α) (Sketch ν τ α) :=
  match v.fields? with
  | none => .error .notSketch
  | some fields => do
    let options ← optionsFor fields given?
    options.requireCopy
    let s ← addEntityRecords (.empty options) (← sectionRecords fields "entities")
    addConstraintRecords s (← sectionRecords fields "constraints")

end Sketch

end Drafting
