import Drafting.Options.Basic

/-!
# Reading options

Options are read from a record whose names may be written with underscores or with capitals inside.
An empty value of any sort stands for the standard options.
-/

namespace Drafting

/-- A name in lower case, with an underscore before each capital except at the front. -/
def underscored (name : String) : String :=
  let lower (c : Char) : List Char := if c.isUpper then ['_', c.toLower] else [c]
  match name.toList with
  | [] => ""
  | c :: rest => String.ofList (c.toLower :: rest.flatMap lower)

variable {α : Type}

/-- Gives every option its proper name; of two values for one option the later counts. -/
def namedOptions [Scalar α] (group : OptionGroup) (acc : List (String × Value α)) :
    List (Value α × Value α) → Except (Fault α) (List (String × Value α))
  | [] => .ok acc
  | (name, v) :: rest =>
    let proper := underscored name.plain
    if group.names.contains proper then namedOptions group (Assoc.set proper v acc) rest
    else .error (.unknownOption group name)

variable [Scalar α]

/-- The named options of a value; an empty value has none. -/
def optionFields (group : OptionGroup) (v : Value α) :
    Except (Fault α) (List (String × Value α)) := do
  if ← v.truth then
    match v.entries? with
    | some entries => namedOptions group [] entries
    | none => throw (.missingOperation v.kindName "items")
  else return []

/-- The options of a gradient descent that a value describes. -/
def DescentOptions.ofValue [Headroom] (v : Value α) : Except (Fault α) (DescentOptions α) := do
  let fields ← optionFields .descent v
  (DescentOptions.ofFields fields).mapError (.inOptions .descent)

/-- The options of the planar solver that a value describes. -/
def NewtonOptions.ofValue (v : Value α) : Except (Fault α) (NewtonOptions α) := do
  NewtonOptions.ofFields (← optionFields .newton v)

/-- Demands that options can be copied, as those of a solver are. -/
def DescentOptions.requireCopy [Headroom] (o : DescentOptions α) : Except (Fault α) Unit :=
  [o.maxIterations, o.tolerance, o.damping, o.verbose].forM Value.requireCopy

/-- Demands that options can be copied, as those of a solver are. -/
def NewtonOptions.requireCopy [Headroom] (o : NewtonOptions α) : Except (Fault α) Unit :=
  [o.maxIterations, o.tolerance, o.damping, o.epsilon, o.pivotTolerance].forM Value.requireCopy

end Drafting
