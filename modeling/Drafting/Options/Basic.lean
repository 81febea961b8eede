import Drafting.Value.Fields

/-!
# Solver options

The options of the two solvers are kept as they were given, so that they can be shown again
unchanged; whether an option can be used is found out where a solver uses it. The registry holds
the options of solvers that are built without any.
-/

namespace Drafting

/-- The methods of solving that can be asked for. -/
inductive Method where
  | newtonRaphson
  | gradientDescent
  | hybrid
  deriving DecidableEq, Repr

namespace Method

/-- The name of a method. -/
def name : Method → String
  | newtonRaphson => "newton-raphson"
  | gradientDescent => "gradient-descent"
  | hybrid => "hybrid"

/-- All methods. -/
def all : List Method := [newtonRaphson, gradientDescent, hybrid]

/-- The method that a value names. -/
def ofValue {α : Type} [Scalar α] (v : Value α) : Except (Fault α) Method :=
  v.member .solveMethod all name

end Method

/-- The names of the options of a group. -/
def OptionGroup.names : OptionGroup → List String
  | descent => ["max_iterations", "tolerance", "damping", "method", "verbose"]
  | newton => ["max_iterations", "tolerance", "damping", "epsilon", "pivot_tolerance"]

/-- Demands that fields are options of a group. -/
def OptionGroup.require {α : Type} (group : OptionGroup) (fields : List (String × Value α)) :
    Except (Fault α) Unit :=
  requireArguments (group.name ++ ".__init__") [] group.names fields

/-- The options of the gradient descent. -/
structure DescentOptions (α : Type) where
  maxIterations : Value α
  tolerance : Value α
  damping : Value α
  method : Method
  verbose : Value α

/-- The options of the planar solver. -/
structure NewtonOptions (α : Type) where
  maxIterations : Value α
  tolerance : Value α
  damping : Value α
  epsilon : Value α
  pivotTolerance : Value α

variable {α : Type}

/-- Options by their names. -/
def DescentOptions.toFields (o : DescentOptions α) : List (String × Value α) :=
  [("max_iterations", o.maxIterations), ("tolerance", o.tolerance), ("damping", o.damping),
    ("method", .text o.method.name), ("verbose", o.verbose)]

/-- Options by their names. -/
def NewtonOptions.toFields (o : NewtonOptions α) : List (String × Value α) :=
  [("max_iterations", o.maxIterations), ("tolerance", o.tolerance), ("damping", o.damping),
    ("epsilon", o.epsilon), ("pivot_tolerance", o.pivotTolerance)]

variable [Scalar α]

/-- The options of a gradient descent where none are given. -/
def DescentOptions.standard : DescentOptions α :=
  ⟨.int 100, .real 1e-6, .real 0.8, .gradientDescent, .flag false⟩

/-- The options of the planar solver where none are given. -/
def NewtonOptions.standard : NewtonOptions α :=
  ⟨.int 100, .real 1e-8, .real 0.8, .real 1e-8, .real 1e-12⟩

/-- The value of a field, or what to take where it is absent. -/
def fieldOr (fields : List (String × Value α)) (name : String) (otherwise : Value α) : Value α :=
  (field? fields name).getD otherwise

/-- Options from named values; those left out are taken from the standard ones. -/
def DescentOptions.ofFields (fields : List (String × Value α)) :
    Except (Fault α) (DescentOptions α) := do
  OptionGroup.descent.require fields
  let standard : DescentOptions α := .standard
  let method ← Method.ofValue (fieldOr fields "method" (.text standard.method.name))
  return {
    maxIterations := fieldOr fields "max_iterations" standard.maxIterations
    tolerance := fieldOr fields "tolerance" standard.tolerance
    damping := fieldOr fields "damping" standard.damping
    method
    verbose := fieldOr fields "verbose" standard.verbose }

/-- Options from named values; those left out are taken from the standard ones. -/
def NewtonOptions.ofFields (fields : List (String × Value α)) :
    Except (Fault α) (NewtonOptions α) := do
  OptionGroup.newton.require fields
  let standard : NewtonOptions α := .standard
  return {
    maxIterations := fieldOr fields "max_iterations" standard.maxIterations
    tolerance := fieldOr fields "tolerance" standard.tolerance
    damping := fieldOr fields "damping" standard.damping
    epsilon := fieldOr fields "epsilon" standard.epsilon
    pivotTolerance := fieldOr fields "pivot_tolerance" standard.pivotTolerance }

/-- The registered options of solvers that are built without any; there may be none. -/
structure Registry (α : Type) where
  descent : Option (DescentOptions α)
  newton : Option (NewtonOptions α)

namespace Registry

/-- The registry in which nothing has been registered. -/
def standard : Registry α := ⟨some .standard, some .standard⟩

/-- Registers options for gradient descents, or that there are none. -/
def setDescent (r : Registry α) (o : Option (DescentOptions α)) : Registry α :=
  { r with descent := o }

/-- Registers options for planar solvers, or that there are none. -/
def setNewton (r : Registry α) (o : Option (NewtonOptions α)) : Registry α := { r with newton := o }

/-- The options of a gradient descent: those given, or the registered ones. It cannot do without. -/
def descentFor (r : Registry α) (given? : Option (DescentOptions α)) :
    Except (Fault α) (DescentOptions α) :=
  match given?.or r.descent with
  | some o => .ok o
  | none => .error (.missingOperation (Value.null : Value α).kindName "method")

/-- The options of a planar solver: those given, or the registered ones. -/
def newtonFor (r : Registry α) (given? : Option (NewtonOptions α)) : Option (NewtonOptions α) :=
  given?.or r.newton

end Registry

end Drafting
