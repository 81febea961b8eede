import Drafting.Component
import Drafting.Value.Arithmetic

/-!
# Quantities

A quantity is a value of any sort that stands where a number is expected, or the fault that arose
when it was computed. Quantities are scalars: an operation on a quantity at fault is at fault in the
same way, the first operand before the second, so that a formula shows the fault that is met first.
-/

namespace Drafting

/-- A value in place of a number, or what went wrong. -/
inductive Quantity where
  | given (v : Value Float)
  | faulty (f : Fault Float)

namespace Quantity

/-- The outcome of a computation as a quantity. -/
def ofOutcome : Value.Outcome → Quantity
  | .ok v => given v
  | .error f => faulty f

/-- A quantity as the outcome of a computation. -/
def outcome : Quantity → Value.Outcome
  | given v => .ok v
  | faulty f => .error f

/-- A real as a quantity. -/
def ofFloat (x : Float) : Quantity := given (.real x)

/-- An operation on values. -/
def lift (f : Value Float → Value.Outcome) (a : Quantity) : Quantity := ofOutcome (a.outcome >>= f)

/-- An operation on two values. -/
def lift₂ (f : Value Float → Value Float → Value.Outcome) (a b : Quantity) : Quantity :=
  ofOutcome do
    let v ← a.outcome
    f v (← b.outcome)

/-- The second quantity if a test of the two says so, else the first. -/
def choose (test : Value Float → Value Float → Except (Fault Float) Bool) (a b : Quantity) :
    Quantity :=
  lift₂ (fun v w => do return if ← test w v then w else v) a b

/-- The double that a quantity is; one at fault counts as undefined. -/
def toFloat (a : Quantity) : Float :=
  match a with
  | given v => v.toReal.toOption.getD (0.0 / 0.0)
  | faulty _ => 0.0 / 0.0

/-- Whether a comparison of two quantities holds. -/
def holds (test : Option Ordering → Bool) (a b : Quantity) : Bool :=
  match a, b with
  | given v, given w => (v.isOrdered .less test w).toOption.getD false
  | _, _ => false

end Quantity

instance : Scalar Quantity where
  zero := .ofFloat 0.0
  one := .ofFloat 1.0
  add := .lift₂ Value.plus
  sub := .lift₂ Value.minus
  mul := .lift₂ Value.times
  div := .lift₂ Value.quotient
  neg := .lift Value.negative
  le a b := a.holds (fun o => o == some .lt || o == some .eq) b = true
  lt a b := a.holds (· == some .lt) b = true
  natCast n := .given (.int n)
  ofScientific m s e := .ofFloat (OfScientific.ofScientific m s e)
  decidableLe a b :=
    inferInstanceAs (Decidable (a.holds (fun o => o == some .lt || o == some .eq) b = true))
  decidableLt a b := inferInstanceAs (Decidable (a.holds (· == some .lt) b = true))
  abs := .lift Value.magnitude
  sqrt := .lift (Value.transcendental Float.sqrt)
  acos := .lift (Value.transcendental Float.acos)
  hypot a b := .ofFloat (Scalar.hypot a.toFloat b.toFloat)
  isFinite
    | .given (.real x) => x.isFinite
    | _ => true
  ceil a := Scalar.ceil a.toFloat
  ofInt? n := some (.given (.int n))
  ofIntBelow n := .given (.int n)
  compareInt? n a :=
    match a with
    | .given v => (v.number?).bind fun x => (Number.whole n).compare? x
    | .faulty _ => none
  ofNumeral n := .ofFloat n.toFloat
  text
    | .given v => v.shown
    | .faulty f => f.message
  greater := .choose Value.isGreater
  lesser := .choose Value.isLess
  increase := .lift₂ Value.movedBy
  wear
    | .given v, .given w =>
      if v.isArray then .given ((v.movedBy w).toOption.getD v) else .given v
    | a, _ => a
  settle := .lift fun v => do return .real (← v.toReal)
  after := .lift₂ fun _ w => .ok w

instance : Component Quantity Float where
  ofReal := .ofFloat
  ofValue v := .ok (.given v)
  toValue
    | .given v => v
    | .faulty _ => .null
  fault?
    | .given _ => none
    | .faulty f => some f
  factor v := .ok (.given v)
  bound v := do
    let _ : Float ← v.bound
    return .given v

end Drafting
