import Drafting.Value.Operand

/-!
# Parameters of computations on arrays

A parameter that takes part in a computation on arrays may be an array itself, or nested sequences
that make one. What its elements are decides whether the computation is possible at all; its shape
decides whether it goes together with the others.
-/

namespace Drafting.Linear

variable {α : Type}

/-- Demands that a parameter takes part in an operation on operands of these types; `fault?` tells
what is wrong with a single value of any sort that is no number. -/
def require (operation : ArrayOperation) (types : List OperandType)
    (fault? : Value α → Option (Fault α)) (o : Operand α) : Except (Fault α) Unit :=
  if o.type.kind = .anything then
    match o.data.findSome? fault? with
    | some fault => .error fault
    | none => .ok ()
  else if o.type.kind.isNumber then .ok ()
  else .error (.noArrayOperation operation types)

/-- The type of the numbers that are computed with. -/
def realType : OperandType := .strong (.binary 64)

/-- The fault of what is no number. -/
def faultUnlessNumber (fault : String → Fault α) : Value α → Option (Fault α)
  | .flag _ | .int _ | .real _ => none
  | v => some (fault v.kindName)

/-- The fault of a factor that is no number. -/
def factorFault? : Value α → Option (Fault α)
  | .text _ => some (.notRepeatable "float")
  | v => faultUnlessNumber (fun kind => .noOperator "*" kind "float") v

/-- Demands that the truth of so many elements can be told. -/
def requireSingle : List (Value α) → Except (Fault α) Unit
  | [] => .error (.ambiguous true)
  | [_] => .ok ()
  | _ => .error (.ambiguous false)

variable [Scalar α]

/-- The number that a single value is; of a complex number only the real part counts. -/
def number (fault : Fault α) : Value α → Except (Fault α) α
  | .flag b => Value.ofIntOrFault (if b then 1 else 0)
  | .int n => Value.ofIntOrFault n
  | .real x => .ok x
  | .complex x _ => .ok x
  | _ => .error fault

/-- The numbers of an array whose elements are such. -/
def numbers (o : Operand α) : Except (Fault α) (List α) :=
  o.data.mapM fun v => number (.notNumber v.kindName) v

/-- A value as the bound that pivots may not be below. -/
def leastPivot (v : Value α) : Except (Fault α) α :=
  let fault (kind : String) : Fault α := .notOrdered "<" "float" kind
  match v with
  | .text _ | .list _ | .tuple _ | .vector .. | .array .. => do
    let o ← Operand.ofValue v
    require .less [realType, o.type] (faultUnlessNumber fault) o
    requireSingle o.data
    return (← numbers o).headD 0
  | v => number (fault v.kindName) v

/-- A value as a number that is added to numbers of an array, one by one. -/
def term (v : Value α) : Except (Fault α) α :=
  let fault (kind : String) : Fault α := .noOperator "+" "float" kind
  match v with
  | .text _ | .list _ | .tuple _ | .vector .. | .array .. => do
    let o ← Operand.ofValue v
    require .add [realType, o.type] (faultUnlessNumber fault) o
    if o.shape.isEmpty then return (← numbers o).headD 0 else throw .elementSequence
  | v => number (fault v.kindName) v

/-- A value as a factor of a number; of an array the only element counts. -/
def factor (v : Value α) : Except (Fault α) α :=
  match v with
  | .array .. => do
    let o ← Operand.ofValue v
    require .multiply [o.type, realType] factorFault? o
    requireSingle o.data
    return (← numbers o).headD 0
  | v => v.factor

/-- Factors of the numbers of an array: one for all, or one for each. -/
inductive Gain (α : Type) where
  | uniform (factor : α)
  | each (factors : List α)
  deriving Repr, DecidableEq

/-- Numbers times their factors. -/
def Gain.apply (gain : Gain α) (xs : List α) : List α :=
  match gain with
  | uniform factor => xs.map (factor * ·)
  | each factors => List.zipWith (· * ·) factors xs

/-- Demands that products with elements of a type can be added to reals. -/
def requireReal (kind : ElementKind) : Except (Fault α) Unit :=
  match kind with
  | .anything => .error (.noCast (.strong .anything) realType)
  | .complex bits => .error (.noCast (.strong (.complex (max bits 128))) realType)
  | _ => .ok ()

/-- Factors that are an array, for `count` numbers. -/
def Gain.ofOperand (count : Nat) (o : Operand α) : Except (Fault α) (Gain α) := do
  match Outline.commonShape? o.shape [count] with
  | none => throw (.shapesDiffer [o.shape, [count]])
  | some common =>
    require .multiply [o.type, realType] factorFault? o
    requireReal o.type.kind.native
    if common = [count] then
      return .each (Outline.spreadTo common o.shape (← numbers o))
    else throw (.noRoom [count] common)

/-- A value as factors of the `count` numbers of an array. -/
def Gain.ofValue (count : Nat) (v : Value α) : Except (Fault α) (Gain α) :=
  match v with
  | .text _ | .list _ | .tuple _ | .vector .. | .array .. => do
    let o ← Operand.ofValue v
    if !(o.type.kind.isNumber || o.type.kind = .anything) then
      throw (.noArrayOperation .multiply [o.type, realType])
    Gain.ofOperand count o
  | v => (number (.noOperator "*" v.kindName "float") v).map .uniform

end Drafting.Linear
