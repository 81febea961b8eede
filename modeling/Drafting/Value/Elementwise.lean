import Drafting.Scalar.Binary64
import Drafting.Value.Comparison

/-!
# Computing element by element

The sum, the difference and the product of arrays, and how their elements compare. Operands are
converted to the element type that they have in common; integers wrap around at its width, reals are
rounded to it. Elements of any sort are left to the operation on single values that is given from
outside.
-/

namespace Drafting.Value

/-- What an operation on values comes to. -/
abbrev Outcome := Except (Fault Float) (Value Float)

/-- An integer of a width in bits, with or without a sign, that differs from another by a multiple
of the number of such integers. -/
def wrapped (isSigned : Bool) (bits : Nat) (n : Int) : Int :=
  let half : Int := if isSigned then power 2 (bits - 1) else 0
  (n + half) % power 2 bits - half

/-- Converts an element to the type of a computation. Only an integer alone can be out of range. -/
def convertTo (kind : ElementKind) (type : OperandType) (v : Value Float) : Outcome :=
  let bounded (low high n : Int) : Outcome :=
    if type = .weakInteger ∧ (n < low ∨ high < n) then
      .error (.badElement (.outOfRange n kind.name))
    else .ok (int n)
  let real? : Except (Fault Float) (Option Float) :=
    match v with
    | flag b => .ok (some (if b then 1.0 else 0.0))
    | int n => (ofIntOrFault n).map some
    | real x => .ok (some x)
    | v@(long ..) => v.singleReal.map some
    | _ => .ok none
  match kind, v with
  | .binary bits, v => do return ((← real?).map fun x => real (Float64.narrow bits x)).getD v
  | .complex bits, v => do
    let narrow := Float64.narrow (bits / 2)
    match v, ← real? with
    | complex x y, _ => return complex (narrow x) (narrow y)
    | _, some x => return complex (narrow x) 0.0
    | v, none => return v
  | .signed bits, v =>
    match v.integer? with
    | some n => bounded (-power 2 (bits - 1)) (power 2 (bits - 1) - 1) n
    | none => .ok v
  | .unsigned bits, v =>
    match v.integer? with
    | some n => bounded 0 (power 2 bits - 1) n
    | none => .ok v
  | _, v => .ok v

/-- What an operation does to numbers of each sort, and to two flags. -/
structure Rule where
  operation : ArrayOperation
  onInts : Int → Int → Int
  onReals : Float → Float → Float
  onComplex : Float × Float → Float × Float → Float × Float
  onFlags : Bool → Bool → Bool

/-- Adding. -/
def Rule.add : Rule :=
  ⟨.add, (· + ·), (· + ·), fun (a, b) (c, d) => (a + c, b + d), (· || ·)⟩

/-- Subtracting. -/
def Rule.subtract : Rule :=
  ⟨.subtract, (· - ·), (· - ·), fun (a, b) (c, d) => (a - c, b - d), xor⟩

/-- Multiplying. -/
def Rule.multiply : Rule :=
  ⟨.multiply, (· * ·), (· * ·),
    fun (a, b) (c, d) => (a * c - b * d, a * d + b * c), (· && ·)⟩

/-- Demands that a rule applies to operands whose common element type is given. -/
def Rule.require (rule : Rule) (kind? : Option ElementKind) (a b : OperandType) :
    Except (Fault Float) ElementKind :=
  match kind?, rule.operation with
  | some .flag, .subtract => .error (.noFlagOperation .subtract)
  | some (.text _), .add => .ok (.text (a.kind.textWidth + b.kind.textWidth))
  | some (.bytes _), .add => .ok (.bytes (a.kind.textWidth + b.kind.textWidth))
  | some kind, operation =>
    if kind.isNumber || kind = .anything then .ok kind
    else .error (.noArrayOperation operation [a, b])
  | none, operation => .error (.noArrayOperation operation [a, b])

/-- A rule applied to two elements of a type. -/
def Rule.apply (rule : Rule) (onOthers : Value Float → Value Float → Outcome)
    (kind : ElementKind) (v w : Value Float) : Outcome :=
  match kind, v, w with
  | .binary bits, real x, real y => .ok (real (Float64.narrow bits (rule.onReals x y)))
  | .complex bits, complex x y, complex x' y' =>
    let (re, im) := rule.onComplex (x, y) (x', y')
    .ok (complex (Float64.narrow (bits / 2) re) (Float64.narrow (bits / 2) im))
  | .signed bits, int m, int n => .ok (int (wrapped true bits (rule.onInts m n)))
  | .unsigned bits, int m, int n => .ok (int (wrapped false bits (rule.onInts m n)))
  | .flag, flag a, flag b => .ok (flag (rule.onFlags a b))
  | .text _, text s, text t => .ok (text (s ++ t))
  | .bytes _, bytes s, bytes t => .ok (bytes (s ++ t))
  | _, v, w => onOthers v w

/-- An array of elements of a type, or the element that it consists of if it has no axes. -/
def assembled (kind : ElementKind) (shape : List Nat) (data : List (Value Float)) : Value Float :=
  match shape, data with
  | [], [v] => taken kind v
  | _, _ => array kind shape data

/-- A rule applied element by element. -/
def Rule.combine (rule : Rule) (onOthers : Value Float → Value Float → Outcome)
    (v w : Value Float) : Outcome := do
  let a ← Operand.ofValue v
  let b ← Operand.ofValue w
  let kind ← rule.require (a.type.common? b.type) a.type b.type
  let xs ← a.data.mapM (convertTo kind a.type)
  let ys ← b.data.mapM (convertTo kind b.type)
  let (shape, pairs) ← Operand.pairs { a with data := xs } { b with data := ys }
  return assembled kind shape (← pairs.mapM fun (x, y) => rule.apply onOthers kind x y)

/-- The place of an element type among those that numbers can be moved up to. -/
def rankOfKind : ElementKind → Nat
  | .flag => 0
  | .unsigned _ => 1
  | .signed _ => 2
  | .binary _ => 3
  | .complex _ => 4
  | _ => 5

/-- Whether an array with elements of the second type takes over elements of the first type. -/
def takesOver (found target : ElementKind) : Bool :=
  match found, target with
  | _, .anything => true
  | .text _, .text _ => true
  | .bytes _, .bytes _ => true
  | found, target => found.isNumber && target.isNumber && rankOfKind found ≤ rankOfKind target

/-- An element as an array with elements of a type takes it over. -/
def storedAs (kind : ElementKind) (v : Value Float) : Value Float :=
  match kind, v with
  | .binary bits, real x => real (Float64.narrow bits x)
  | .complex bits, complex x y =>
    complex (Float64.narrow (bits / 2) x) (Float64.narrow (bits / 2) y)
  | .signed bits, int n => int (wrapped true bits n)
  | .unsigned bits, int n => int (wrapped false bits n)
  | .text width, text s => text (String.ofList (s.toList.take width))
  | .bytes width, bytes s => bytes (s.take width)
  | _, v => v

/-- An array to whose elements a value is added in their place, so that their type and the shape of
the array stay as they are. -/
def addedInto (onOthers : Value Float → Value Float → Outcome) (kind : ElementKind)
    (shape : List Nat) (data : List (Value Float)) (w : Value Float) : Outcome := do
  let a : Operand Float := ⟨.strong kind, shape, data⟩
  let b ← Operand.ofValue w
  let found ← Rule.add.require (a.type.common? b.type) a.type b.type
  if !takesOver found kind.native then throw (.noCast (.strong found) (.strong kind))
  let xs ← data.mapM (convertTo found a.type)
  let ys ← b.data.mapM (convertTo found b.type)
  match Outline.commonShape? shape b.shape with
  | none => throw (.shapesDiffer [shape, b.shape, shape])
  | some common =>
    if common ≠ shape then throw (.noRoom shape common)
    let (_, pairs) ← Operand.pairs { a with data := xs } { b with data := ys }
    let sums ← pairs.mapM fun (x, y) => Rule.add.apply onOthers found x y
    return array kind shape (sums.map (storedAs kind.native))

/-- An operation on each element of an array, or on what has been taken out of one. -/
def eachElement (operation : ArrayOperation) (kind : ElementKind) (shape : List Nat)
    (onInt : Int → Int) (onReal : Float → Float) (onComplex : Float × Float → Value Float)
    (onOthers : Value Float → Outcome) (data : List (Value Float)) : Outcome := do
  let kind := kind.native
  if kind = .flag ∧ operation = .negative then throw (.noFlagOperation .negative)
  if !(kind.isNumber || kind = .anything) then
    throw (.noArrayOperation operation [.strong kind])
  let one : Value Float → Outcome := fun v => match kind, v with
    | .anything, v => onOthers v
    | .signed bits, int n => .ok (int (wrapped true bits (onInt n)))
    | .unsigned bits, int n => .ok (int (wrapped false bits (onInt n)))
    | _, real x => .ok (real (onReal x))
    | .complex bits, complex x y => .ok (storedAs (.complex bits) (onComplex (x, y)))
    | _, v => .ok v
  let kindAfter : ElementKind := match kind, operation with
    | .complex bits, .absolute => .binary (bits / 2)
    | kind, _ => kind
  return assembled kindAfter shape (← data.mapM one)

/-- How two elements of a type compare, if they do. -/
def compareIn? (kind : ElementKind) (v w : Value Float) : Option Ordering :=
  let reals (x y : Float) : Option Ordering :=
    if x < y then some .lt else if y < x then some .gt else if x == y then some .eq else none
  match kind, v, w with
  | .text _, text s, text t => some (compare s t)
  | .bytes _, bytes s, bytes t => some (compare s t)
  | _, complex x y, complex x' y' =>
    match reals x x' with
    | some .eq => reals y y'
    | other => other
  | _, real x, real y => reals x y
  | _, v, w =>
    match v.integer?, w.integer? with
    | some m, some n => some (compare m n)
    | _, _ => none

/-- Whether a comparison holds, element by element, if that comes to a single truth. -/
def elementsOrdered (operation : ArrayOperation) (accepts : Option Ordering → Bool)
    (onOthers : Value Float → Value Float → Except (Fault Float) Bool) (v w : Value Float) :
    Except (Fault Float) Bool := do
  let a ← Operand.ofValue v
  let b ← Operand.ofValue w
  let some kind := a.type.common? b.type
    | throw (.noArrayOperation operation [a.type, b.type])
  let free (type : OperandType) : OperandType :=
    if type = .weakInteger then .strong (.signed 64) else type
  let xs ← a.data.mapM (convertTo kind (free a.type))
  let ys ← b.data.mapM (convertTo kind (free b.type))
  let (_, pairs) ← Operand.pairs { a with data := xs } { b with data := ys }
  let answers ← pairs.mapM fun (x, y) =>
    if kind = .anything then onOthers x y else .ok (accepts (compareIn? kind x y))
  match answers with
  | [answer] => return answer
  | [] => throw (.ambiguous true)
  | _ => throw (.ambiguous false)

end Drafting.Value
