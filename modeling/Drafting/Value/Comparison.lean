import Drafting.Value.Equality
import Drafting.Value.Operand

/-!
# Comparing values that hold arrays

An array is compared element by element, in the element type that both sides have in common; whether
it is equal is known if there is just one element. Sequences and records that hold arrays are
compared in order, until a difference is found or cannot be told.
-/

namespace Drafting.Value

variable {α : Type} [Scalar α]

/-- A number as a binary number of a width in bits, if it is in range. -/
def narrowed? (bits : Nat) : Value α → Option α
  | flag b => (Scalar.ofInt? (if b then 1 else 0)).map (Scalar.narrow bits)
  | int n => (Scalar.ofInt? n).map (Scalar.narrow bits)
  | real x => some (Scalar.narrow bits x)
  | _ => none

/-- Whether two elements are equal in an element type. -/
def sameIn (kind : ElementKind) (v w : Value α) : Bool :=
  match kind with
  | .binary bits =>
    match narrowed? bits v, narrowed? bits w with
    | some x, some y => sameReal x y
    | _, _ => false
  | _ => same v w

/-- Whether a value is an element of no single type, or an array of such elements. -/
def isVoid : Value α → Bool
  | array kind _ _ | element kind _ => kind.isVoid
  | _ => false

/-- Whether an array is equal to a value, element by element. -/
def elementsEqual (v w : Value α) : Except (Fault α) Bool := do
  if v.isVoid != w.isVoid then throw .compound
  let a ← Operand.ofValue v
  let b ← Operand.ofValue w
  let (_, pairs) ← a.pairs b
  match pairs with
  | [] => throw (.ambiguous true)
  | [(x, y)] =>
    match a.type.common? b.type with
    | none => return false
    | some kind => return sameIn kind x y
  | _ => throw (.ambiguous false)

/-- Whether a value is an array. -/
def isArray : Value α → Bool
  | array .. => true
  | _ => false

mutual

/-- Whether two values are equal, if that can be told. -/
def isEqual : Value α → Value α → Except (Fault α) Bool
  | list xs, list ys => itemsEqual xs ys
  | tuple xs, v =>
    match v.tupleItems? with
    | some ys => itemsEqual xs ys
    | none => if v.isArray then elementsEqual (tuple xs) v else .ok false
  | vector x y z, v =>
    match v.tupleItems? with
    | some [x', y', z'] => do
      if ← isEqual x x' then
        if ← isEqual y y' then isEqual z z' else return false
      else return false
    | some _ => .ok false
    | none => if v.isArray then elementsEqual (vector x y z) v else .ok false
  | record xs, record ys => if xs.length = ys.length then fieldsEqual xs ys else .ok false
  | record xs, mapping ys =>
    if xs.length = ys.length then fieldsEqual xs (textFields ys) else .ok false
  | mapping xs, w =>
    match w.entries? with
    | some ys => if xs.length = ys.length then entriesEqual xs ys else .ok false
    | none => if w.isArray || w.isVoid then elementsEqual (mapping xs) w else .ok false
  | element kind v, null => .ok (same (element kind v) null)
  | v, w =>
    if v.isArray || w.isArray || v.isVoid || w.isVoid then elementsEqual v w else .ok (same v w)

/-- Whether two lists of values are equal item by item. -/
def itemsEqual : List (Value α) → List (Value α) → Except (Fault α) Bool
  | [], [] => .ok true
  | x :: xs, y :: ys => do
    if xs.length = ys.length then
      if ← isEqual x y then itemsEqual xs ys else return false
    else return false
  | _, _ => .ok false

/-- Whether every field has its equal among others. -/
def fieldsEqual : List (String × Value α) → List (String × Value α) → Except (Fault α) Bool
  | [], _ => .ok true
  | (name, v) :: rest, others =>
    match others.lookup name with
    | some w => do
      if ← isEqual v w then fieldsEqual rest others else return false
    | none => .ok false

/-- Whether every entry has its equal among others; names can always be compared. -/
def entriesEqual : List (Value α × Value α) → List (Value α × Value α) → Except (Fault α) Bool
  | [], _ => .ok true
  | (name, v) :: rest, others =>
    match others.find? fun entry => same name entry.1 with
    | some entry => do
      if ← isEqual v entry.2 then entriesEqual rest others else return false
    | none => .ok false

end

/-- Whether a value is among others, looking at one after the other. -/
def isAmong (v : Value α) : List (Value α) → Except (Fault α) Bool
  | [] => .ok false
  | w :: rest => do
    if ← isEqual w v then return true else isAmong v rest

/-- The value of an entry whose name is an index. -/
def entryAt (entries : List (Value α × Value α)) (index : Int) : Except (Fault α) (Value α) :=
  match entries.find? fun entry => same (int index) entry.1 with
  | some entry => .ok entry.2
  | none => .error (.missingField (toString index))

end Drafting.Value
