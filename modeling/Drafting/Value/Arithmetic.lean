import Drafting.Value.Elementwise

/-!
# Arithmetic on values

What the signs of arithmetic and of comparison do to values of any sort. Integers stay exact and
turn into doubles where they meet one; texts and sequences are joined and repeated; arrays and what
has been taken out of them are taken element by element. Values that do not go together are at
fault, as is an integer that is too large for a double.
-/

namespace Drafting

/-- An integer or a double. -/
inductive Number where
  | whole (n : Int)
  | real (x : Float)

namespace Number

/-- The double nearest to a number, unless it is out of range. -/
def toFloat : Number → Except (Fault Float) Float
  | whole n => Value.ofIntOrFault n
  | real x => .ok x

/-- A number as a value. -/
def toValue : Number → Value Float
  | whole n => .int n
  | real x => .real x

/-- How two numbers compare by exact value, unless one of them is undefined. -/
def compare? : Number → Number → Option Ordering
  | whole a, whole b => some (compare a b)
  | whole a, real y => Scalar.compareInt? a y
  | real x, whole b => (Scalar.compareInt? b x).map Ordering.swap
  | real x, real y => if x < y then some .lt else if y < x then some .gt
    else if x == y then some .eq else none

/-- An operation that is exact on integers. -/
def combine (onInts : Int → Int → Int) (onReals : Float → Float → Float) :
    Number → Number → Except (Fault Float) (Value Float)
  | whole a, whole b => .ok (.int (onInts a b))
  | a, b => do return .real (onReals (← a.toFloat) (← b.toFloat))

end Number

namespace Value

/-- The number that a value is. -/
def number? : Value Float → Option Number
  | int n => some (.whole n)
  | real x => some (.real x)
  | flag b => some (.whole (if b then 1 else 0))
  | _ => none

/-- The kind and the items of a sequence, and what takes such items. -/
def sequence? (v : Value Float) :
    Option (String × List (Value Float) × (List (Value Float) → Value Float)) :=
  match v.bare with
  | list items => some ("list", items, list)
  | tuple items => some ("tuple", items, tuple)
  | vector x y z => some ("tuple", [x, y, z], tuple)
  | text s => some ("str", s.toList.map fun c => text (String.singleton c), fun items =>
      text (String.join (items.map fun
        | text c => c
        | _ => "")))
  | _ => none

/-- Whether a value is a text, whether it has been taken out of an array or not. -/
def isTextual : Value Float → Bool
  | text _ | bytes _ | element _ (text _) | element _ (bytes _) => true
  | _ => false

/-- Whether a value is a number that has been taken out of an array. -/
def isNumericElement (v : Value Float) : Bool :=
  match v with
  | element .. => !v.isTextual
  | _ => false

/-- Whether a value is computed with as arrays are. -/
def isArrayed (v : Value Float) : Bool := v.isArray || v.isNumericElement

/-- Two values that are no numbers added. -/
def join (symbol : String) (v w : Value Float) : Outcome :=
  match v.sequence?, w.sequence? with
  | some (kind, xs, make), some (kind', ys, _) =>
    if kind = kind' then .ok (make (xs ++ ys)) else .error (.notJoinable kind w.kindName)
  | some (kind, _, _), none => .error (.notJoinable kind w.kindName)
  | none, _ => .error (.noOperator symbol v.kindName w.kindName)

/-- Two numbers combined, or what becomes of other values; none is an array. -/
def combineSingle (onInts : Int → Int → Int) (onReals : Float → Float → Float)
    (otherwise : Value Float → Value Float → Outcome) (v w : Value Float) : Outcome :=
  match v.number?, w.number? with
  | some a, some b => a.combine onInts onReals b
  | _, _ => otherwise v w

/-- The sum of values that are no arrays. -/
def plusSingle (symbol : String) (v w : Value Float) : Outcome :=
  combineSingle (· + ·) (· + ·) (join symbol) v w

/-- Whether two values are added element by element; a text takes on texts, also of an array. -/
def addsElements (v w : Value Float) : Bool :=
  v.isArrayed || w.isArray || (w.isArrayed && !v.isTextual)

/-- The sum. -/
def plus (v w : Value Float) : Outcome :=
  if addsElements v w then Rule.add.combine (plusSingle "+") v w else plusSingle "+" v w

/-- The first value moved on by the second: a list takes over the items of the second, and an array
keeps its shape and the type of its elements. -/
def movedBy (v w : Value Float) : Outcome :=
  match v with
  | array kind shape data => addedInto (plusSingle "+") kind shape data w
  | list xs =>
    if w.isArrayed then plus v w else do return list (xs ++ (← w.items))
  | v =>
    if addsElements v w then plus v w else plusSingle "+=" v w

/-- The difference. -/
def minus (v w : Value Float) : Outcome :=
  let single := combineSingle (· - ·) (· - ·)
    fun v w => .error (.noOperator "-" v.kindName w.kindName)
  if v.isArrayed || w.isArrayed then Rule.subtract.combine single v w else single v w

/-- The integer that says how often a sequence is repeated. -/
def count? : Value Float → Option Int
  | element _ (flag _) => none
  | v => v.bare.integer?

/-- A sequence repeated as often as a value says. The number of times has to fit a machine word,
and what comes out has to fit into memory. -/
def repeated (items : List (Value Float)) (make : List (Value Float) → Value Float)
    (times : Value Float) : Outcome :=
  match times.count? with
  | some n =>
    if n < -power 2 63 ∨ power 2 63 ≤ n then .error .countTooLarge
    else if items.isEmpty then .ok (make [])
    else if power 2 32 ≤ n * items.length then .error .noMemory
    else .ok (make ((List.replicate n.toNat items).flatten))
  | none => .error (.notRepeatable times.kindName)

/-- The product of values that are no arrays. -/
def timesSingle (v w : Value Float) : Outcome :=
  combineSingle (· * ·) (· * ·) (fun v w =>
    match v.sequence?, w.sequence? with
    | some (_, xs, make), _ => repeated xs make w
    | none, some (_, ys, make) => repeated ys make v
    | none, none => .error (.noOperator "*" v.kindName w.kindName)) v w

/-- Whether a value is a sequence that has not been taken out of an array. -/
def isPlainSequence (v : Value Float) : Bool :=
  match v with
  | element .. => false
  | v => v.sequence?.isSome

/-- The product. -/
def times (v w : Value Float) : Outcome :=
  if v.isArray || w.isArray || (v.isArrayed && !w.isPlainSequence) ||
      (w.isArrayed && !v.isPlainSequence) then
    Rule.multiply.combine timesSingle v w
  else timesSingle v w

/-- The quotient of numbers. -/
def quotient (v w : Value Float) : Outcome :=
  match v.bare.number?, w.bare.number? with
  | some a, some b => do return real ((← a.toFloat) / (← b.toFloat))
  | _, _ => .error (.noOperator "/" v.kindName w.kindName)

/-- An operation on a number that is no array. -/
def unarySingle (name : String) (onInt : Int → Int) (onReal : Float → Float)
    (v : Value Float) : Outcome :=
  match v.number? with
  | some (.whole n) => .ok (int (onInt n))
  | some (.real x) => .ok (real (onReal x))
  | none => .error (.noUnary name v.kindName)

/-- An operation on a number, or on each number of an array. -/
def unary (operation : ArrayOperation) (name : String) (onInt : Int → Int)
    (onReal : Float → Float) (onComplex : Float × Float → Value Float) (v : Value Float) :
    Outcome :=
  let single := unarySingle name onInt onReal
  match v with
  | array kind shape data => eachElement operation kind shape onInt onReal onComplex single data
  | element kind w =>
    if v.isTextual then single v
    else eachElement operation kind [] onInt onReal onComplex single [w]
  | v => single v

/-- The value with its sign changed. -/
def negative (v : Value Float) : Outcome :=
  unary .negative "unary -" (- ·) (- ·) (fun (x, y) => complex (-x) (-y)) v

/-- The value without its sign. -/
def magnitude (v : Value Float) : Outcome :=
  unary .absolute "abs()" (fun n => n.natAbs) Float.abs
    (fun (x, y) => real (Scalar.hypot x y)) v

/-- A function of real numbers. -/
def transcendental (f : Float → Float) (v : Value Float) : Outcome :=
  if v.isArrayed then do return real (f (← v.toReal))
  else match v.number? with
    | some x => do return real (f (← x.toFloat))
    | none => .error (.notRealNumber v.kindName)

/-- How a comparison turns out for values that are no arrays and no sequences of values, by the
order of numbers and texts. -/
def isOrderedSingle (operation : ArrayOperation) (accepts : Option Ordering → Bool)
    (v w : Value Float) : Except (Fault Float) Bool :=
  match v.number?, w.number? with
  | some a, some b => .ok (accepts (a.compare? b))
  | _, _ =>
    match v.bare, w.bare with
    | text s, text t => .ok (accepts (some (compare s t)))
    | bytes s, bytes t => .ok (accepts (some (compare s t)))
    | _, _ => .error (.notOrdered operation.symbol v.kindName w.kindName)

/-- How a comparison turns out for values that are no sequences of values. An array is on the left
side of what it is compared with. -/
def isOrderedElementwise (operation : ArrayOperation) (accepts : Option Ordering → Bool)
    (v w : Value Float) : Except (Fault Float) Bool :=
  let single := isOrderedSingle operation accepts
  match v, w with
  | element .., null | null, element .. => single v w
  | v, w =>
    if v.isArrayed then
      elementsOrdered operation accepts single v w
    else if w.isArrayed then
      let accepts (order? : Option Ordering) : Bool := accepts (order?.map Ordering.swap)
      elementsOrdered operation.flipped accepts (isOrderedSingle operation.flipped accepts) w v
    else single v w

mutual

/-- How a comparison turns out. Sequences of one kind compare as their first items that are not
equal do. -/
def isOrdered (operation : ArrayOperation) (accepts : Option Ordering → Bool)
    (v w : Value Float) : Except (Fault Float) Bool :=
  match v, w with
  | list xs, list ys => itemsOrdered operation accepts xs ys
  | tuple xs, w =>
    match w.tupleItems? with
    | some ys => itemsOrdered operation accepts xs ys
    | none => isOrderedElementwise operation accepts (tuple xs) w
  | vector x y z, w =>
    match w.tupleItems? with
    | some [] => .ok (accepts (some .gt))
    | some (x' :: ys) => do
      if !(← isEqual x x') then isOrdered operation accepts x x'
      else match ys with
      | [] => .ok (accepts (some .gt))
      | y' :: zs => do
        if !(← isEqual y y') then isOrdered operation accepts y y'
        else match zs with
        | [] => .ok (accepts (some .gt))
        | z' :: rest => do
          if !(← isEqual z z') then isOrdered operation accepts z z'
          else .ok (accepts (some (if rest.isEmpty then .eq else .lt)))
    | none => isOrderedElementwise operation accepts (vector x y z) w
  | v, w => isOrderedElementwise operation accepts v w

/-- How a comparison of sequences turns out. -/
def itemsOrdered (operation : ArrayOperation) (accepts : Option Ordering → Bool) :
    List (Value Float) → List (Value Float) → Except (Fault Float) Bool
  | [], [] => .ok (accepts (some .eq))
  | [], _ :: _ => .ok (accepts (some .lt))
  | _ :: _, [] => .ok (accepts (some .gt))
  | x :: xs, y :: ys => do
    if ← isEqual x y then itemsOrdered operation accepts xs ys
    else isOrdered operation accepts x y

end

/-- Whether the first value is greater. -/
def isGreater (v w : Value Float) : Except (Fault Float) Bool :=
  isOrdered .greater (· == some .gt) v w

/-- Whether the first value is less. -/
def isLess (v w : Value Float) : Except (Fault Float) Bool := isOrdered .less (· == some .lt) v w

/-- What a sequence is called where an index is wrong. -/
def sequenceName : Value Float → String
  | vector .. => "tuple"
  | text _ => "string"
  | v => v.kindName

/-- The place of an index among so many items, if there is one; negative indices count from the last
item. -/
def placeOf? (index : Int) (count : Nat) : Option Nat :=
  let place := if index < 0 then index + count else index
  if 0 ≤ place ∧ place < count then some place.toNat else none

/-- The item of a value at an index. -/
def item (v : Value Float) (index : Int) : Outcome :=
  let pick (items : List (Value Float)) (otherwise : Fault Float) : Outcome :=
    match (placeOf? index items.length).bind fun place => items[place]? with
    | some x => .ok x
    | none => .error otherwise
  match v with
  | record _ => .error (.missingField (toString index))
  | mapping entries => entryAt entries index
  | array _ [] _ => .error .tooManyIndices
  | null | flag _ | int _ | real _ | object .. => .error (.notIndexable v.kindName)
  | array _ (n :: _) _ => do pick (← v.items) (.noSlot index.toNat n)
  | v => do pick (← v.items) (.noItem v.sequenceName)

/-- The integer that a value is as an index of a list. -/
def listIndex (v : Value Float) : Except (Fault Float) Int :=
  match v with
  | array kind [] [int n] => if kind.isNumber then .ok n else .error .notScalarIndex
  | array .. => .error .notScalarIndex
  | v =>
    match v.integer? with
    | none => .error (.badIndex "list" v.kindName)
    | some n => if -power 2 63 ≤ n ∧ n < power 2 63 then .ok n else .error .indexTooLarge

/-- Items of which the one at an index is moved on. -/
def movedAt (items : List (Value Float)) (index change : Value Float) :
    Except (Fault Float) (List (Value Float)) := do
  match placeOf? (← listIndex index) items.length with
  | none => throw (.noItem "list")
  | some place => return items.set place (← (items.getD place null).movedBy change)

end Value

end Drafting
