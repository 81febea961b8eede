import Drafting.Value.Basic

/-!
# Equality of values

Numbers are equal if they are the same number, whether they are integers, reals or flags. Texts are
equal as texts, sequences of one kind item by item, records field by field in any order. What has
been taken out of an array is equal to the same value without its type. Arrays are never equal
here.
-/

namespace Drafting.Value

variable {α : Type} [Scalar α]

/-- The integer that a value is. -/
def integer? : Value α → Option Int
  | flag b => some (if b then 1 else 0)
  | int n => some n
  | _ => none

/-- The real and the imaginary part of a number; nothing stands for an imaginary part of zero. -/
def parts? : Value α → Option (Value α × Option α)
  | complex re im => some (real re, some im)
  | v@(flag _) | v@(int _) | v@(real _) => some (v, none)
  | _ => none

/-- Whether two numbers are equal. -/
def sameReal (x y : α) : Bool := decide (x ≤ y) && decide (y ≤ x)

/-- Whether two numbers with their real parts given as values are equal. -/
def sameNumber : Value α → Value α → Bool
  | real x, real y => sameReal x y
  | real x, v =>
    match v.integer? with
    | some n => Scalar.compareInt? n x == some .eq
    | none => false
  | v, real x =>
    match v.integer? with
    | some n => Scalar.compareInt? n x == some .eq
    | none => false
  | v, w =>
    match v.integer?, w.integer? with
    | some n, some m => n == m
    | _, _ => false

/-- Whether two values that hold no others are equal. -/
def sameBare : Value α → Value α → Bool
  | null, null => true
  | text s, text t => s == t
  | bytes s, bytes t => s == t
  | long negative m q, long negative' m' q' => negative == negative' && m == m' && q == q'
  | object kind s _, object kind' s' _ => kind == kind' && s == s'
  | v, w =>
    match v.parts?, w.parts? with
    | some (x, none), some (y, none) => sameNumber x y
    | some (x, i), some (y, j) => sameNumber x y && sameReal (i.getD 0) (j.getD 0)
    | _, _ => false

/-- Whether two values that are no sequences and no records are equal. -/
def sameSingle (v w : Value α) : Bool := sameBare v.bare w.bare

/-- The items of a tuple; a vector is one. -/
def tupleItems? : Value α → Option (List (Value α))
  | tuple items => some items
  | vector x y z => some [x, y, z]
  | _ => none

mutual

/-- Whether two values are equal. -/
def same : Value α → Value α → Bool
  | list xs, list ys => sameItems xs ys
  | tuple xs, v =>
    match v.tupleItems? with
    | some ys => sameItems xs ys
    | none => false
  | vector x y z, v =>
    match v.tupleItems? with
    | some [x', y', z'] => same x x' && same y y' && same z z'
    | _ => false
  | record xs, record ys => xs.length == ys.length && sameFields xs ys
  | record xs, mapping ys => xs.length == ys.length && sameFields xs (textFields ys)
  | mapping xs, w =>
    match w.entries? with
    | some ys => xs.length == ys.length && sameEntries xs ys
    | none => false
  | v, w => sameSingle v w

/-- Whether two lists of values are equal item by item. -/
def sameItems : List (Value α) → List (Value α) → Bool
  | [], [] => true
  | x :: xs, y :: ys => same x y && sameItems xs ys
  | _, _ => false

/-- Whether every field has its equal among others. -/
def sameFields : List (String × Value α) → List (String × Value α) → Bool
  | [], _ => true
  | (name, v) :: rest, others =>
    match others.lookup name with
    | some w => same v w && sameFields rest others
    | none => false

/-- Whether every entry has its equal among others. -/
def sameEntries : List (Value α × Value α) → List (Value α × Value α) → Bool
  | [], _ => true
  | (name, v) :: rest, others =>
    match others.find? fun entry => same name entry.1 with
    | some entry => same v entry.2 && sameEntries rest others
    | none => false

end

instance : BEq (Value α) := ⟨same⟩

end Drafting.Value
