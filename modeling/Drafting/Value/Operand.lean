import Drafting.Value.Nested

/-!
# Operands of computations on arrays

A value that takes part in a computation on arrays is one of them: nested sequences become an array
of the element type that their values have in common, and a number alone gives way to the type of
the other operand. Two operands are computed with in a common element type, if they have one.
-/

namespace Drafting

namespace ElementKind

/-- The width of the binary numbers that elements of a type turn into. -/
def binaryBits : ElementKind → Nat
  | binary bits => bits
  | complex bits => bits / 2
  | flag | signed 8 | unsigned 8 => 16
  | signed 16 | unsigned 16 => 32
  | _ => 64

/-- The element type that holds the numbers of two types. -/
def joinNumbers : ElementKind → ElementKind → ElementKind
  | flag, kind => kind
  | kind, flag => kind
  | signed m, signed n => signed (max m n)
  | unsigned m, unsigned n => unsigned (max m n)
  | signed m, unsigned n | unsigned n, signed m =>
    if n < m then signed m else if n < 64 then signed (2 * n) else binary 64
  | a@(complex _), b | a, b@(complex _) => complex (2 * max (max a.binaryBits b.binaryBits) 32)
  | a, b => binary (max a.binaryBits b.binaryBits)

/-- How much room the text of a point in time takes up. -/
def momentWidth : TimeUnit → Nat
  | .any => 4
  | .year => 22
  | .month => 25
  | .week | .day => 28
  | .hour => 32
  | .minute => 35
  | .second => 38
  | .fraction power => 39 + 3 * power

/-- How long the texts of elements of a type are. -/
def textWidth : ElementKind → Nat
  | text width | bytes width => width
  | reversed kind | twin kind => kind.textWidth
  | flag => 5
  | signed bits => if bits ≤ 8 then 4 else if bits ≤ 16 then 6 else if bits ≤ 32 then 11 else 21
  | unsigned bits => if bits ≤ 8 then 3 else if bits ≤ 16 then 5 else if bits ≤ 32 then 10 else 20
  | binary 128 => 48
  | complex bits => if bits = 256 then 96 else 64
  | span .. => 21
  | moment _ unit => momentWidth unit
  | _ => 32

/-- The element type that holds the elements of two types. -/
def join (a b : ElementKind) : ElementKind :=
  if a = anything ∨ b = anything then anything
  else if a.isNumber ∧ b.isNumber then joinNumbers a.native b.native
  else match a.native, b.native with
    | text m, k | k, text m => text (max m k.textWidth)
    | bytes m, k | k, bytes m => bytes (max m k.textWidth)
    | a, b => if a = b then a else anything

/-- The element type of an array of values that is made without one. -/
def ofLeaf {α : Type} : Value α → ElementKind
  | .flag _ => flag
  | .int n =>
    if -(power 2 63 : Int) ≤ n ∧ n < power 2 63 then signed 64
    else if 0 ≤ n ∧ n < power 2 64 then unsigned 64
    else anything
  | .real _ => binary 64
  | .complex .. => complex 128
  | .text s => text (max 1 s.length)
  | .bytes data => bytes (max 1 data.length)
  | .element kind _ => kind
  | _ => anything

/-- The element type that values have in one array. -/
def ofLeaves {α : Type} : List (Value α) → ElementKind
  | [] => binary 64
  | v :: rest => rest.foldl (fun kind w => kind.join (ofLeaf w)) (ofLeaf v)

end ElementKind

namespace OperandType

/-- The type in which a number alone meets elements of a type. -/
def yielding (weak : OperandType) (kind : ElementKind) : ElementKind :=
  match weak, kind with
  | weakInteger, .flag => .signed 64
  | weakReal, .flag | weakReal, .signed _ | weakReal, .unsigned _ => .binary 64
  | weakComplex, .flag | weakComplex, .signed _ | weakComplex, .unsigned _ => .complex 128
  | weakComplex, .binary bits => .complex (2 * max bits 32)
  | _, kind => kind

/-- The element type in which operands are computed with. -/
def common? (a b : OperandType) : Option ElementKind :=
  let x := a.kind.native
  let y := b.kind.native
  if x = .anything ∨ y = .anything then some .anything
  else if x.isNumber ∧ y.isNumber then
    some <| match a, b with
      | strong _, strong _ => x.joinNumbers y
      | strong _, weak => weak.yielding x
      | weak, strong _ => weak.yielding y
      | _, _ => x.joinNumbers y
  else match x, y with
    | .text m, .text n => some (.text (max m n))
    | .bytes m, .bytes n => some (.bytes (max m n))
    | x, y => if x = y then some x else none

end OperandType

/-- A value as an operand. -/
structure Operand (α : Type) where
  type : OperandType
  shape : List Nat
  data : List (Value α)

namespace Operand

variable {α : Type}

/-- An operand that is no array and gives way to no other. -/
def single (kind : ElementKind) (v : Value α) : Operand α := ⟨.strong kind, [], [v]⟩

/-- The operand that a value is. -/
def ofValue (v : Value α) : Except (Fault α) (Operand α) :=
  match v with
  | .array kind shape data => .ok ⟨.strong kind, shape, data⟩
  | .element kind v => .ok (single kind v)
  | .int _ => .ok ⟨.weakInteger, [], [v]⟩
  | .real _ => .ok ⟨.weakReal, [], [v]⟩
  | .complex .. => .ok ⟨.weakComplex, [], [v]⟩
  | .list _ | .tuple _ | .vector .. => do
    let o ← Outline.checked v
    return ⟨.strong (.ofLeaves o.leaves), o.shape, o.leaves.map Value.bare⟩
  | v => .ok (single (.ofLeaf v) v)

/-- The elements of two operands, spread out to their common shape. -/
def pairs (a b : Operand α) : Except (Fault α) (List Nat × List (Value α × Value α)) :=
  match Outline.commonShape? a.shape b.shape with
  | none => .error (.shapesDiffer [a.shape, b.shape])
  | some shape => .ok (shape, (Outline.spreadTo shape a.shape a.data).zip
      (Outline.spreadTo shape b.shape b.data))

end Operand

end Drafting
