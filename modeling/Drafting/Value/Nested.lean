import Drafting.Value.Conversion

/-!
# Nested sequences

The outline of nested sequences is what an array of them would have: its lengths along the axes, as
far as they agree, and the values inside from left to right.
-/

namespace Drafting

/-- What has been read of nested sequences; where their lengths differ, the shape ends. -/
structure Outline (α : Type) where
  shape : List Nat
  isEven : Bool
  leaves : List (Value α)

namespace Outline

variable {α : Type}

/-- What two lists have in common at their fronts. -/
def commonFront : List Nat → List Nat → List Nat
  | m :: ms, n :: ns => if m = n then m :: commonFront ms ns else []
  | _, _ => []

/-- The outline of a list of things with outlines. -/
def stack : List (Outline α) → Outline α
  | [] => ⟨[0], true, []⟩
  | first :: rest =>
    { shape := (rest.length + 1) :: rest.foldl (fun s o => commonFront s o.shape) first.shape
      isEven := first.isEven && rest.all fun o => o.isEven && o.shape == first.shape
      leaves := (first :: rest).flatMap leaves }

mutual

/-- The outline of a value. -/
def ofValue : Value α → Outline α
  | .list items => .stack (ofValues items)
  | .tuple items => .stack (ofValues items)
  | .vector x y z => .stack [ofValue x, ofValue y, ofValue z]
  | .array kind shape data => ⟨shape, true, data.map (Value.taken kind)⟩
  | v => ⟨[], true, [v]⟩

/-- The outlines of the items of a list. -/
def ofValues : List (Value α) → List (Outline α)
  | [] => []
  | item :: rest => ofValue item :: ofValues rest

end

/-- An array that is to become one with elements of a single type: elements beside each other have
to be one at each place. -/
def singled (target : ElementKind) (v : Value α) : Except (Fault α) (Value α) :=
  match v with
  | .array kind shape data =>
    if !kind.isCompound then .ok v
    else match kind.fields with
      | [(_, part)] => .ok (.array part shape (data.flatMap Value.itemsBeside))
      | _ => .error (.noConversion shape.isEmpty (.strong kind) (.strong target))
  | v => .ok v

/-- How many axes an array may have. -/
def maxAxes : Nat := 64

/-- The outline of nested sequences that make up an array: their lengths have to agree, and there
may not be too many axes. -/
def checked (v : Value α) : Except (Fault α) (Outline α) :=
  let o := ofValue v
  if maxAxes < o.shape.length then .error .tooManyAxes
  else if o.isEven then .ok o
  else .error (.ragged o.shape)

/-- The number of values of an array of a shape. -/
def count (shape : List Nat) : Nat := shape.foldl (· * ·) 1

/-- The common shape of two arrays whose axes are counted from the last: an axis of length one goes
with any other. -/
def commonReversed? : List Nat → List Nat → Option (List Nat)
  | [], t => some t
  | s, [] => some s
  | m :: s, n :: t =>
    if m = n ∨ n = 1 then (commonReversed? s t).map (m :: ·)
    else if m = 1 then (commonReversed? s t).map (n :: ·)
    else none

/-- The common shape of two arrays. -/
def commonShape? (s t : List Nat) : Option (List Nat) :=
  (commonReversed? s.reverse t.reverse).map List.reverse

/-- The elements of an array spread out to a shape with as many axes. -/
def spread {β : Type} (shape own : List Nat) (data : List β) : List β :=
  match shape, own with
  | n :: rest, m :: inner =>
    let size := count inner
    (List.range n).flatMap fun i =>
      spread rest inner ((data.drop (if m = 1 then 0 else i * size)).take size)
  | _, _ => data

/-- The elements of an array spread out to a shape. -/
def spreadTo {β : Type} (shape own : List Nat) (data : List β) : List β :=
  spread shape (List.replicate (shape.length - own.length) 1 ++ own) data

end Outline

end Drafting
