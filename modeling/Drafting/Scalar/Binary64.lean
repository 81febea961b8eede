import Drafting.Scalar
import Drafting.Decimal.Format

/-!
# Doubles as scalars

Doubles are scalars. The hypotenuse is computed without undue overflow: the legs are ordered and
scaled by a power of two, and the root of the sum of squares is corrected by one step that takes
the rounding errors of the squares into account.
-/

namespace Drafting

namespace Float64

/-- The double nearest to an integer; an integer that would round to an infinity has none. -/
def ofInt? (n : Int) : Option Float :=
  let magnitude : Float := OfScientific.ofScientific n.natAbs false 0
  if magnitude.isFinite then some (if n < 0 then -magnitude else magnitude) else none

/-- How an integer compares with a double, unless the double is undefined. -/
def compareInt? (n : Int) (x : Float) : Option Ordering :=
  match Binary64.ofFloat x with
  | .undefined => none
  | .infinite negative => some (if negative then .gt else .lt)
  | .finite negative m q =>
    let signed : Int := if negative then Int.negOfNat m else m
    some (compare (n * power 2 (-q)) (signed * power 2 q))

/-- A double cut off at the point; an infinity or an undefined value has no whole part. -/
def wholePart? (x : Float) : Option Int :=
  match Binary64.ofFloat x with
  | .finite negative m q =>
    let n := (Ratio.ofBinary m q).floor
    some (if negative then Int.negOfNat n else n)
  | _ => none

/-- The next double below one that is not zero. -/
def previous (x : Float) : Float :=
  Float.ofBits (if 0.0 < x then x.toBits - 1 else x.toBits + 1)

/-- The greatest double that is not above an integer. -/
def ofIntBelow (n : Int) : Float :=
  let nearest : Float :=
    (ofInt? n).getD (if n < 0 then -1.0 / 0.0 else 1.0 / 0.0)
  if compareInt? n nearest == some .lt then previous nearest else nearest

/-- The root of `x * x + y * y` for ordered legs of moderate size, corrected by its residue. -/
def hypotOrdered (x y : Float) : Float :=
  let h := Float.sqrt (x * x + y * y)
  if h ≤ 2.0 * y then
    let delta := h - y
    let t1 := x * (2.0 * delta - x)
    let t2 := (delta - 2.0 * (x - y)) * delta
    h - (t1 + t2) / (2.0 * h)
  else
    let delta := h - x
    let t1 := 2.0 * delta * (x - 2.0 * y)
    let t2 := (4.0 * delta - y) * y + delta * delta
    h - (t1 + t2) / (2.0 * h)

/-- The hypotenuse over two legs; an infinite leg makes it infinite. A leg below the last place of
the other is added to it, and very long or very short legs are scaled by `2 ^ 600` and back. -/
def hypot (a b : Float) : Float :=
  if a.isInf || b.isInf then 1.0 / 0.0
  else if a.isNaN || b.isNaN then a + b
  else
    let x := a.abs
    let y := b.abs
    let long := if x < y then y else x
    let short := if x < y then x else y
    let scale : Float := 4.149515568880993e180
    let lastPlace : Float := 5.551115123125783e-17
    if 6.703903964971299e153 < long then
      if short ≤ long * lastPlace then long + short
      else hypotOrdered (long / scale) (short / scale) * scale
    else if short < 6.717876107567089e-139 then
      if short / lastPlace ≤ long then long + short
      else hypotOrdered (long * scale) (short * scale) / scale
    else if short ≤ long * lastPlace then long + short
    else hypotOrdered long short

/-- A magnitude `m * 2 ^ q` with eleven significant bits at most, none below `2 ^ (-24)`. -/
def halfPrecision (m : Nat) (q : Int) : Float :=
  let dropped : Int := max (Int.ofNat (m.log2 + 1) - 11) (-24 - q)
  let kept := if dropped ≤ 0 then m else (Ratio.ofBinary m (-dropped)).round
  let x := Float.scaleB (OfScientific.ofScientific kept false 0) (q + max dropped 0)
  if 65520.0 ≤ x then 1.0 / 0.0 else x

/-- A double rounded to a width in bits. -/
def narrow (bits : Nat) (x : Float) : Float :=
  match bits with
  | 16 =>
    match Binary64.ofFloat x with
    | .finite negative m q =>
      if m = 0 then x else if negative then -halfPrecision m q else halfPrecision m q
    | _ => x
  | 32 => x.toFloat32.toFloat
  | _ => x

end Float64

instance : Scalar Float where
  zero := 0.0
  one := 1.0
  natCast n := OfScientific.ofScientific n false 0
  decidableLe a b := inferInstanceAs (Decidable (a ≤ b))
  decidableLt a b := inferInstanceAs (Decidable (a < b))
  abs := Float.abs
  sqrt := Float.sqrt
  acos := Float.acos
  hypot := Float64.hypot
  isFinite := Float.isFinite
  ceil x := x.ceil.toUInt64.toNat
  ofInt? := Float64.ofInt?
  ofIntBelow := Float64.ofIntBelow
  compareInt? := Float64.compareInt?
  ofNumeral := Numeral.toFloat
  text := Decimal.text
  binary? x := some (Binary64.ofFloat x)
  narrow := Float64.narrow

end Drafting
