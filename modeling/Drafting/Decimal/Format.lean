import Drafting.Decimal.Shortest

/-!
# Number texts

Four ways to write a number: with the fewest digits that read back in a precision, with a fixed
number of decimal places, with a fixed number of significant digits and an exponent, and the general
form that picks between the last two and drops trailing zeros. Places are rounded from the exact
binary value, a tie goes to the even neighbour, and an exponent has a sign and at least two digits.
-/

namespace Drafting.Decimal

/-- The decimal digits of a natural number. -/
def digitText (n : Nat) : String := String.ofList (Nat.toDigits 10 n)

/-- A sign followed by at least two exponent digits. -/
def exponentText (e : Int) : String :=
  let digits := digitText e.natAbs
  (if e < 0 then "e-" else "e+") ++ (if digits.length < 2 then "0" ++ digits else digits)

/-- Digits with a point before the last `places` of them. -/
def pointed (n places : Nat) : String :=
  if places = 0 then digitText n
  else
    let digits := Nat.toDigits 10 n
    let padded := List.replicate (places + 1 - digits.length) '0' ++ digits
    let whole := padded.length - places
    String.ofList (padded.take whole ++ '.' :: padded.drop whole)

/-- A leading digit, a point when more follow, the other digits and an exponent. -/
def mantissaText (digits : List Char) (e : Int) : String :=
  match digits with
  | [] => "0" ++ exponentText e
  | [d] => String.ofList [d] ++ exponentText e
  | d :: rest => String.ofList (d :: '.' :: rest) ++ exponentText e

/-- Text without the zeros at its end, and without a point left bare by that. -/
def dropTrailingZeros (cs : List Char) : List Char :=
  if cs.contains '.' then
    let kept := (cs.reverse.dropWhile (· == '0')).reverse
    if kept.getLast? == some '.' then kept.dropLast else kept
  else cs

/-- The ways in which a number can be written. -/
inductive Style where
  | shortest (precision : Precision)
  | fixed (places : Nat)
  | scientific (places : Nat)
  | general (precision : Nat)

/-- The shortest digits, in positional form for numbers from `0.0001` on that do not have too many
digits before the point, else with an exponent. -/
def shortestText (p : Precision) (m : Nat) (q : Int) : String :=
  if m = 0 then "0.0"
  else
    let found := Decimal.shortest p m q
    let digits := Nat.toDigits 10 found.significand
    let e := found.unit + digits.length - 1
    let size := (Ratio.ofBinary m q).decimalExponent
    if -4 ≤ size ∧ size < p.plainDigits then
      if 0 ≤ found.unit then
        digitText (found.significand * power 10 found.unit) ++ ".0"
      else pointed found.significand (-found.unit).toNat
    else mantissaText digits e

/-- The value rounded to `places` decimal places. -/
def fixedText (m : Nat) (q : Int) (places : Nat) : String :=
  pointed ((Ratio.ofBinary m q).inUnits (-places)).round places

/-- The value rounded to `places + 1` significant digits, with the exponent of the first. -/
def significantDigits (m : Nat) (q : Int) (places : Nat) : List Char × Int :=
  if m = 0 then (List.replicate (places + 1) '0', 0)
  else
    let value := Ratio.ofBinary m q
    let e := value.decimalExponent
    let rounded := (value.inUnits (e - places)).round
    if rounded = power 10 (places + 1) then (Nat.toDigits 10 (power 10 places), e + 1)
    else (Nat.toDigits 10 rounded, e)

/-- The value with one digit before the point, `places` after it, and an exponent. -/
def scientificText (m : Nat) (q : Int) (places : Nat) : String :=
  let (digits, e) := significantDigits m q places
  mantissaText digits e

/-- The value with `precision` significant digits, positional where the exponent allows it. -/
def generalText (m : Nat) (q : Int) (precision : Nat) : String :=
  let places := precision - 1
  let (digits, e) := significantDigits m q places
  if -4 ≤ e ∧ e ≤ places then
    String.ofList (dropTrailingZeros (fixedText m q (places - e).toNat).toList)
  else
    let kept := match digits with
      | [] => []
      | d :: rest => d :: (rest.reverse.dropWhile (· == '0')).reverse
    mantissaText kept e

/-- The text of a magnitude in the given style. -/
def Style.magnitude (style : Style) (m : Nat) (q : Int) : String :=
  match style with
  | .shortest precision => shortestText precision m q
  | .fixed places => fixedText m q places
  | .scientific places => scientificText m q places
  | .general precision => generalText m q precision

/-- The text of an exact value; the sign of zero is kept and an undefined value has none. -/
def Style.render (style : Style) : Binary64 → String
  | .undefined => "nan"
  | .infinite negative => if negative then "-inf" else "inf"
  | .finite negative m q => (if negative then "-" else "") ++ style.magnitude m q

/-- The text of a double. -/
def Style.text (style : Style) (x : Float) : String := style.render (.ofFloat x)

/-- The text of a double in the fewest digits that read back. -/
def text (x : Float) : String := (Style.shortest .double).text x

/-- Result text: `places` decimals, an exponent from a million on, and a plain `0` for zero. -/
def report (places : Nat) (x : Float) : String :=
  let value := Binary64.ofFloat x
  match value with
  | .undefined => "nan"
  | .infinite negative => if negative then "-inf" else "inf"
  | .finite .. =>
    if 1e6 ≤ x.abs then (Style.scientific (places - 1)).render value
    else
      let shown := (Style.fixed places).render value
      if shown.toList.all fun c => c == '0' || c == '.' || c == '-' then "0" else shown

end Drafting.Decimal
