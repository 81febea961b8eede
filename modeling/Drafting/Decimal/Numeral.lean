import Drafting.Decimal.Binary64
import Drafting.Text.Blank
import Drafting.Text.Digit

/-!
# Numerals

`Numeral.ofText?` reads a number as a person writes it: blanks around it are ignored, digits may be
of any script and may be grouped by single underscores, a point and a decimal exponent are
optional, and `inf`, `infinity` and `nan` are accepted in any case.
-/

namespace Drafting

/-- A number read from text: `decimal s n e` is `n * 10 ^ e`, negated when `s` holds. -/
inductive Numeral where
  | undefined
  | infinite (negative : Bool)
  | decimal (negative : Bool) (digits : Nat) (exponent : Int)
  deriving Repr, DecidableEq

namespace Numeral

/-- The number `m * 2 ^ q`, negated or not. -/
def ofBinary (negative : Bool) (m : Nat) (q : Int) : Numeral :=
  .decimal negative (m * power 2 q * power 5 (-q)) (min q 0)

/-- Replaces wide digits by ASCII ones and wide blanks by spaces. -/
def narrow (c : Char) : Char :=
  if c.toNat < 0x80 then c
  else if Text.isWideBlank c then ' '
  else match Text.digitValue? c with
    | some d => Char.ofNat ('0'.toNat + d)
    | none => '?'

/-- Removes underscores that stand between two digits; any other underscore refuses the text. -/
def ungroup? (previous : Option Char) : List Char → Option (List Char)
  | [] => some []
  | '_' :: rest =>
    match previous, rest with
    | some p, next :: _ => if p.isDigit && next.isDigit then ungroup? none rest else none
    | _, _ => none
  | c :: rest => (ungroup? (some c) rest).map (c :: ·)

/-- A sign, if one stands at the front. -/
def takeSign : List Char → Bool × List Char
  | '-' :: rest => (true, rest)
  | '+' :: rest => (false, rest)
  | cs => (false, cs)

/-- The number that a list of decimal digits writes. -/
def digitsValue (cs : List Char) : Nat := cs.foldl (fun n c => n * 10 + (c.toNat - '0'.toNat)) 0

/-- The exponent part: nothing, or `e` with an optional sign and at least one digit. -/
def exponent? : List Char → Option Int
  | [] => some 0
  | c :: rest =>
    if c == 'e' || c == 'E' then
      let (negative, digits) := takeSign rest
      if digits.isEmpty || !digits.all Char.isDigit then none
      else some (if negative then Int.negOfNat (digitsValue digits) else digitsValue digits)
    else none

/-- Digits with an optional point and exponent; at least one digit must stand around the point. -/
def decimal? (negative : Bool) (cs : List Char) : Option Numeral :=
  let whole := cs.takeWhile Char.isDigit
  let (fraction, rest) := match cs.dropWhile Char.isDigit with
    | '.' :: tail => (tail.takeWhile Char.isDigit, tail.dropWhile Char.isDigit)
    | tail => ([], tail)
  if whole.isEmpty && fraction.isEmpty then none
  else (exponent? rest).map fun e =>
    .decimal negative (digitsValue (whole ++ fraction)) (e - Int.ofNat fraction.length)

/-- An unsigned number: one of the words, or a decimal. -/
def unsigned? (negative : Bool) (cs : List Char) : Option Numeral :=
  let word := String.ofList (cs.map Char.toLower)
  if word == "inf" || word == "infinity" then some (.infinite negative)
  else if word == "nan" then some .undefined
  else decimal? negative cs

/-- Reads a whole text as a number. -/
def ofText? (s : String) : Option Numeral :=
  let cs := Text.trim Text.isAsciiBlank (s.toList.map narrow)
  (ungroup? none cs).bind fun cs =>
    let (negative, rest) := takeSign cs
    unsigned? negative rest

/-- The greatest number of digits that an integer may have. -/
def maxIntegerDigits : Nat := 4300

/-- Whether an integer has too many digits to be written. -/
def isTooLong (n : Int) : Bool := Nat.pow 10 maxIntegerDigits ≤ n.natAbs

/-- Reads a whole text as an integer. -/
def integer? (s : String) : Option Int :=
  let cs := Text.trim Text.isAsciiBlank (s.toList.map narrow)
  (ungroup? none cs).bind fun cs =>
    let (negative, digits) := takeSign cs
    if digits.isEmpty || !digits.all Char.isDigit || maxIntegerDigits < digits.length then none
    else some (if negative then Int.negOfNat (digitsValue digits) else digitsValue digits)

/-- The double nearest to a numeral. Exponents beyond the range of doubles are cut off first, so
that the powers of ten stay small. -/
def toFloat : Numeral → Float
  | .undefined => 0.0 / 0.0
  | .infinite negative => if negative then -1.0 / 0.0 else 1.0 / 0.0
  | .decimal negative digits exponent =>
    let leading := exponent + Int.ofNat (Nat.toDigits 10 digits).length
    let magnitude : Float :=
      if digits = 0 || leading < -400 then 0.0
      else if 400 < leading then 1.0 / 0.0
      else OfScientific.ofScientific digits (exponent < 0) exponent.natAbs
    if negative then -magnitude else magnitude

end Numeral

end Drafting
