import Drafting.Decimal.Format

/-!
# Number texts of one width

The numbers of an array are written alike: all in positional form, or all with an exponent if one of
them is very large or very small or if they differ much in size. Eight places after the point are
shown at most, zeros at the end are left out, and blanks make all texts equally long.
-/

namespace Drafting.Decimal

/-- The greatest number of places after the point. -/
def columnPlaces : Nat := 8

/-- The sizes of the numbers that are not zero. -/
def sizes (values : List Binary64) : List Ratio :=
  values.filterMap fun
    | .finite _ m q => if m = 0 then none else some (.ofBinary m q)
    | _ => none

/-- Whether numbers of a precision are written with exponents, given their sizes. The bounds and the
ratio of the greatest to the least size are numbers of that precision too. -/
def needsExponent (p : Precision) : List Ratio → Bool
  | [] => false
  | first :: rest =>
    let least := rest.foldl (fun r s => if r.le s then r else s) first
    let greatest := rest.foldl (fun r s => if r.le s then s else r) first
    (Ratio.mk (power 10 (min columnPlaces p.plainDigits)) 1).le greatest ||
      !(p.rounded ⟨1, 10000⟩).le least || !(p.rounded (greatest.quotient least)).le ⟨1000, 1⟩

/-- Digits around a point, without zeros at the end. -/
def aroundPoint (s : String) : String × String :=
  match s.splitOn "." with
  | [whole, fraction] =>
    (whole, String.ofList (fraction.toList.reverse.dropWhile (· == '0')).reverse)
  | _ => (s, "")

/-- The digits of a magnitude around the point. -/
def positionalParts (p : Precision) (m : Nat) (q : Int) : String × String :=
  if m = 0 then ("0", "")
  else
    let found := Decimal.shortest p m q
    if 0 ≤ found.unit then (digitText (found.significand * power 10 found.unit), "")
    else if found.unit < -columnPlaces then aroundPoint (fixedText m q columnPlaces)
    else aroundPoint (pointed found.significand (-found.unit).toNat)

/-- The first digit of a magnitude, those after it, and the exponent of the first. -/
def scientificParts (p : Precision) (m : Nat) (q : Int) : String × String × Int :=
  if m = 0 then ("0", "", 0)
  else
    let found := Decimal.shortest p m q
    let digits := Nat.toDigits 10 found.significand
    let (digits, e) :=
      if digits.length ≤ columnPlaces + 1 then (digits, found.unit + digits.length - 1)
      else significantDigits m q columnPlaces
    let kept := ((digits.drop 1).reverse.dropWhile (· == '0')).reverse
    (String.ofList (digits.take 1), String.ofList kept, e)

/-- A text with blanks before it up to a length. -/
def padLeft (length : Nat) (s : String) : String := "".pushn ' ' (length - s.length) ++ s

/-- A text with blanks after it up to a length. -/
def padRight (length : Nat) (s : String) : String := s ++ "".pushn ' ' (length - s.length)

/-- The greatest length of texts. -/
def longest (texts : List String) : Nat := texts.foldl (fun n s => max n s.length) 0

/-- The sign of a number; a plus is written where it is asked for. -/
def signText (plus negative : Bool) : String :=
  if negative then "-" else if plus then "+" else ""

/-- The word for a value that has no digits. -/
def wordText (plus : Bool) (p : Precision) : Binary64 → String
  | .infinite true => (Style.shortest p).render (.infinite true)
  | other => signText plus false ++ (Style.shortest p).render other

/-- How much room is kept for words where values without digits are present: that of the longest
word, with one more character where a word can have a sign. -/
def wordLength (plus : Bool) (values : List Binary64) : Nat :=
  let isWord : Binary64 → Bool
    | .finite .. => false
    | _ => true
  if !values.any isWord then 0
  else if plus || values.contains (.infinite true) then 4
  else 3

/-- Texts in positional form. -/
def positionalColumns (plus : Bool) (p : Precision) (values : List Binary64) : List String :=
  let parts := values.map fun
    | .finite negative m q =>
      let (whole, fraction) := positionalParts p m q
      some (signText plus negative ++ whole, fraction)
    | _ => none
  let right := longest (parts.filterMap fun part => part.map Prod.snd)
  let left := max (longest (parts.filterMap fun part => part.map Prod.fst))
    (wordLength plus values - (right + 1))
  List.zipWith (fun value part => match part with
    | some (whole, fraction) => padLeft left whole ++ "." ++ padRight right fraction
    | none => padLeft (left + right + 1) (wordText plus p value)) values parts

/-- Texts with exponents. -/
def scientificColumns (plus : Bool) (p : Precision) (values : List Binary64) : List String :=
  let parts := values.map fun
    | .finite negative m q =>
      let (first, rest, e) := scientificParts p m q
      some (signText plus negative ++ first, rest, exponentText e)
    | _ => none
  let present := parts.filterMap id
  let left := longest (present.map Prod.fst)
  let places := longest (present.map fun part => part.2.1)
  let size := longest (present.map fun part => part.2.2)
  List.zipWith (fun value part => match part with
    | some (first, rest, exponent) =>
      let digits := exponent.toList.drop 2
      let filled := List.replicate (size - exponent.length) '0' ++ digits
      padLeft left first ++ "." ++ rest ++ "".pushn '0' (places - rest.length) ++
        String.ofList (exponent.toList.take 2 ++ filled)
    | none => padLeft (left + places + size + 1) (wordText plus p value)) values parts

/-- The texts of the numbers of an array, which have a precision, perhaps with a plus where there is
no minus. -/
def columns (plus : Bool) (p : Precision) (values : List Binary64) : List String :=
  if needsExponent p (sizes values) then scientificColumns plus p values
  else positionalColumns plus p values

end Drafting.Decimal
