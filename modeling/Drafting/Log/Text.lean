import Drafting.Value.Conversion
import Drafting.Scalar.Binary64

/-!
# Values inside log texts

A log text shows an option as a whole number or as a number of a given style. A value that is no
number has no such text, and the line that would show it is left out.
-/

namespace Drafting.Log

/-- A value as a whole number. -/
def wholeText? : Value Float → Option String
  | .flag b => some (if b then "1" else "0")
  | .int n => some (toString n)
  | .real x => (Float64.wholePart? x).map toString
  | .array _ [] [v] =>
    match v with
    | .flag b => some (if b then "1" else "0")
    | .int n => some (toString n)
    | .real x => (Float64.wholePart? x).map toString
    | _ => none
  | _ => none

/-- A value as a number of a style. -/
def styledText? (style : Decimal.Style) : Value Float → Option String
  | .flag b => some (style.text (if b then 1.0 else 0.0))
  | .int n => (Float64.ofInt? n).map style.text
  | .real x => some (style.text x)
  | .array _ [] [v] => v.toReal.toOption.map style.text
  | _ => none

end Drafting.Log
