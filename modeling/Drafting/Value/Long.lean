import Drafting.Scalar.Binary64
import Drafting.Value.Conversion

/-!
# Numbers of the greatest precision

A number with sixty-four significant bits, read from a text, from an integer or from any other value
that stands for a number. It is a double where it is one exactly, and `Value.long` otherwise. Texts
have a grammar of their own: blanks stand at the front only, nothing separates digits, and these may
be hexadecimal.
-/

namespace Drafting.Value

/-- The greatest precision. -/
def greatest : Decimal.Precision := .ofWidth 128

/-- The number `m * 2 ^ q`, negated or not: a double if it is one. -/
def ofBinary (negative : Bool) (m : Nat) (q : Int) : Value Float :=
  let nearest := (Numeral.ofBinary negative m q).toFloat
  match Binary64.ofFloat nearest with
  | .finite _ m' q' =>
    if m' * power 2 (q' - q) = m * power 2 (q - q') then real nearest else long negative m q
  | _ => long negative m q

/-- The number of the greatest precision nearest to a positive ratio, negated or not. -/
def longOfRatio (negative : Bool) (r : Ratio) : Value Float :=
  let (m, q) := greatest.round r
  if 16384 ≤ Int.ofNat m.log2 + q then real (Numeral.infinite negative).toFloat
  else
    let (m, q) := greatest.fit m q
    ofBinary negative m q

/-- The number of the greatest precision nearest to an integer. -/
def longOfInt (n : Int) : Value Float :=
  if n = 0 then real 0.0 else longOfRatio (decide (n < 0)) ⟨n.natAbs, 1⟩

/-- The number of the greatest precision nearest to a numeral. Exponents beyond its range are cut
off first, so that the powers of ten stay small. -/
def longOfNumeral : Numeral → Value Float
  | .decimal negative digits exponent =>
    let leading := exponent + Int.ofNat (Nat.toDigits 10 digits).length
    if digits = 0 ∨ leading < -5000 then real (Numeral.decimal negative 0 0).toFloat
    else if 5000 < leading then real (Numeral.infinite negative).toFloat
    else longOfRatio negative ⟨digits * power 10 exponent, power 10 (-exponent)⟩
  | numeral => real numeral.toFloat

/-- The word for an infinite number, or for an undefined one with a remark in brackets after it. -/
def wordNumeral? (negative : Bool) (cs : List Char) : Option Numeral :=
  match cs.map Char.toLower with
  | ['i', 'n', 'f'] | ['i', 'n', 'f', 'i', 'n', 'i', 't', 'y'] => some (.infinite negative)
  | ['n', 'a', 'n'] => some .undefined
  | 'n' :: 'a' :: 'n' :: '(' :: remark =>
    match remark.dropWhile fun c => c.isAlphanum || c == '_' with
    | [] | [')'] => some .undefined
    | _ => none
  | _ => none

/-- Hexadecimal digits with a mark before them, with an optional point and an optional exponent of
two. -/
def hexNumeral? (negative : Bool) (cs : List Char) : Option Numeral :=
  let isDigit (c : Char) : Bool := (Text.hexValue? c).isSome
  let valueOf (digits : List Char) : Nat :=
    (digits.filterMap Text.hexValue?).foldl (fun n d => n * 16 + d) 0
  match cs.map Char.toLower with
  | '0' :: 'x' :: digits =>
    let whole := digits.takeWhile isDigit
    let (fraction, rest) := match digits.dropWhile isDigit with
      | '.' :: tail => (tail.takeWhile isDigit, tail.dropWhile isDigit)
      | tail => ([], tail)
    let exponent? : Option Int := match rest with
      | [] => some 0
      | 'p' :: tail => Numeral.exponent? ('e' :: tail)
      | _ => none
    if whole.isEmpty && fraction.isEmpty then none
    else exponent?.map fun e =>
      .ofBinary negative (valueOf (whole ++ fraction))
        (max (-40000) (min 40000 (e - 4 * Int.ofNat fraction.length)))
  | _ => none

/-- The number of the greatest precision that a text writes. -/
def longOfText? (s : String) : Option (Value Float) :=
  let (negative, cs) := Numeral.takeSign (s.toList.dropWhile Text.isAsciiBlank)
  let numeral? := wordNumeral? negative cs <|> hexNumeral? negative cs <|>
    Numeral.decimal? negative cs
  numeral?.map longOfNumeral

/-- The number of the greatest precision that an array takes over from a value. A text ends before
its first null character. -/
def longElement (v : Value Float) : Except (Fault Float) (Value Float) :=
  let read (s : String) : Except (Fault Float) (Value Float) :=
    let s := String.ofList (s.toList.takeWhile (· != '\x00'))
    match longOfText? s with
    | some x => .ok x
    | none => .error (.badLong s)
  match v with
  | int n => .ok (longOfInt n)
  | text s => read s
  | bytes data => read (byteChars data)
  | element (.binary 128) w => .ok w
  | element kind (int n) =>
    if kind.isTime then v.cellReal.map real else .ok (longOfInt n)
  | v => v.cellReal.map real

end Drafting.Value
