import Drafting.Text.Digit
import Drafting.Text.Half
import Drafting.Value.Basic

/-!
# Reading JSON

A text is read into a value: a number without point and exponent is an integer, any other a real,
and the words `NaN`, `Infinity` and `-Infinity` are accepted. Of two fields with one name the later
value is kept in the earlier place. A text that cannot be read is answered with what was expected
and where; the place is kept as the number of characters that were left.
-/

namespace Drafting.Json

/-- What was wrong at the place where reading stopped. -/
inductive Complaint where
  | expectingValue
  | expectingName
  | expectingColon
  | expectingComma
  | unterminated
  | controlCharacter
  | badEscape
  | badCodeEscape
  | extraData
  | byteOrderMark
  | tooManyDigits (count : Nat)
  | tooDeep (isArray : Bool)
  deriving Repr, DecidableEq

/-- A complaint and how many characters were left where it arose. -/
structure Stop where
  complaint : Complaint
  left : Nat
  deriving Repr, DecidableEq

/-- Stops with a complaint at the front of the given characters. -/
def stop {β : Type} (complaint : Complaint) (cs : List Char) : Except Stop β :=
  .error ⟨complaint, cs.length⟩

/-- The blanks that JSON allows between tokens. -/
def isBlank (c : Char) : Bool := c == ' ' || c == '\t' || c == '\n' || c == '\r'

/-- The characters after leading blanks. -/
def skipBlanks (cs : List Char) : List Char := cs.dropWhile isBlank

/-- The code unit that four hexadecimal digits write. -/
def codeUnit? : List Char → Option (Nat × List Char)
  | a :: b :: c :: d :: rest => do
    let a ← Text.hexValue? a
    let b ← Text.hexValue? b
    let c ← Text.hexValue? c
    let d ← Text.hexValue? d
    return (((a * 16 + b) * 16 + c) * 16 + d, rest)
  | _ => none

/-- The character that a letter stands for after a backslash. -/
def simpleEscape? : Char → Option Char
  | '"' => some '"'
  | '\\' => some '\\'
  | '/' => some '/'
  | 'b' => some '\x08'
  | 'f' => some '\x0c'
  | 'n' => some '\n'
  | 'r' => some '\r'
  | 't' => some '\t'
  | _ => none

/-- Whether a code unit is the first half of a pair. -/
def isHighHalf (n : Nat) : Bool := 0xd800 ≤ n && n < 0xdc00

/-- Whether a code unit is the second half of a pair. -/
def isLowHalf (n : Nat) : Bool := 0xdc00 ≤ n && n < 0xe000

/-- The character of a code unit; a half without its partner is kept as such. -/
def unitChar (n : Nat) : Char :=
  if 0xd800 ≤ n ∧ n < 0xe000 then Text.keepHalf n else Char.ofNat n

/-- The character after `\u`, with the second half of a pair where one follows, as it is held. -/
def codeEscape (cs : List Char) : Except Stop (List Char × List Char) :=
  let failure : Except Stop (List Char × List Char) := .error ⟨.badCodeEscape, cs.length + 1⟩
  if cs.length ≤ 4 then failure
  else match codeUnit? cs with
  | none => failure
  | some (high, rest) =>
    match rest with
    | '\\' :: 'u' :: tail =>
      if isHighHalf high && 4 < tail.length then
        match codeUnit? tail with
        | none => .error ⟨.badCodeEscape, tail.length + 1⟩
        | some (low, after) =>
          if isLowHalf low then
            .ok (Text.held (Char.ofNat (0x10000 + (high - 0xd800) * 0x400 + (low - 0xdc00))),
              after)
          else .ok ([unitChar high], rest)
      else .ok ([unitChar high], rest)
    | _ => .ok ([unitChar high], rest)

/-- The characters of a string up to its closing quote, put before those read already in reverse.
`start` is how many characters were left at the opening quote. -/
def stringBody (start : Nat) : Nat → List Char → List Char → Except Stop (String × List Char)
  | 0, _, _ => .error ⟨.unterminated, start⟩
  | fuel + 1, acc, cs =>
    match cs with
    | [] => .error ⟨.unterminated, start⟩
    | '"' :: rest => .ok (String.ofList acc.reverse, rest)
    | '\\' :: rest =>
      match rest with
      | [] => .error ⟨.unterminated, start⟩
      | 'u' :: tail => do
        let (found, after) ← codeEscape tail
        stringBody start fuel (found.reverse ++ acc) after
      | c :: tail =>
        match simpleEscape? c with
        | some d => stringBody start fuel (d :: acc) tail
        | none => stop .badEscape cs
    | c :: rest =>
      if c.toNat < 0x20 then stop .controlCharacter cs
      else stringBody start fuel ((Text.held c).reverse ++ acc) rest

/-- A string, given the characters after its opening quote. -/
def string (cs : List Char) : Except Stop (String × List Char) :=
  stringBody (cs.length + 1) (cs.length + 1) [] cs

/-- The digits of a fraction after a point, if there are any. -/
def takeFraction : List Char → List Char × List Char
  | '.' :: rest =>
    match rest.takeWhile Char.isDigit with
    | [] => ([], '.' :: rest)
    | digits => (digits, rest.dropWhile Char.isDigit)
  | cs => ([], cs)

/-- An exponent with at least one digit; otherwise nothing is taken. -/
def takeExponent (cs : List Char) : Option Int × List Char :=
  match cs with
  | c :: rest =>
    if c == 'e' || c == 'E' then
      let (negative, tail) := Numeral.takeSign rest
      match tail.takeWhile Char.isDigit with
      | [] => (none, cs)
      | digits =>
        let n := Numeral.digitsValue digits
        (some (if negative then Int.negOfNat n else n), tail.dropWhile Char.isDigit)
    else (none, cs)
  | [] => (none, cs)

/-- The integer digits of a number: a zero alone, or digits that start with another one. -/
def takeWhole : List Char → List Char × List Char
  | '0' :: rest => (['0'], rest)
  | cs => (cs.takeWhile Char.isDigit, cs.dropWhile Char.isDigit)

variable {α : Type} [Scalar α]

/-- A number; `start` is the place to complain at when there is none. -/
def number (start cs : List Char) (negative : Bool) : Except Stop (Value α × List Char) :=
  match takeWhole cs with
  | ([], _) => stop .expectingValue start
  | (whole, rest) =>
    let (fraction, rest) := takeFraction rest
    let (exponent, rest) := takeExponent rest
    if fraction.isEmpty && exponent.isNone then
      if Numeral.maxIntegerDigits < whole.length then stop (.tooManyDigits whole.length) start
      else
        let n := Numeral.digitsValue whole
        .ok (.int (if negative then Int.negOfNat n else n), rest)
    else
      let digits := Numeral.digitsValue (whole ++ fraction)
      let e := exponent.getD 0 - Int.ofNat fraction.length
      .ok (.real (Scalar.ofNumeral (.decimal negative digits e)), rest)

/-- A value that is neither a string nor nested. -/
def atom (cs : List Char) : Except Stop (Value α × List Char) :=
  match cs with
  | 'n' :: 'u' :: 'l' :: 'l' :: rest => .ok (.null, rest)
  | 't' :: 'r' :: 'u' :: 'e' :: rest => .ok (.flag true, rest)
  | 'f' :: 'a' :: 'l' :: 's' :: 'e' :: rest => .ok (.flag false, rest)
  | 'N' :: 'a' :: 'N' :: rest => .ok (.real (Scalar.ofNumeral .undefined), rest)
  | 'I' :: 'n' :: 'f' :: 'i' :: 'n' :: 'i' :: 't' :: 'y' :: rest =>
    .ok (.real (Scalar.ofNumeral (.infinite false)), rest)
  | '-' :: 'I' :: 'n' :: 'f' :: 'i' :: 'n' :: 'i' :: 't' :: 'y' :: rest =>
    .ok (.real (Scalar.ofNumeral (.infinite true)), rest)
  | '-' :: rest => number cs rest true
  | _ => number cs cs false

/-- How deep arrays and objects may be nested. -/
def maxDepth : Nat := 990

mutual

/-- Any value. -/
def value (fuel depth : Nat) (cs : List Char) : Except Stop (Value α × List Char) :=
  match fuel with
  | 0 => stop .expectingValue cs
  | fuel + 1 =>
    match cs with
    | '"' :: rest => do
      let (s, rest) ← string rest
      return (.text s, rest)
    | '\x7b' :: rest =>
      match depth with
      | 0 => stop (.tooDeep false) cs
      | depth + 1 =>
        match skipBlanks rest with
        | '\x7d' :: after => .ok (.record [], after)
        | cs => do
          let (fields, rest) ← members fuel depth [] cs
          return (.record fields, rest)
    | '[' :: rest =>
      match depth with
      | 0 => stop (.tooDeep true) cs
      | depth + 1 =>
        match skipBlanks rest with
        | ']' :: after => .ok (.list [], after)
        | cs => do
          let (items, rest) ← elements fuel depth [] cs
          return (.list items, rest)
    | cs => atom cs

/-- The items of an array up to its closing bracket, after those read already in reverse. -/
def elements (fuel depth : Nat) (acc : List (Value α)) (cs : List Char) :
    Except Stop (List (Value α) × List Char) :=
  match fuel with
  | 0 => stop .expectingValue cs
  | fuel + 1 => do
    let (item, rest) ← value fuel depth cs
    match skipBlanks rest with
    | ']' :: after => return ((item :: acc).reverse, after)
    | ',' :: after => elements fuel depth (item :: acc) (skipBlanks after)
    | rest => stop .expectingComma rest

/-- The fields of an object up to its closing brace, after those read already. -/
def members (fuel depth : Nat) (acc : List (String × Value α)) (cs : List Char) :
    Except Stop (List (String × Value α) × List Char) :=
  match fuel with
  | 0 => stop .expectingName cs
  | fuel + 1 =>
    match cs with
    | '"' :: rest => do
      let (name, rest) ← string rest
      match skipBlanks rest with
      | ':' :: rest =>
        let (item, rest) ← value fuel depth (skipBlanks rest)
        let acc := Assoc.set name item acc
        match skipBlanks rest with
        | '\x7d' :: after => return (acc, after)
        | ',' :: after => members fuel depth acc (skipBlanks after)
        | rest => stop .expectingComma rest
      | rest => stop .expectingColon rest
    | _ => stop .expectingName cs

end

/-- Reads characters that hold one value and nothing else but blanks. -/
def document (cs : List Char) : Except Stop (Value α) :=
  match cs with
  | '\ufeff' :: _ => stop .byteOrderMark cs
  | _ => do
    let (v, rest) ← value (2 * cs.length + 2) maxDepth (skipBlanks cs)
    match skipBlanks rest with
    | [] => return v
    | rest => stop .extraData rest

/-- Where reading a text stopped: line and column counted from one, offset from zero. -/
structure Failure where
  complaint : Complaint
  line : Nat
  column : Nat
  offset : Nat
  deriving Repr, DecidableEq

/-- The place in a text at which the given number of characters is left. -/
def Failure.ofStop (cs : List Char) (s : Stop) : Failure :=
  let before := cs.take (cs.length - s.left)
  { complaint := s.complaint
    line := before.count '\n' + 1
    column := (before.reverse.takeWhile (· != '\n')).length + 1
    offset := before.length }

/-- Reads a text that holds one value. -/
def read (s : String) : Except Failure (Value α) :=
  let cs := s.toList
  (document cs).mapError (Failure.ofStop cs)

/-- What a complaint says. -/
def Complaint.text : Complaint → String
  | expectingValue => "Expecting value"
  | expectingName => "Expecting property name enclosed in double quotes"
  | expectingColon => "Expecting ':' delimiter"
  | expectingComma => "Expecting ',' delimiter"
  | unterminated => "Unterminated string starting at"
  | controlCharacter => "Invalid control character at"
  | badEscape => "Invalid \\escape"
  | badCodeEscape => "Invalid \\uXXXX escape"
  | extraData => "Extra data"
  | byteOrderMark => "Unexpected UTF-8 BOM (decode using utf-8-sig)"
  | tooManyDigits count =>
    "Exceeds the limit (4300 digits) for integer string conversion: value has " ++
      toString count ++ " digits; use sys.set_int_max_str_digits() to increase the limit"
  | tooDeep isArray =>
    "maximum recursion depth exceeded while decoding a JSON " ++
      (if isArray then "array" else "object") ++ " from a unicode string"

/-- What was wrong, with line, column and offset. -/
def Failure.message (f : Failure) : String :=
  f.complaint.text ++ ": line " ++ toString f.line ++ " column " ++ toString f.column ++
    " (char " ++ toString f.offset ++ ")"

end Drafting.Json
