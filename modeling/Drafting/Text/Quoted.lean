import Drafting.Text.Half
import Drafting.Text.Printable

/-!
# Quoted texts

A text is shown between single quotes, or between double quotes when it holds a single one and no
double one. The quote in use and the backslash are escaped, as are characters that do not print.
-/

namespace Drafting.Text

/-- The lower-case hexadecimal digits of a number, filled up with zeros to a width. -/
def hex (width n : Nat) : List Char :=
  let digits := Nat.toDigits 16 n
  List.replicate (width - digits.length) '0' ++ digits

/-- The quote that a text is shown in. -/
def quoteFor (s : String) : Char :=
  if s.toList.contains '\'' && !s.toList.contains '"' then '"' else '\''

/-- One character as it stands in a quoted text. -/
def escape (quote c : Char) : List Char :=
  if c == quote || c == '\\' then ['\\', c]
  else if c == '\n' then ['\\', 'n']
  else if c == '\t' then ['\\', 't']
  else if c == '\r' then ['\\', 'r']
  else if isPrintable c then [c]
  else if c.toNat < 0x100 then '\\' :: 'x' :: hex 2 c.toNat
  else if c.toNat < 0x10000 then '\\' :: 'u' :: hex 4 c.toNat
  else match keptHalf? c with
    | some half => '\\' :: 'u' :: hex 4 half
    | none => '\\' :: 'U' :: hex 8 c.toNat

/-- Characters as they stand in a quoted text. -/
def escapeAll (quote : Char) : List Char → List Char
  | [] => []
  | [c] => escape quote c
  | c :: d :: rest =>
    match keptPair? c d with
    | some n => '\\' :: 'U' :: hex 8 n ++ escapeAll quote rest
    | none => escape quote c ++ escapeAll quote (d :: rest)

/-- A text with quotes around it and escapes in it. -/
def quoted (s : String) : String :=
  let quote := quoteFor s
  String.ofList (quote :: escapeAll quote s.toList ++ [quote])

end Drafting.Text
