import Drafting.Scalar.Binary64
import Drafting.Value.Quoted

/-!
# Writing JSON

A value is written as JSON text in ASCII. Sequences of every sort become arrays; things that are no
data are written as their text. The indented form puts every item on a line of its own.
-/

namespace Drafting.Json

/-- A UTF-16 code unit as an escape. -/
def unitEscape (n : Nat) : List Char := '\\' :: 'u' :: Text.hex 4 n

/-- A character as it stands inside a string. -/
def charText (c : Char) : List Char :=
  match c with
  | '"' => ['\\', '"']
  | '\\' => ['\\', '\\']
  | '\n' => ['\\', 'n']
  | '\r' => ['\\', 'r']
  | '\t' => ['\\', 't']
  | '\x08' => ['\\', 'b']
  | '\x0c' => ['\\', 'f']
  | c =>
    let n := c.toNat
    if 0x20 ≤ n && n < 0x7f then [c]
    else if n < 0x10000 then unitEscape n
    else if let some half := Text.keptHalf? c then unitEscape half
    else unitEscape (0xd800 + (n - 0x10000) / 0x400) ++
      unitEscape (0xdc00 + (n - 0x10000) % 0x400)

/-- A text between quotes. -/
def stringText (s : String) : String :=
  String.ofList ('"' :: s.toList.flatMap charText ++ ['"'])

/-- A number in the fewest digits, or the word for one that has no digits. -/
def realText (x : Float) : String :=
  if x.isNaN then "NaN"
  else if x.isInf then (if x < 0.0 then "-Infinity" else "Infinity")
  else Decimal.text x

/-- The name of an entry of a record as text. -/
def nameText : Value Float → String
  | .text s | .element _ (.text s) => s
  | .flag b => if b then "true" else "false"
  | .null => "null"
  | .real x | .element (.binary 64) (.real x) => realText x
  | v => v.shown

/-- How the parts of an array or object are set apart at a depth of nesting. -/
structure Layout where
  opening : Nat → String
  separator : Nat → String
  closing : Nat → String

/-- Everything on one line. -/
def Layout.line : Layout := ⟨fun _ => "", fun _ => ", ", fun _ => ""⟩

/-- Every item on a line of its own, two spaces further in than what it belongs to. -/
def Layout.indented : Layout :=
  let newline (depth : Nat) := "\n".pushn ' ' (2 * depth)
  ⟨fun depth => newline (depth + 1), fun depth => "," ++ newline (depth + 1), newline⟩

/-- Items between brackets. -/
def enclose (layout : Layout) (depth : Nat) (left right : String) (items : List String) :
    String :=
  match items with
  | [] => left ++ right
  | items =>
    left ++ layout.opening depth ++ (layout.separator depth).intercalate items ++
      layout.closing depth ++ right

mutual

/-- A value in the given layout at a depth of nesting. -/
def printAt (layout : Layout) (depth : Nat) : Value Float → String
  | .null => "null"
  | .flag b => if b then "true" else "false"
  | .int n => toString n
  | .real x => realText x
  | .text s => stringText s
  | .list items => enclose layout depth "[" "]" (printItems layout (depth + 1) items)
  | .tuple items => enclose layout depth "[" "]" (printItems layout (depth + 1) items)
  | .record fields => enclose layout depth "\x7b" "\x7d" (printFields layout (depth + 1) fields)
  | .mapping entries =>
    enclose layout depth "\x7b" "\x7d" (printEntries layout (depth + 1) entries)
  | .vector x y z =>
    enclose layout depth "[" "]"
      [printAt layout (depth + 1) x, printAt layout (depth + 1) y, printAt layout (depth + 1) z]
  | .array _ _ data => enclose layout depth "[" "]" (printItems layout (depth + 1) data)
  | .complex re im => stringText (Value.complexText 128 re im)
  | .long negative m q =>
    stringText (Value.singleText (.binary 128) (.long negative m q : Value Float))
  | .bytes data => stringText (Value.bytesText data)
  | .element _ v => printAt layout depth v
  | .object _ shown _ => stringText shown

/-- The items of a sequence. -/
def printItems (layout : Layout) (depth : Nat) : List (Value Float) → List String
  | [] => []
  | item :: rest => printAt layout depth item :: printItems layout depth rest

/-- The fields of a record, each as its name, a colon and its value. -/
def printFields (layout : Layout) (depth : Nat) : List (String × Value Float) → List String
  | [] => []
  | (name, item) :: rest =>
    (stringText name ++ ": " ++ printAt layout depth item) :: printFields layout depth rest

/-- The entries of a record, each as its name, a colon and its value. -/
def printEntries (layout : Layout) (depth : Nat) : List (Value Float × Value Float) → List String
  | [] => []
  | (name, item) :: rest =>
    (stringText (nameText name) ++ ": " ++ printAt layout depth item) ::
      printEntries layout depth rest

end

/-- A value on one line. -/
def print (v : Value Float) : String := printAt .line 0 v

/-- A value over several lines. -/
def printIndented (v : Value Float) : String := printAt .indented 0 v

end Drafting.Json
