import Drafting.Text.Blank
import Drafting.Value.ElementType

/-!
# Lists of element types

Several element types with commas between them stand beside each other. Each of them may be repeated
a number of times, or be an array of a shape, which is written in front of it; a mark for the order
of bytes stands before that or after it. A text that starts with a digit, or with empty brackets, is
a list of one.
-/

namespace Drafting

/-- How often an element stands at its place: a number of times, or as an array of a shape. -/
inductive Repeats where
  | count (n : Nat)
  | shape (lengths : List Nat)
  deriving DecidableEq, Repr

namespace Repeats

/-- Whether a number starts with a zero and is not zero. -/
def hasLeadingZero : List Char → Bool
  | '0' :: digits => digits.any (· != '0')
  | _ => false

/-- The runs of digits of a text. -/
def digitRuns (cs : List Char) : List (List Char) :=
  cs.splitOnP fun c => !c.isDigit

/-- The numbers with commas between them, if there is one at each place; after the last comma there
may be none. -/
def numbersOf (cs : List Char) : Except RepeatFlaw Repeats :=
  let items := (cs.splitOn ',').map (Text.trim (· == ' '))
  let given := if items.getLast? = some [] then items.dropLast else items
  if given.isEmpty || given.any List.isEmpty then .error .unread
  else if given.any fun item => item.contains ' ' then .error .noComma
  else match items with
    | [item] => .ok (count (Numeral.digitsValue item))
    | _ => .ok (shape (given.map Numeral.digitsValue))

/-- Reads a number of times: a number, or lengths in brackets or without them. -/
def ofText (cs : List Char) : Except RepeatFlaw Repeats :=
  let trimmed := Text.trim (· == ' ') cs
  let isOpen := trimmed.head? = some '('
  let isClosed := trimmed.getLast? = some ')'
  let inside := trimmed.filter fun c => c != '(' && c != ')'
  if trimmed.isEmpty then .error .blank
  else if (digitRuns trimmed).any hasLeadingZero then .error .leadingZero
  else if isClosed ∧ !isOpen then .error .unopened
  else if isOpen ∧ inside.all (· == ' ') then
    if isClosed then .ok (shape []) else .error .unclosed
  else match numbersOf inside with
    | .error .noComma => .error (if isOpen then .noComma else .unread)
    | .error flaw => .error flaw
    | .ok repeats => if isOpen ∧ !isClosed then .error .unclosed else .ok repeats

variable {α : Type}

/-- The greatest number of items along an axis of an array at each element, and of bytes of it. -/
def greatest : Nat := 2147483647

/-- The element type with a size, if it has none of its own. -/
def widened? (n : Nat) : ElementKind → Option ElementKind
  | .text 0 => some (.text n)
  | .bytes 0 => some (.bytes n)
  | .raw 0 => some (.raw n)
  | .reversed kind => (widened? n kind).map .reversed
  | _ => none

/-- An element type repeated. What has no size of its own takes on a number of times as its size. -/
def apply (repeats : Repeats) (kind : ElementKind) : Except (Fault α) ElementKind :=
  let arrays (lengths : List Nat) : Except (Fault α) ElementKind :=
    if lengths.any (greatest < ·) then .error (.badLayout .longAxis)
    else if greatest < lengths.foldl (· * ·) 1 * kind.size then .error (.badLayout .bigElement)
    else .ok (.repeated lengths kind)
  match repeats with
  | count n =>
    match widened? n kind with
    | some wide => .ok wide
    | none => if n = 1 then .ok kind else arrays [n]
  | shape lengths =>
    if (widened? 0 kind).isSome then .error (.notInteger "tuple")
    else if lengths.isEmpty then .ok kind
    else arrays lengths

end Repeats

namespace ElementKind

variable {α : Type}

/-- Whether a character is a mark for the order of bytes. -/
def isMark (c : Char) : Bool := c == '<' || c == '>' || c == '|' || c == '='

/-- An entry of a list: what stands before a code, the code, and what follows. -/
structure Entry where
  first : Option Char
  repeats : List Char
  second : Option Char
  code : List Char
  rest : List Char

/-- The characters at the front of a text that pass a test, one at most. -/
def takeOne (test : Char → Bool) (cs : List Char) : Option Char × List Char :=
  match cs with
  | c :: rest => if test c then (some c, rest) else (none, cs)
  | [] => (none, [])

/-- Reads the number of times at the front of a text. -/
def takeRepeats (cs : List Char) : List Char × List Char :=
  let isItem (c : Char) : Bool := c == ' ' || c == ',' || c.isDigit
  let blanks := cs.takeWhile (· == ' ')
  let (opening?, cs) := takeOne (· == '(') (cs.drop blanks.length)
  let items := cs.takeWhile isItem
  let (closing?, cs) := takeOne (· == ')') (cs.drop items.length)
  let after := cs.takeWhile (· == ' ')
  (blanks ++ opening?.toList ++ items ++ closing?.toList ++ after, cs.drop after.length)

/-- Reads the code at the front of a text, perhaps with a unit in brackets. -/
def takeCode (cs : List Char) : List Char × List Char :=
  let code := cs.takeWhile fun c => c.isAlphanum || c == '.' || c == '?'
  match cs.drop code.length with
  | '[' :: rest =>
    let inside := rest.takeWhile fun c => c.isAlphanum || c == '.' || c == ','
    match rest.drop inside.length with
    | ']' :: rest => (code ++ '[' :: inside ++ [']'], rest)
    | _ => (code, '[' :: rest)
  | rest => (code, rest)

/-- Reads the entry at the front of a text. -/
def Entry.ofText (cs : List Char) : Entry :=
  let (first, cs) := takeOne isMark cs
  let (repeats, cs) := takeRepeats cs
  let (second, cs) := takeOne isMark cs
  let (code, rest) := takeCode cs
  ⟨first, repeats, second, code, rest⟩

/-- The name of the element type of an entry. The usual order of bytes goes without its mark. -/
def Entry.name (e : Entry) : Except (Fault α) String := do
  let usual (c : Char) : Char := if c == '=' then '<' else c
  let mark? ← match e.first, e.second with
    | some a, some b =>
      if usual a = usual b then .ok (some (usual a))
      else .error (.badLayout (.marksDiffer (usual a) (usual b)))
    | first, second => .ok (first.or second)
  return String.ofList (mark?.toList.filter (· == '>') ++ e.code)

/-- The name of the element type of an entry, and how often it is repeated. -/
def Entry.parts (e : Entry) : Except (Fault α) (String × Option Repeats) := do
  let name ← e.name
  if e.repeats.isEmpty then return (name, none)
  else return (name, some (← (Repeats.ofText e.repeats).mapError .badRepeats))

/-- What follows an entry: nothing, or a comma and another entry. -/
def afterComma (cs : List Char) : Option (List Char) :=
  match cs.dropWhile Text.isBlank with
  | [] => some []
  | ',' :: rest => some (rest.dropWhile Text.isBlank)
  | _ => none

/-- Reads the entries of a list, at most `fuel` of them; `number` is that of the first. -/
def entries (text : String) (fuel number : Nat) (cs : List Char) :
    Except (Fault α) (List (String × Option Repeats)) :=
  match fuel, cs with
  | 0, _ | _, [] => .ok []
  | fuel + 1, cs => do
    let e := Entry.ofText cs
    match afterComma e.rest with
    | none => throw (.badLayout (.unread number text))
    | some rest => return (← e.parts) :: (← entries text fuel (number + 1) rest)

/-- The element type that a name and a number of times describe. -/
def ofParts (parts : String × Option Repeats) : Except (Fault α) ElementKind := do
  let kind ← ofSingleName parts.1
  match parts.2 with
  | none => return kind
  | some repeats => repeats.apply kind

/-- The characters of a text that stand outside square brackets. -/
def outside (depth : Int) : List Char → List Char
  | [] => []
  | '[' :: rest => outside (depth + 1) rest
  | ']' :: rest => outside (depth - 1) rest
  | c :: rest => if depth = 0 then c :: outside depth rest else outside depth rest

/-- Whether a text is a list of element types. -/
def isList (cs : List Char) : Bool :=
  let (_, rest) := takeOne isMark cs
  ((rest.head?.map Char.isDigit).getD false) || "()".toList.isPrefixOf rest ||
    (outside 0 cs).contains ','

/-- The element type that a text describes. -/
def ofText (text : String) : Except (Fault α) ElementKind := do
  let cs := text.toList
  if !isList cs then ofSingleName text
  else
    let first := Entry.ofText cs
    let all ← entries text cs.length 1 cs
    match first.rest.dropWhile Text.isBlank, all with
    | [], [only] => ofParts only
    | _, all =>
      let kinds ← all.mapM ofParts
      return ofFields (kinds.zipIdx.map fun (kind, i) => ("f" ++ toString i, kind))

end ElementKind

end Drafting
