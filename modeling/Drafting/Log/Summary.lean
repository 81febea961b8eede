import Drafting.Decimal.Numeral
import Drafting.Value.Arithmetic
import Drafting.Value.Array
import Drafting.Value.Quoted

/-!
# Short texts of values

Log lines show arguments and results in a short form: of a long sequence or record only the first
items, of a long text or number the two ends, of an array its shape and range.
-/

namespace Drafting.Log

/-- How much of a value is shown. -/
structure Limits where
  /-- The greatest number of items of a sequence, record or array; of a sequence, a negative number
  leaves so many items out at the end. -/
  items : Int := 6
  /-- The greatest length of the text of a single value; a negative number leaves so many characters
  out at the end. -/
  length : Int := 300

/-- The limits of what is inside a value. -/
def Limits.inner : Limits := ⟨6, 300⟩

/-- The front of a list up to a limit; a negative limit leaves so many items out at the end. -/
def upTo {β : Type} (limit : Int) (xs : List β) : List β :=
  xs.take (if limit < 0 then (xs.length + limit).toNat else limit.toNat)

/-- The last characters of a text, `count` of them; of a shorter text as many as it falls short of
that count, or all it has. -/
def ending (count : Nat) (cs : List Char) : List Char :=
  if count ≤ cs.length then cs.drop (cs.length - count) else cs.drop (2 * cs.length - count)

/-- The two ends of a long text around an ellipsis, so that `limit` characters remain. -/
def abridge (limit : Nat) (s : String) : String :=
  let cs := s.toList
  if cs.length ≤ limit then s
  else
    let front := (limit - 3) / 2
    let back := limit - 3 - front
    String.ofList (cs.take front ++ "...".toList ++ ending back cs)

/-- The greatest length of a quoted text. -/
def textLimit : Nat := 80

/-- The greatest length of an integer. -/
def integerLimit : Nat := 40

/-- The greatest length of any other text. -/
def otherLimit : Nat := 120

/-- The greatest number of items of a nested list inside an array. -/
def nestedLimit : Nat := 8

/-- How many levels of nested lists inside an array are shown. -/
def nestedDepth : Nat := 6

/-- A quoted text, abridged. -/
def abridgeQuoted (s : String) : String :=
  let cs := s.toList
  let quoted := Text.quoted (String.ofList (cs.take textLimit))
  if quoted.length ≤ textLimit then quoted
  else
    let front := (textLimit - 3) / 2
    let back := textLimit - 3 - front
    let ends := (Text.quoted (String.ofList (cs.take front ++ ending back cs))).toList
    String.ofList (ends.take front ++ "...".toList ++ ending back ends)

/-- What stands for an integer with too many digits. -/
def longIntegerText : String :=
  s!"<repr-error ValueError('Exceeds the limit ({Numeral.maxIntegerDigits} digits) for integer " ++
    "string conversion; use sys.set_int_max_str_digits() to increase the limit')>"

/-- The text of a single value. -/
def single : Value Float → String
  | .text s => abridgeQuoted s
  | .int n => if Numeral.isTooLong n then longIntegerText else abridge integerLimit (toString n)
  | v => abridge otherLimit v.shown

/-- The first fields of a record in the order of their names. -/
def firstFields (fields : List (String × Value Float)) : List (String × Value Float) :=
  (fields.mergeSort fun f g =>
    (List.decidableLE (Text.codes f.1) (Text.codes g.1)).decide).take nestedLimit

/-- The first entries of a record in the order of their names, if they have one. -/
def firstEntries (entries : List (Value Float × Value Float)) :
    List (Value Float × Value Float) :=
  let isLess (v w : Value Float) : Option Bool := (v.isLess w).toOption
  let sorted :=
    if entries.all fun e => entries.all fun f => (isLess e.1 f.1).isSome then
      entries.mergeSort fun e f => isLess f.1 e.1 != some true
    else entries
  sorted.take nestedLimit

/-- Items in a bracket, of which the first are shown. -/
def bracketed (opening closing : String) (count : Nat) (shown : List String) : String :=
  let shown := if nestedLimit < count then shown ++ ["..."] else shown
  opening ++ ", ".intercalate shown ++ closing

/-- Nested lists, tuples and records inside an array, to a depth. -/
def nestedText (depth : Nat) (v : Value Float) : String :=
  match depth, v with
  | _, .list [] => "[]"
  | _, .tuple [] => "()"
  | _, .record [] | _, .mapping [] => "\x7b\x7d"
  | 0, .list _ => "[...]"
  | 0, .tuple [_] => "(...,)"
  | 0, .tuple _ => "(...)"
  | 0, .record _ | 0, .mapping _ => "\x7b...\x7d"
  | depth + 1, .list items =>
    bracketed "[" "]" items.length ((items.take nestedLimit).map (nestedText depth))
  | depth + 1, .tuple [item] => "(" ++ nestedText depth item ++ ",)"
  | depth + 1, .tuple items =>
    bracketed "(" ")" items.length ((items.take nestedLimit).map (nestedText depth))
  | depth + 1, .record fields =>
    bracketed "\x7b" "\x7d" fields.length ((firstFields fields).map fun (name, item) =>
      abridgeQuoted name ++ ": " ++ nestedText depth item)
  | depth + 1, .mapping entries =>
    bracketed "\x7b" "\x7d" entries.length ((firstEntries entries).map fun (name, item) =>
      nestedText depth name ++ ": " ++ nestedText depth item)
  | _, v => single v

/-- Whether an element of a type is a number or a time at all. -/
def isDefined (kind : ElementKind) : Value Float → Bool
  | .real x => x.isFinite
  | .complex x y => x.isFinite && y.isFinite
  | .int n => !(kind.isTime && n == Value.noTime)
  | _ => true

/-- The finite numbers among elements of a type; of a complex one only the real part counts. -/
def finiteNumbers (kind : ElementKind) (data : List (Value Float)) : List Float :=
  (data.filter (isDefined kind)).filterMap fun
    | .real x => some x
    | .complex x _ => some x
    | .int n => Float64.ofInt? n
    | v@(.long ..) => v.toReal.toOption
    | _ => none

/-- The least and the greatest number of a list. -/
def range? : List Float → Option (Float × Float)
  | [] => none
  | x :: rest =>
    some (rest.foldl (fun (low, high) y => (Scalar.lesser low y, Scalar.greater high y)) (x, x))

/-- Whether the elements of an array are numbers. -/
def isNumeric (kind : ElementKind) : Bool :=
  match kind.native with
  | .flag => false
  | .span .. => true
  | kind => kind.isNumber

/-- The style of the ends of a range. -/
def rangeStyle : Decimal.Style := .general 6

/-- An array: its shape and element type, and its elements or their range. -/
def arraySummary (limits : Limits) (element : ElementKind) (shape : List Nat)
    (data : List (Value Float)) : String :=
  let head := "ndarray(shape=" ++ Value.shapeText shape ++ ", dtype=" ++ element.name
  if data.isEmpty then head ++ ")"
  else if data.length ≤ limits.items then
    let released := data.map (Value.released element)
    head ++ ", values=" ++ nestedText nestedDepth (Value.group shape released) ++ ")"
  else if !isNumeric element then head ++ ")"
  else match range? (finiteNumbers element data) with
    | none => head ++ ", all non-finite)"
    | some (low, high) =>
      head ++ ", min=" ++ rangeStyle.text low ++ ", max=" ++ rangeStyle.text high ++ ")"

/-- A text that is cut off after the given length. -/
def cutOff (length : Int) (s : String) : String :=
  if length < s.length then String.ofList (upTo length s.toList) ++ "..." else s

/-- Says that a sequence or record goes on. -/
def goesOn (count : Nat) : String := "... (" ++ toString count ++ " total)"

/-- The items of a sequence that are shown. -/
def shownItems (limit : Int) (items : List String) : List String :=
  upTo limit items ++ (if limit < items.length then [goesOn items.length] else [])

/-- The fields of a record that are shown. -/
def shownFields (limit : Int) (fields : List String) : List String :=
  fields.take limit.toNat ++ (if limit.toNat < fields.length then [goesOn fields.length] else [])

mutual

/-- A value in short. -/
def summary (limits : Limits) : Value Float → String
  | .array element shape data => arraySummary limits element shape data
  | .object _ _ (.text brief) => brief
  | .record fields =>
    let shown := fieldSummaries fields
    "\x7b" ++ ", ".intercalate (shownFields limits.items shown) ++ "\x7d"
  | .mapping entries =>
    let shown := entrySummaries entries
    "\x7b" ++ ", ".intercalate (shownFields limits.items shown) ++ "\x7d"
  | .list items => "[" ++ ", ".intercalate (shownItems limits.items (itemSummaries items)) ++ "]"
  | .tuple items => "(" ++ ", ".intercalate (shownItems limits.items (itemSummaries items)) ++ ")"
  | v => cutOff limits.length (single v)

/-- The items of a sequence in short. -/
def itemSummaries : List (Value Float) → List String
  | [] => []
  | item :: rest => summary .inner item :: itemSummaries rest

/-- The fields of a record in short. -/
def fieldSummaries : List (String × Value Float) → List String
  | [] => []
  | (name, item) :: rest =>
    (cutOff Limits.inner.length (abridgeQuoted name) ++ ": " ++ summary .inner item) ::
      fieldSummaries rest

/-- The entries of a record in short. -/
def entrySummaries : List (Value Float × Value Float) → List String
  | [] => []
  | (name, item) :: rest =>
    (summary .inner name ++ ": " ++ summary .inner item) :: entrySummaries rest

end

/-- Arguments in short: those by position, then those by name. -/
def callText (arguments : List (Value Float)) (named : List (String × Value Float)) : String :=
  let parts := arguments.map (summary .inner) ++
    named.map fun argument => argument.1 ++ "=" ++ summary .inner argument.2
  if parts.isEmpty then "no-args" else ", ".intercalate parts

end Drafting.Log
