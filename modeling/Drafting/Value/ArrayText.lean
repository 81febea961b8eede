import Drafting.Value.ElementText

/-!
# Texts of arrays

The elements of an array are written as cells, which are set in rows between brackets, one row on a
line and no line longer than a limit. The full text adds the element type where it is not the usual
one for such elements. The cells of values of any sort are given from outside.
-/

namespace Drafting.Value

variable {α : Type} [Scalar α]

/-- A line of cells that has been begun, after the lines before it. -/
structure Rows where
  done : String
  line : String

/-- One more cell; it starts a new line if the line would become too long. -/
def Rows.add (width : Nat) (indent : String) (rows : Rows) (cell : String) : Rows :=
  if width < rows.line.length + cell.length && indent.length < rows.line.length then
    let kept := (rows.line.toList.reverse.dropWhile (· == ' ')).reverse
    ⟨rows.done ++ String.ofList kept ++ "\n", indent ++ cell⟩
  else ⟨rows.done, rows.line ++ cell⟩

/-- Cells along one axis. -/
def lineText (separator indent : String) (width : Nat) : List String → String
  | [] => ""
  | cells =>
    let before := cells.dropLast.foldl (fun rows cell =>
      let rows := Rows.add (width - 1) indent rows cell
      ⟨rows.done, rows.line ++ separator⟩) (Rows.mk "" indent)
    let rows := Rows.add (width - 1) indent before (cells.getLastD "")
    rows.done ++ rows.line

/-- Of how many elements an array may be that is written in full. -/
def fullLimit : Nat := 1000

/-- How many items are written at each end of an axis of an array that is not written in full. -/
def edgeItems : Nat := 3

/-- Whether items in the middle of an axis are left out. -/
def isCut (cuts : Bool) (length : Nat) : Bool := cuts && 2 * edgeItems < length

/-- The items at the ends of a list. -/
def edges {β : Type} (items : List β) : List β :=
  items.take edgeItems ++ items.drop (items.length - edgeItems)

/-- The elements that are written of an array. -/
def shownElements {β : Type} (cuts : Bool) (shape : List Nat) (data : List β) : List β :=
  match shape with
  | [] => data
  | n :: inner =>
    let size := inner.foldl (· * ·) 1
    let rows := (List.range n).map fun i => (data.drop (i * size)).take size
    (if isCut cuts n then edges rows else rows).flatMap (shownElements cuts inner)

/-- How many items are written along an axis. -/
def shownLength (cuts : Bool) (length : Nat) : Nat :=
  if isCut cuts length then 2 * edgeItems else length

/-- Texts along an axis with a mark for those that are left out. -/
def marked (isCut : Bool) (mark : String) (texts : List String) : List String :=
  if isCut then texts.take edgeItems ++ mark :: texts.drop edgeItems else texts

/-- Cells in nested brackets; every row after the first is set in by one blank more than the bracket
around it. -/
def nestedText (cuts : Bool) (separator indent : String) (width : Nat) (shape : List Nat)
    (cells : List String) : String :=
  let bare (s : String) : String := String.ofList (s.toList.drop indent.length)
  match shape with
  | [] => cells.headD ""
  | [n] => "[" ++ bare (lineText separator indent width (marked (isCut cuts n) "..." cells)) ++ "]"
  | rows :: inner =>
    let size := (inner.map (shownLength cuts)).foldl (· * ·) 1
    let blocks := (List.range (shownLength cuts rows)).map fun i =>
      let own := (cells.drop (i * size)).take size
      indent ++ nestedText cuts separator (indent ++ " ") (width - 1) inner own
    let mark := String.ofList (separator.toList.reverse.dropWhile (· == ' ')).reverse
    "[" ++ bare ((mark ++ "".pushn '\n' inner.length).intercalate
      (marked (isCut cuts rows) (indent ++ "...") blocks)) ++ "]"

/-- The greatest length of a line. -/
def lineWidth : Nat := 75

/-- Elements in nested brackets, of which there are some. -/
def bracketText (separator indent : String) (width : Nat) (kind : ElementKind)
    (shape : List Nat) (data : List (Value α)) (own : List String) : String :=
  let cuts := decide (fullLimit < data.length)
  let shown := match kind with
    | .anything => shownElements cuts shape own
    | kind => cells ⟨!shape.isEmpty, false⟩ kind (shownElements cuts shape data)
  nestedText cuts separator indent width shape shown

/-- An array as text; `own` are the cells of values of any sort. -/
def arrayText (kind : ElementKind) (shape : List Nat) (data : List (Value α))
    (own : List String) : String :=
  match shape, data with
  | _, [] => "[]"
  | [], v :: _ => match kind with
    | .anything => own.headD ""
    | kind => elementText kind.native v
  | shape, data => bracketText " " " " lineWidth kind shape data own

/-- The length of the last line of a text. -/
def lastLineLength (s : String) : Nat := (s.toList.reverse.takeWhile (· != '\n')).length

/-- An array with its name and, where they do not go without saying, its shape and its element type;
these start a new line if the line would become too long. -/
def arrayShown (kind : ElementKind) (shape : List Nat) (data : List (Value α))
    (own : List String) : String :=
  let shapeParts :=
    if fullLimit < data.length || (data.isEmpty && shape != [0]) then
      ["shape=" ++ shapeText shape]
    else []
  let kindParts :=
    if kind.isUsual && !data.isEmpty then [] else ["dtype=" ++ kind.quotedName]
  let body := if data.isEmpty then "array([]"
    else "array(" ++ bracketText ", " "       " (lineWidth - 1) kind shape data own
  match shapeParts ++ kindParts with
  | [] => body ++ ")"
  | parts =>
    let extra := ", ".intercalate parts ++ ")"
    let isLong := lineWidth < lastLineLength (body ++ ",") + extra.length + 1
    body ++ "," ++ (if isLong then "\n      " else " ") ++ extra

end Drafting.Value
