import Drafting.Decimal.Columns
import Drafting.Value.ElementName

/-!
# Texts of elements

The texts of the elements of an array: alone, as they stand beside each other in a row, and as what
has been taken out of the array.
-/

namespace Drafting

namespace Value

variable {α : Type} [Scalar α]

/-- The text of a flag. -/
def flagText (b : Bool) : String := if b then "True" else "False"

/-- A byte as it stands in quoted bytes. -/
def byteText (quote : Char) (b : UInt8) : List Char :=
  let c := Char.ofNat b.toNat
  if c == quote || c == '\\' then ['\\', c]
  else if c == '\n' then ['\\', 'n']
  else if c == '\t' then ['\\', 't']
  else if c == '\r' then ['\\', 'r']
  else if 0x20 ≤ b && b < 0x7f then [c]
  else '\\' :: 'x' :: Text.hex 2 b.toNat

/-- Bytes with quotes around them. -/
def bytesText (data : List UInt8) : String :=
  let quote := Text.quoteFor (String.ofList (data.map fun b => Char.ofNat b.toNat))
  String.ofList ('b' :: quote :: data.flatMap (byteText quote) ++ [quote])

/-- Bytes of no type, each as its two digits. -/
def rawText (data : List UInt8) : String :=
  "b'" ++ String.join (data.map fun b =>
    "\\x" ++ String.ofList ((Text.hex 2 b.toNat).map Char.toUpper)) ++ "'"

/-- The text of a number without a bare zero after the point. -/
def wholeText (s : String) : String :=
  if s.endsWith ".0" then String.ofList (s.toList.take (s.length - 2)) else s

/-- The text of a number of a width in bits. -/
def narrowText (bits : Nat) (x : α) : String :=
  match Scalar.binary? x with
  | some exact => (Decimal.Style.shortest (.ofWidth bits)).render exact
  | none => Scalar.text x

/-- A complex number of a width in bits; only a real part that is zero without a sign goes without
saying. -/
def complexText (bits : Nat) (re im : α) : String :=
  let part (x : α) : String := wholeText (narrowText (bits / 2) x)
  let imaginary := part im ++ "j"
  if part re == "0" then imaginary
  else "(" ++ part re ++ (if imaginary.startsWith "-" then "" else "+") ++ imaginary ++ ")"

/-- The first day of a year, counted from the beginning of 1970. -/
def daysBeforeYear (year : Int) : Int :=
  let y := year - 1
  y * 365 + y.fdiv 4 - y.fdiv 100 + y.fdiv 400 - 719162

/-- Whether a year has a leap day. -/
def isLeapYear (year : Int) : Bool :=
  year % 4 == 0 && (year % 100 != 0 || year % 400 == 0)

/-- How many days the months of a year have. -/
def monthLengths (year : Int) : List Nat :=
  [31, if isLeapYear year then 29 else 28, 31, 30, 31, 30, 31, 31, 30, 31, 30, 31]

/-- How many days of a year the first so many months have. -/
def daysBeforeMonth (year : Int) (months : Nat) : Nat :=
  ((monthLengths year).take months).foldl (· + ·) 0

/-- The year that a day is in, counted from the beginning of 1970. -/
def yearOfDay (day : Int) : Int :=
  let guess := 1970 + (day * 400).fdiv 146097
  if day < daysBeforeYear guess then guess - 1
  else if daysBeforeYear (guess + 1) ≤ day then guess + 1
  else guess

/-- The month and the day of the month, given a day of the year and the lengths of months. -/
def monthOfDay (month : Nat) (day : Nat) : List Nat → Nat × Nat
  | [] => (month, day + 1)
  | length :: rest =>
    if day < length then (month, day + 1) else monthOfDay (month + 1) (day - length) rest

/-- A natural number with zeros before it up to a length. -/
def paddedNumber (length n : Nat) : String :=
  let s := toString n
  "".pushn '0' (length - s.length) ++ s

/-- A year with four characters at least. -/
def yearText (year : Int) : String :=
  if year < 0 then "-" ++ paddedNumber 3 year.natAbs else paddedNumber 4 year.natAbs

/-- A day, counted from the beginning of 1970. -/
def dayParts (day : Int) : Int × Nat × Nat :=
  let year := yearOfDay day
  let (month, date) := monthOfDay 1 (day - daysBeforeYear year).toNat (monthLengths year)
  (year, month, date)

/-- The text of a day. -/
def dayText (day : Int) : String :=
  let (year, month, date) := dayParts day
  yearText year ++ "-" ++ paddedNumber 2 month ++ "-" ++ paddedNumber 2 date

/-- How many of a unit of time make up a day. -/
def unitsPerDay : TimeUnit → Nat
  | .hour => 24
  | .minute => 1440
  | .second => 86400
  | .fraction exponent => 86400 * Drafting.power 1000 exponent
  | _ => 1

/-- The count that stands for no time. -/
def noTime : Int := -power 2 63

/-- The text of a point in time, given as so many units since the beginning of 1970. -/
def momentText (unit : TimeUnit) (n : Int) : String :=
  if n = noTime ∨ unit = .any then "NaT"
  else
    let ofDays (perDay : Nat) : String × Nat := (dayText (n.fdiv perDay), (n.fmod perDay).toNat)
    match unit with
    | .year => yearText (1970 + n)
    | .month => yearText (1970 + n.fdiv 12) ++ "-" ++ paddedNumber 2 ((n.fmod 12).toNat + 1)
    | .week => dayText (n * 7)
    | .hour =>
      let (day, rest) := ofDays 24
      day ++ "T" ++ paddedNumber 2 rest
    | .minute =>
      let (day, rest) := ofDays 1440
      day ++ "T" ++ paddedNumber 2 (rest / 60) ++ ":" ++ paddedNumber 2 (rest % 60)
    | .second | .fraction _ =>
      let perSecond := unitsPerDay unit / 86400
      let (day, rest) := ofDays (unitsPerDay unit)
      let seconds := rest / perSecond
      let digits := (toString perSecond).length - 1
      day ++ "T" ++ paddedNumber 2 (seconds / 3600) ++ ":" ++
        paddedNumber 2 (seconds / 60 % 60) ++ ":" ++ paddedNumber 2 (seconds % 60) ++
        (if digits = 0 then "" else "." ++ paddedNumber digits (rest % perSecond))
    | _ => dayText n

/-- The text of an element that holds no others. -/
def singleText (kind : ElementKind) : Value α → String
  | null => "None"
  | flag b => flagText b
  | int n =>
    match kind with
    | .span .. => if n = noTime then "NaT" else toString n
    | .moment count unit => momentText unit (if n = noTime then n else n * count)
    | _ => toString n
  | real x =>
    match kind with
    | .binary bits => narrowText bits x
    | _ => Scalar.text x
  | long negative m q => (Decimal.Style.shortest (.ofWidth 128)).render (.finite negative m q)
  | complex re im =>
    match kind with
    | .complex bits => complexText bits re im
    | _ => complexText 128 re im
  | text s => Text.quoted s
  | bytes data =>
    match kind with
    | .raw _ => rawText data
    | _ => bytesText data
  | object _ s _ => s
  | _ => "..."

/-- A thing that is no data, made by a call with arguments. -/
def made (name : String) (arguments : List String) : Value α :=
  object name (name ++ "(" ++ ", ".intercalate arguments ++ ")") .full

/-- The greatest number of days in a length of time that is a thing of its own. -/
def maxDays : Int := 999999999

/-- A length of time in microseconds as a thing of its own, or the count that stands for it if it is
too long. -/
def spanObject (count microseconds : Int) : Value α :=
  let perDay : Nat := 86400000000
  let day := microseconds.fdiv perDay
  let rest := microseconds.fmod perDay
  let parts := [("days", day), ("seconds", rest / 1000000), ("microseconds", rest % 1000000)]
  if day < -maxDays ∨ maxDays < day then int count
  else match parts.filter fun part => part.2 != 0 with
    | [] => made "datetime.timedelta" ["0"]
    | parts => made "datetime.timedelta" (parts.map fun (name, n) => name ++ "=" ++ toString n)

/-- A day as a thing of its own. -/
def dayObject (day : Int) : Value α :=
  let (year, month, date) := dayParts day
  made "datetime.date" [toString year, toString month, toString date]

/-- A point in time, in microseconds since the beginning of 1970, as a thing of its own. -/
def momentObject (microseconds : Int) : Value α :=
  let perDay : Nat := 86400000000
  let (year, month, date) := dayParts (microseconds.fdiv perDay)
  let rest := microseconds.fmod perDay
  let seconds := rest / 1000000
  let fraction := rest % 1000000
  let clock := [seconds / 3600, seconds / 60 % 60] ++
    (if seconds % 60 = 0 ∧ fraction = 0 then [] else [seconds % 60]) ++
    (if fraction = 0 then [] else [fraction])
  made "datetime.datetime" ([toString year, toString month, toString date] ++ clock.map toString)

/-- The first day that a point in time lies in, counted from the beginning of 1970. -/
def dayOf (unit : TimeUnit) (n : Int) : Int :=
  match unit with
  | .year => daysBeforeYear (1970 + n)
  | .month =>
    let year := 1970 + n.fdiv 12
    daysBeforeYear year + daysBeforeMonth year (n.fmod 12).toNat
  | .week => n * 7
  | unit => n.fdiv (unitsPerDay unit)

/-- Whether times in a unit are things of their own outside an array, and not bare counts. -/
def isTimed : TimeUnit → Bool
  | .any => false
  | .fraction exponent => exponent ≤ 2
  | _ => true

/-- A single element as it is outside the array; only numbers of the greatest precision keep their
type. -/
def releasedSingle (kind : ElementKind) (v : Value α) : Value α :=
  match kind, v with
  | .binary 128, v | .complex 256, v => element kind v
  | .span count unit, int n =>
    if n = noTime then null
    else if !isTimed unit || unit = .year || unit = .month then int n
    else match unit with
      | .week => spanObject n (n * count * 7 * 86400000000)
      | unit => spanObject n (n * count * (86400000000 / unitsPerDay unit))
  | .moment count unit, int n =>
    if n = noTime then null
    else
      let n := n * count
      let day := dayOf unit n
      if !isTimed unit || day < daysBeforeYear 1 || daysBeforeYear 10000 ≤ day then int n
      else match unit with
        | .year | .month | .week | .day => dayObject day
        | unit => momentObject (n * (86400000000 / unitsPerDay unit))
  | _, v => v

/-- The items beside each other at an element. -/
def itemsBeside : Value α → List (Value α)
  | tuple items => items
  | _ => []

mutual

/-- An element as it is outside the array. -/
def released : ElementKind → Value α → Value α
  | .reversed kind, v | .twin kind, v => released kind v
  | .beside _ first rest, v =>
    match v with
    | tuple (item :: items) => tuple (released first item :: releasedItems rest items)
    | v => v
  | .gap _ rest, v => tuple (releasedItems rest v.itemsBeside)
  | kind, v => releasedSingle kind v

/-- Elements beside each other as they are outside the array. -/
def releasedItems : ElementKind → List (Value α) → List (Value α)
  | .beside _ first rest, item :: items => released first item :: releasedItems rest items
  | .gap _ rest, items => releasedItems rest items
  | _, items => items

end

/-- A text with blanks before it up to a length. -/
def alignedTo (length : Nat) (s : String) : String := "".pushn ' ' (length - s.length) ++ s

/-- Texts with blanks before them, all of one length. -/
def alignRight (texts : List String) : List String :=
  texts.map (alignedTo (texts.foldl (fun n s => max n s.length) 0))

/-- The exact value of a number, if it is a binary one. -/
def binary? : Value α → Option Binary64
  | real x => Scalar.binary? x
  | long negative m q => some (.finite negative m q)
  | _ => none

/-- The texts of numbers of a width in bits beside each other, perhaps with a plus where there is no
minus. -/
def realCells (plus : Bool) (bits : Nat) (data : List (Value α)) : List String :=
  match data.mapM binary? with
  | some values => Decimal.columns plus (.ofWidth bits) values
  | none => data.map (singleText (.binary bits))

/-- A text with the sign of an imaginary part before the blanks after it. -/
def imaginaryText (s : String) : String :=
  let blanks := (s.toList.reverse.takeWhile (· == ' ')).length
  String.ofList (s.toList.take (s.length - blanks)) ++ "j" ++ "".pushn ' ' blanks

/-- The texts of times beside each other; those of no time are quoted. -/
def timeCells (kind : ElementKind) (quote : String) (data : List (Value α)) : List String :=
  alignRight (data.map fun
    | int n => if n = noTime then "'NaT'" else quote ++ singleText kind (int n : Value α) ++ quote
    | v => singleText kind v)

/-- How elements are written: whether they stand along an axis, where flags are all of one length,
and whether reals are not lined up with each other. -/
structure CellStyle where
  hasAxes : Bool
  isLoose : Bool := false

/-- The texts of single elements beside each other. -/
def singleCells (style : CellStyle) (kind : ElementKind) (data : List (Value α)) : List String :=
  match kind with
  | .binary bits =>
    if style.isLoose then data.map (singleText kind) else realCells false bits data
  | .complex bits =>
    let parts := data.filterMap fun
      | complex re im => some (re, im)
      | _ => none
    List.zipWith (· ++ ·) (realCells false (bits / 2) (parts.map fun part => real part.1))
      ((realCells true (bits / 2) (parts.map fun part => real part.2)).map imaginaryText)
  | .signed _ | .unsigned _ => alignRight (data.map (singleText kind))
  | .flag => data.map fun v => alignedTo (if style.hasAxes then 5 else 0) (singleText kind v)
  | .span .. => timeCells kind "" data
  | .moment .. => timeCells kind "'" data
  | _ => data.map (singleText kind)

/-- The texts of items beside each other, in brackets. -/
def besideText : List String → String
  | [only] => "(" ++ only ++ ",)"
  | texts => "(" ++ ", ".intercalate texts ++ ")"

/-- The texts of so many elements, given those of their items column by column. -/
def rowTexts (count : Nat) (columns : List (List String)) : List String :=
  (List.range count).map fun row => besideText (columns.map fun column => column.getD row "")

/-- Texts of the elements of an array of a shape in nested brackets. -/
def gridText (shape : List Nat) (cells : List String) : String :=
  match shape with
  | [] => cells.headD ""
  | rows :: inner =>
    let size := inner.foldl (· * ·) 1
    "[" ++ ", ".intercalate ((List.range rows).map fun i =>
      gridText inner ((cells.drop (i * size)).take size)) ++ "]"

/-- The elements of the array at an element. -/
def elementsInside : Value α → List (Value α)
  | array _ _ data => data
  | v => [v]

mutual

/-- The texts of elements, one below the other. -/
def cells (style : CellStyle) : ElementKind → List (Value α) → List String
  | .reversed kind, data | .twin kind, data => cells style kind data
  | .beside _ first rest, data =>
    let rows := data.map itemsBeside
    rowTexts data.length (cells style first (rows.map fun items => items.headD null) ::
      columns style rest (rows.map List.tail))
  | .gap _ rest, data => rowTexts data.length (columns style rest (data.map itemsBeside))
  | .ending _, data => rowTexts data.length []
  | .repeated shape kind, data =>
    let size := shape.foldl (· * ·) 1
    let inside := cells { style with hasAxes := style.hasAxes || !shape.isEmpty } kind
      (data.flatMap elementsInside)
    (List.range data.length).map fun i => gridText shape ((inside.drop (i * size)).take size)
  | kind, data => singleCells style kind data

/-- The texts of items beside each other, item by item. -/
def columns (style : CellStyle) : ElementKind → List (List (Value α)) → List (List String)
  | .beside _ first rest, rows =>
    cells style first (rows.map fun items => items.headD null) ::
      columns style rest (rows.map List.tail)
  | .gap _ rest, rows => columns style rest rows
  | _, _ => []

end

/-- What has been taken out of an array, as text. -/
def elementText (kind : ElementKind) (v : Value α) : String :=
  match kind, v with
  | _, text s => s
  | .span count unit, int n =>
    if n = noTime then "NaT" else toString (n * count) ++ " " ++ unit.plural
  | kind, v =>
    if kind.isCompound then (cells ⟨false, true⟩ kind [v]).headD "" else singleText kind v

/-- The unit of a time that has been taken out of an array, after the time. -/
def unitShown (count : Nat) (unit : TimeUnit) : String :=
  ",'" ++ (if count = 1 then "" else toString count) ++ unit.name ++ "'"

/-- What has been taken out of an array, with its type. The text of a point in time goes without its
unit where that follows from the text. -/
def elementShown (kind : ElementKind) (v : Value α) : String :=
  match kind, v with
  | .flag, v => "np." ++ singleText kind v ++ "_"
  | .span count unit, int n =>
    "np.timedelta64(" ++ (if n = noTime then "'NaT'" else toString n) ++
      (if unit = .any then "" else unitShown count unit) ++ ")"
  | .moment count unit, v =>
    let isNone := match v with
      | int n => decide (n = noTime)
      | _ => false
    let isPlain := unit = .any ∨ (count = 1 ∧ unit ≠ .hour ∧ !isNone)
    "np.datetime64('" ++ singleText kind v ++ "'" ++
      (if isPlain then "" else unitShown count unit) ++ ")"
  | .binary 128, v | .complex 256, v =>
    "np." ++ kind.itemName ++ "('" ++ unbracketed (singleText kind v) ++ "')"
  | .complex _, v => "np." ++ kind.itemName ++ "(" ++ unbracketed (singleText kind v) ++ ")"
  | kind, v =>
    if kind.isCompound then "np.void(" ++ elementText kind v ++ ", dtype=" ++ kind.name ++ ")"
    else "np." ++ kind.itemName ++ "(" ++ singleText kind v ++ ")"

end Value

end Drafting
