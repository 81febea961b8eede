import Drafting.Text.Quoted
import Drafting.Value.Basic

/-!
# Written element types

Every element type has a name and a short code. Where elements stand beside each other, the names
and the codes of all of them are listed; bytes between them, or before each other out of the usual
places, call for a longer form with the place of each element and the size of all.
-/

namespace Drafting

/-- The name of a unit of time. -/
def TimeUnit.name : TimeUnit → String
  | year => "Y"
  | month => "M"
  | week => "W"
  | day => "D"
  | hour => "h"
  | minute => "m"
  | second => "s"
  | fraction power => ["s", "ms", "us", "ns", "ps", "fs", "as"].getD power "s"
  | any => "generic"

/-- The unit of time in the plural. -/
def TimeUnit.plural : TimeUnit → String
  | year => "years"
  | month => "months"
  | week => "weeks"
  | day => "days"
  | hour => "hours"
  | minute => "minutes"
  | second => "seconds"
  | fraction power => ["seconds", "milliseconds", "microseconds", "nanoseconds", "picoseconds",
      "femtoseconds", "attoseconds"].getD power "seconds"
  | any => "generic time units"

/-- The lengths of an array along its axes. -/
def Value.shapeText : List Nat → String
  | [n] => "(" ++ toString n ++ ",)"
  | shape => "(" ++ ", ".intercalate (shape.map toString) ++ ")"

/-- A text without brackets around it. -/
def Value.unbracketed (s : String) : String :=
  if s.startsWith "(" && s.endsWith ")" then String.ofList (s.toList.drop 1).dropLast else s

namespace ElementKind

/-- The next multiple of an alignment. -/
def alignUp (alignment n : Nat) : Nat := (n + alignment - 1) / alignment * alignment

/-- How many bytes an element takes up. -/
def size : ElementKind → Nat
  | binary bits | complex bits | signed bits | unsigned bits => bits / 8
  | flag => 1
  | text width => 4 * width
  | bytes width => width
  | raw count => count
  | span .. | moment .. | anything => 8
  | beside _ first rest => first.size + rest.size
  | gap count rest => count + rest.size
  | ending _ => 0
  | repeated shape kind => shape.foldl (· * ·) 1 * kind.size
  | reversed kind | twin kind => kind.size

/-- Whether elements beside each other each start at a multiple of their alignment. -/
def isAligned : ElementKind → Bool
  | beside _ _ rest | gap _ rest => rest.isAligned
  | ending isAligned => isAligned
  | _ => false

/-- What the place of an element in memory is a multiple of. -/
def alignment : ElementKind → Nat
  | flag | bytes _ | raw _ | ending _ => 1
  | text _ => 4
  | complex bits => bits / 16
  | beside _ first rest => if rest.isAligned then max first.alignment rest.alignment else 1
  | gap _ rest => rest.alignment
  | repeated _ kind | reversed kind | twin kind => kind.alignment
  | kind => kind.size

/-- The names and the types of elements beside each other. -/
def fields : ElementKind → List (String × ElementKind)
  | beside name first rest => (name, first) :: rest.fields
  | gap _ rest => rest.fields
  | _ => []

/-- How many elements stand beside each other. -/
def fieldCount (kind : ElementKind) : Nat := kind.fields.length

/-- The places of elements beside each other, of which the first so many bytes are taken up. -/
def offsets (taken : Nat) : ElementKind → List Nat
  | beside _ first rest => taken :: rest.offsets (taken + first.size)
  | gap count rest => rest.offsets (taken + count)
  | _ => []

/-- Whether elements stand as close to each other as their alignment lets them, after so many bytes,
and so do the elements of an array of them; `most` is the greatest alignment so far. -/
def isPackedFrom (aligned : Bool) (most taken : Nat) : List Nat → List ElementKind → Nat → Bool
  | place :: places, kind :: kinds, size =>
    let start := if aligned then alignUp kind.alignment taken else taken
    place == start &&
      isPackedFrom aligned (max most kind.alignment) (start + kind.size) places kinds size
  | _, _, size => (if aligned then alignUp most taken else taken) == size

/-- Whether there is no more room than needed around elements beside each other. -/
def isPacked (kind : ElementKind) : Bool :=
  isPackedFrom kind.isAligned 1 0 (kind.offsets 0) (kind.fields.map Prod.snd) kind.size

/-- A number of units of time in the name of an element type. -/
def unitText (count : Nat) (unit : TimeUnit) : String :=
  if unit = .any then ""
  else "[" ++ (if count = 1 then "" else toString count) ++ unit.name ++ "]"

/-- Whether the elements of a type have an order of bytes. -/
def hasByteOrder : ElementKind → Bool
  | flag | bytes _ | raw _ | anything => false
  | signed bits | unsigned bits => bits != 8
  | twin kind => kind.hasByteOrder
  | kind => !kind.isCompound

/-- The short code of an element type without the order of its bytes. -/
def code : ElementKind → String
  | binary bits => "f" ++ toString (bits / 8)
  | complex bits => "c" ++ toString (bits / 8)
  | signed bits => "i" ++ toString (bits / 8)
  | unsigned bits => "u" ++ toString (bits / 8)
  | flag => "?"
  | text width => "U" ++ if width = 0 then "" else toString width
  | bytes width => "S" ++ if width = 0 then "" else toString width
  | span count unit => "m8" ++ unitText count unit
  | moment count unit => "M8" ++ unitText count unit
  | reversed kind | twin kind | repeated _ kind => kind.code
  | beside .. | gap .. | ending _ => "V"
  | raw count => "V" ++ if count = 0 then "" else toString count
  | anything => "O"

/-- The code of an element type with a mark for the order of its bytes, if they have one. -/
def markedCode : ElementKind → String
  | reversed kind => ">" ++ kind.code
  | kind => (if kind.hasByteOrder then "<" else "") ++ kind.code

/-- Elements beside each other, given the codes of their types. The longer form has the place of
each; alignment is told on demand, which calls for that form. -/
def compoundText (tellsAligned : Bool) (kind : ElementKind) (codes : List String) : String :=
  let names := kind.fields.map fun field => Text.quoted field.1
  let commas := ", ".intercalate
  let isTold := tellsAligned && kind.isAligned
  if !isTold && kind.isPacked then
    "[" ++ commas (List.zipWith (fun (name, _, part) code =>
      "(" ++ name ++ ", " ++ (match part with
        | repeated .. => Value.unbracketed code
        | _ => code) ++ ")") (names.zip kind.fields) codes) ++ "]"
  else
    "\x7b'names': [" ++ commas names ++ "], 'formats': [" ++ commas codes ++ "], 'offsets': [" ++
      commas ((kind.offsets 0).map toString) ++ "], 'itemsize': " ++ toString kind.size ++
      (if isTold then ", 'aligned': True" else "") ++ "\x7d"

mutual

/-- An element type among others. -/
def partText : ElementKind → String
  | beside name first rest =>
    compoundText false (beside name first rest) (partText first :: partTexts rest)
  | gap count rest => compoundText false (gap count rest) (partTexts rest)
  | ending isAligned => compoundText false (ending isAligned) []
  | repeated shape kind => "(" ++ partText kind ++ ", " ++ Value.shapeText shape ++ ")"
  | kind => "'" ++ kind.markedCode ++ "'"

/-- The types of elements beside each other. -/
def partTexts : ElementKind → List String
  | beside _ first rest => partText first :: partTexts rest
  | gap _ rest => partTexts rest
  | _ => []

end

/-- The name of an element type. -/
def name : ElementKind → String
  | text width => "<U" ++ toString width
  | bytes width => "|S" ++ toString width
  | raw count => "|V" ++ toString count
  | span count unit => "timedelta64" ++ unitText count unit
  | moment count unit => "datetime64" ++ unitText count unit
  | binary 128 => "float128"
  | complex 256 => "complex256"
  | reversed kind => ">" ++ kind.code
  | twin kind => kind.name
  | kind => if kind.isCompound then compoundText true kind (partTexts kind) else kind.itemName

/-- The name of an element type beside an array; it is quoted where it holds more than letters and
digits. -/
def quotedName (kind : ElementKind) : String :=
  if kind.isCompound || kind.name.toList.all Char.isAlphanum then kind.name
  else "'" ++ kind.name ++ "'"

/-- Whether the element type of an array goes without saying. -/
def isUsual : ElementKind → Bool
  | binary 64 => true
  | complex 128 => true
  | signed 64 => true
  | flag => true
  | _ => false

end ElementKind

end Drafting
