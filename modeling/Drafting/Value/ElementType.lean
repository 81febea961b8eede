import Drafting.Fault

/-!
# Names of element types

An element type is given by a full name, by a letter, or by a letter and a size in bytes; the last
two may have a mark for the order of bytes before them. Times have their unit in brackets.
-/

namespace Drafting

namespace ElementKind

/-- The element types by their full names. -/
def named : List (List String × ElementKind) :=
  [(["float64", "float", "double"], binary 64), (["float32", "single"], binary 32),
    (["float16", "half"], binary 16), (["complex128", "complex", "cdouble"], complex 128),
    (["complex64", "csingle"], complex 64), (["longdouble", "float128"], binary 128),
    (["clongdouble", "complex256"], complex 256),
    (["int64", "int", "int_", "intp", "long"], signed 64), (["longlong"], twin (signed 64)),
    (["int32", "intc"], signed 32), (["int16", "short"], signed 16), (["int8", "byte"], signed 8),
    (["uint64", "uint", "uintp", "ulong", "ulonglong"], unsigned 64),
    (["uint32", "uintc"], unsigned 32), (["uint16", "ushort"], unsigned 16),
    (["uint8", "ubyte"], unsigned 8), (["bool", "bool_"], flag),
    (["str", "str_", "unicode"], text 0), (["bytes", "bytes_"], bytes 0),
    (["object", "object_"], anything), (["void"], raw 0)]

/-- The element types by their letters. -/
def lettered : List (List Char × ElementKind) :=
  [(['d'], binary 64), (['f'], binary 32), (['e'], binary 16), (['D'], complex 128),
    (['F'], complex 64), (['g'], binary 128), (['G'], complex 256),
    (['l', 'p', 'n'], signed 64), (['q'], twin (signed 64)), (['i'], signed 32),
    (['h'], signed 16), (['b'], signed 8), (['L', 'Q', 'P', 'N'], unsigned 64),
    (['I'], unsigned 32), (['H'], unsigned 16), (['B'], unsigned 8), (['?'], flag),
    (['O'], anything), (['U'], text 0), (['S', 'a'], bytes 0), (['c'], twin (bytes 1)),
    (['V'], raw 0), (['m'], span 1 .any), (['M'], moment 1 .any)]

/-- The element types by the letter of their sort, with the size of an element in bytes. -/
def sized : List (Char × List Nat × (Nat → ElementKind)) :=
  [('f', [2, 4, 8, 16], fun size => binary (8 * size)), ('c', [8, 16, 32], fun size =>
      complex (8 * size)), ('i', [1, 2, 4, 8], fun size => signed (8 * size)),
    ('u', [1, 2, 4, 8], fun size => unsigned (8 * size)), ('b', [1], fun _ => flag),
    ('O', [4, 8], fun _ => anything), ('m', [8], fun _ => span 1 .any),
    ('M', [8], fun _ => moment 1 .any)]

/-- The element type with a key in a table. -/
def lookup? {κ : Type} [BEq κ] (table : List (List κ × ElementKind)) (key : κ) :
    Option ElementKind :=
  (table.find? fun entry => entry.1.contains key).map Prod.snd

/-- The unit of time with a name. -/
def unitOfName? (name : String) : Option TimeUnit :=
  let units : List TimeUnit := [.year, .month, .week, .day, .hour, .minute, .second, .fraction 1,
    .fraction 2, .fraction 3, .fraction 4, .fraction 5, .fraction 6, .any]
  if name = "μs" then some (.fraction 2) else units.find? fun unit => unit.name == name

variable {α : Type}

/-- The finer units of time, and how many of them make up a unit. -/
def finerUnits : TimeUnit → List (Nat × TimeUnit)
  | .year => [(12, .month), (52, .week), (365, .day)]
  | .month => [(4, .week), (30, .day), (720, .hour)]
  | .week => [(7, .day), (168, .hour), (10080, .minute)]
  | .day => [(24, .hour), (1440, .minute), (86400, .second)]
  | .hour => [(60, .minute), (3600, .second)]
  | .minute => [(60, .second), (60000, .fraction 1)]
  | .second => [(1000, .fraction 1), (1000000, .fraction 2)]
  | .fraction power =>
    [(1000, .fraction (power + 1)), (1000000, .fraction (power + 2))].take (6 - power)
  | .any => []

/-- A number of units divided by a number, as a number of finer units. -/
def dividedUnits (text : String) (count : Nat) (unit : TimeUnit) (divisor : Nat) :
    Except (Fault α) (Nat × TimeUnit) :=
  if unit = .any then .error .anyDivided
  else match (finerUnits unit).find? fun finer => finer.1 % divisor = 0 with
    | some (multiple, finer) => .ok (count * (multiple / divisor), finer)
    | none => .error (.badDivisor divisor text)

/-- The number of units of time that is written inside brackets, perhaps with a divisor; `text` is
all of what stands there with the brackets. -/
def unitsInside (text : String) (inside : List Char) : Except (Fault α) (Nat × TimeUnit) :=
  let digits := inside.takeWhile Char.isDigit
  let count := if digits.isEmpty then 1 else Numeral.digitsValue digits
  let rest := inside.dropWhile Char.isDigit
  let name := rest.takeWhile (· != '/')
  let after := rest.dropWhile (· != '/')
  let fault (left : Nat) : Fault α := .badTimeText text (inside.length + 1 - left)
  if name.isEmpty then .error (fault rest.length)
  else match unitOfName? (String.ofList name) with
    | none => .error (.badTimeUnit text)
    | some unit =>
      if count = 0 then .error (.badTimeUnit text)
      else
        let divisor := (after.drop 1).takeWhile Char.isDigit
        if after.isEmpty then .ok (count, unit)
        else if Numeral.digitsValue divisor = 0 then .error (fault (after.length - 1))
        else if Numeral.digitsValue divisor = 1 then .ok (count, unit)
        else dividedUnits text count unit (Numeral.digitsValue divisor)

/-- The number of units of time in brackets, or no unit in particular where there is nothing. -/
def unitsOf (cs : List Char) : Except (Fault α) (Nat × TimeUnit) :=
  let text := String.ofList cs
  match cs with
  | [] => .ok (1, .any)
  | '[' :: rest =>
    let inside := rest.takeWhile (· != ']')
    if inside.length = rest.length then .error (.badTimeText text cs.length)
    else do
      let units ← unitsInside text inside
      if inside.length + 1 < rest.length then throw (.badTimeText text (inside.length + 2))
      return units
  | _ => .error (.badTimeText text 1)

/-- A size with blanks before it and a sign that is no minus. -/
def sizeOfText? (cs : List Char) : Option Nat :=
  let digits := match cs.dropWhile Text.isAsciiBlank with
    | '+' :: digits => digits
    | digits => digits
  if digits.isEmpty || !digits.all Char.isDigit then none else some (Numeral.digitsValue digits)

/-- The element type of a sort and a size. -/
def ofSize? (sort : Char) (size : Nat) : Option ElementKind :=
  match sort with
  | 'U' => some (text size)
  | 'S' | 'a' => some (bytes size)
  | 'V' => some (raw size)
  | sort => do
    let (_, sizes, kind) ← sized.find? fun entry => entry.1 == sort
    if sizes.contains size then some (kind size) else none

/-- The element type that a code writes: times with their units, a letter, or a letter and a
size. -/
def ofCode? (cs : List Char) : Option (Except (Fault α) ElementKind) :=
  let times (letters : List Char) (kind : Nat → TimeUnit → ElementKind) :
      Option (Except (Fault α) ElementKind) :=
    if letters.isPrefixOf cs then
      some ((unitsOf (cs.drop letters.length)).map fun (count, unit) => kind count unit)
    else none
  times "m8".toList span <|> times "M8".toList moment <|>
    times "timedelta64".toList span <|> times "datetime64".toList moment <|>
    match cs with
    | [letter] => (lookup? lettered letter).map .ok
    | sort :: size => ((sizeOfText? size).bind (ofSize? sort)).map .ok
    | [] => none

/-- The element type with its bytes in the other order. -/
def turned (kind : ElementKind) : ElementKind :=
  if kind.hasByteOrder then reversed kind.native else kind

/-- The element type with a name, or with a code after a mark for the order of its bytes. -/
def ofSingleName (name : String) : Except (Fault α) ElementKind :=
  let cs := name.toList
  let unknown : Except (Fault α) ElementKind := .error (.noElementKind name)
  match lookup? named name, cs with
  | some kind, _ => .ok kind
  | none, '>' :: code => ((ofCode? code).getD unknown).map turned
  | none, '<' :: code | none, '=' :: code | none, '|' :: code => (ofCode? code).getD unknown
  | none, code => (ofCode? code).getD unknown

/-- Names and types of elements that stand beside each other without room between them. -/
def ofFields (fields : List (String × ElementKind)) : ElementKind :=
  fields.foldr (fun field rest => beside field.1 field.2 rest) (ending false)

end ElementKind

end Drafting
