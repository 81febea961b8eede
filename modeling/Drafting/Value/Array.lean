import Drafting.Scalar.Binary64
import Drafting.Value.Comparison
import Drafting.Value.ElementRecord
import Drafting.Value.Long
import Drafting.Value.Moment

/-!
# Arrays

An array is built from nested sequences, whose values are converted to the element type.
`Value.group` turns elements back into nested lists.
-/

namespace Drafting.Value

variable {α : Type}

/-- Elements grouped into nested lists of a shape. -/
def group (shape : List Nat) (data : List (Value α)) : Value α :=
  match shape with
  | [] => data.headD .null
  | [_] => list data
  | rows :: inner =>
    let width := Outline.count inner
    list ((List.range rows).map fun i => group inner ((data.drop (i * width)).take width))

/-- The whole number that a value stands for. -/
def wholeElement (v : Value Float) : Except (Fault Float) Int :=
  let shown : String := match v with
    | element kind w => elementShown kind w
    | v => v.shown
  match v.bare with
  | flag b => .ok (if b then 1 else 0)
  | int n => .ok n
  | real x =>
    if x.isNaN then .error (.badElement .undefined)
    else match Float64.wholePart? x with
      | some n => .ok n
      | none => .error (.badElement .infinite)
  | text s =>
    match Numeral.integer? s, v with
    | some n, _ => .ok n
    | none, element .. => .error (.badElement (.badNumeralShown shown))
    | none, _ => .error (.badElement (.badNumeral s))
  | bytes data =>
    match Numeral.integer? (byteChars data) with
    | some n => .ok n
    | none => .error (.badElement (.badNumeralShown shown))
  | v => .error (.badElement (.notWhole v.kindName))

/-- The integer that a real of another array becomes, which is cut off at the point. It is taken out
of a machine word that is at least as wide; a word that has no room for it holds its own least
integer. -/
def storedWhole (isSigned : Bool) (bits : Nat) (x : Float) : Int :=
  let word := if bits = 64 ∨ (bits = 32 ∧ !isSigned) then 64 else 32
  let least : Int := -power 2 (word - 1)
  let n := (Float64.wholePart? x).getD least
  if !isSigned ∧ bits = 64 ∧ -least ≤ n then if n < power 2 64 then n else 0
  else wrapped isSigned bits (if least ≤ n ∧ n < -least then n else least)

/-- An integer of a width in bits. An integer alone has to be within the bounds, any other single
value only within those of a machine word; what comes from another array wraps around. -/
def boundedElement (isSigned : Bool) (bits : Nat) (v : Value Float) :
    Except (Fault Float) (Value Float) := do
  let low : Int := if isSigned then -power 2 (bits - 1) else 0
  let high : Int := if isSigned then power 2 (bits - 1) - 1 else power 2 bits - 1
  let name := (if isSigned then ElementKind.signed bits else .unsigned bits).name
  let inWord (n : Int) : Bool :=
    -power 2 63 ≤ n ∧ (n < power 2 63 ∨ (!isSigned ∧ 32 ≤ bits ∧ n < power 2 64))
  let bounded (n : Int) : Except (Fault Float) (Value Float) :=
    if low ≤ n ∧ n ≤ high then .ok (int n)
    else if -power 2 63 ≤ n ∧ (n < power 2 63 ∨ high = power 2 64 - 1) then
      .error (.badElement (.outOfRange n name))
    else .error (.badElement .tooWide)
  match v with
  | int n => bounded n
  | element _ (real x) => return int (storedWhole isSigned bits x)
  | element _ (complex x _) => return int (storedWhole isSigned bits x)
  | element _ w@(long ..) => return int (storedWhole isSigned bits (← w.toReal))
  | element _ (text _) | element _ (bytes _) => do bounded (← v.wholeElement)
  | element .. => return int (wrapped isSigned bits (← v.wholeElement))
  | v =>
    let n ← v.wholeElement
    if inWord n then return int (wrapped isSigned bits n) else throw (.badElement .tooWide)

/-- The complex number that a text writes: a real number, an imaginary one with a `j`, or both, with
brackets around it or not. -/
def complexOfText? (s : String) : Option (Float × Float) :=
  let real? (cs : List Char) : Option Float :=
    if cs.any Text.isBlank then none
    else (Numeral.ofText? (String.ofList cs)).map Numeral.toFloat
  let imaginary? (cs : List Char) : Option Float :=
    match cs with
    | [] | ['+'] => some 1.0
    | ['-'] => some (-1.0)
    | cs => real? cs
  let trimmed := Text.trim Text.isBlank s.toList
  let inner := match trimmed with
    | '(' :: rest =>
      if rest.getLast? = some ')' then Text.trim Text.isBlank rest.dropLast else trimmed
    | cs => cs
  match inner.getLast? with
  | none => none
  | some last =>
    if last == 'j' || last == 'J' then
      let body := inner.dropLast
      let isSign (i : Nat) : Bool :=
        let c := body.getD i ' '
        let before := body.getD (i - 1) ' '
        (c == '+' || c == '-') && 0 < i && before != 'e' && before != 'E'
      match ((List.range body.length).filter isSign).getLast? with
      | some i => do return (← real? (body.take i), ← imaginary? (body.drop i))
      | none => (imaginary? body).map fun y => (0.0, y)
    else (real? inner).map fun x => (x, 0.0)

/-- A complex number of an array; nothing stands for an undefined one. -/
def complexElement (v : Value Float) : Except (Fault Float) (Float × Float) :=
  match v.bare with
  | null => .ok (0.0 / 0.0, 0.0 / 0.0)
  | complex x y => .ok (x, y)
  | text s =>
    match complexOfText? s with
    | some z => .ok z
    | none => .error .badComplex
  | v@(flag _) | v@(int _) | v@(real _) => do return (← v.toReal, 0.0)
  | v => .error (.notRealNumber v.kindName)

/-- Items without blank ones at the end. -/
def withoutEnd {β : Type} (isBlank : β → Bool) (items : List β) : List β :=
  (items.reverse.dropWhile isBlank).reverse

/-- The bytes of a text, all of whose characters have to be plain ones. -/
def plainBytes (s : String) : Except (Fault Float) (List UInt8) :=
  let isPlain (c : Char) : Bool := c.toNat < 0x80
  match s.toList.dropWhile isPlain with
  | [] => .ok (s.toList.map fun c => c.toNat.toUInt8)
  | bad@(c :: _) =>
    .error (.notPlainText (s.toList.takeWhile isPlain).length
      (bad.takeWhile fun c => !isPlain c).length c)

/-- So many bytes of no type that an array takes over from others. -/
def rawElement (count : Nat) (v : Value Float) : Except (Fault Float) (Value Float) :=
  match v with
  | element _ (bytes data) =>
    .ok (bytes (data.take count ++ List.replicate (count - data.length) 0))
  | v => .error (.notBytes v.kindName)

/-- The bytes that an array of bytes takes over from a value. -/
def bytesElement (v : Value Float) : Except (Fault Float) (List UInt8) :=
  match v.bare with
  | bytes data => .ok data
  | _ => plainBytes v.plain

/-- The text that an array of texts takes over from a value. -/
def textElement (v : Value Float) : String :=
  match v.bare with
  | bytes data => byteChars data
  | _ => v.plain

/-- The flag that an array of flags takes over from a value; a text of another array has to write an
integer. -/
def flagElement (v : Value Float) : Except (Fault Float) Bool :=
  match v with
  | element _ (text _) | element _ (bytes _) => v.wholeElement.map (· != 0)
  | v => .ok v.isTruthy

/-- Whether a value is a sequence and no text. -/
def isItemized : Value Float → Bool
  | list _ | tuple _ | vector .. | array _ (_ :: _) _ => true
  | _ => false

/-- An element of a type that holds no others. -/
def castPlain (kind : ElementKind) (v : Value Float) : Except (Fault Float) (Value Float) :=
  match kind with
  | .binary 128 => v.longElement
  | .binary bits => do return real (Float64.narrow bits (← v.cellReal))
  | .complex bits => do
    let (x, y) ← v.complexElement
    return complex (Float64.narrow (bits / 2) x) (Float64.narrow (bits / 2) y)
  | .signed bits => boundedElement true bits v
  | .unsigned bits => boundedElement false bits v
  | .flag => v.flagElement.map flag
  | .text width =>
    return text (String.ofList (withoutEnd (· == '\x00') (v.textElement.toList.take width)))
  | .bytes width => do return bytes (withoutEnd (· == 0) ((← v.bytesElement).take width))
  | .span count unit => do return int (← v.spanElement count unit)
  | .moment count unit => do return int (← v.momentElement count unit)
  | .raw count => v.rawElement count
  | _ => return match v with
    | element own v => released own v
    | v => v

/-- An element of a type that holds no others, where a sequence may stand in its place. -/
def castSingle (kind : ElementKind) (v : Value Float) : Except (Fault Float) (Value Float) :=
  if v.isItemized && kind.isNumber && kind != .flag then .error .elementSequence
  else match kind with
    | .text _ | .bytes _ =>
      if v.isItemized then .error (.badLayout .sequence) else castPlain kind v
    | _ => castPlain kind v

/-- The values for so many elements beside each other: the items of a tuple, or one value for
all. -/
def itemsFor (count : Nat) (v : Value Float) : Except (Fault Float) (List (Value Float)) :=
  let checked (items : List (Value Float)) : Except (Fault Float) (List (Value Float)) :=
    if items.length = count then .ok items else .error (.tupleLength items.length count)
  match v with
  | tuple items | element _ (tuple items) => checked items
  | vector x y z => checked [x, y, z]
  | v => .ok (List.replicate count v)

/-- Elements that are read from values, spread out to an array of a shape. -/
def spreadElements (shape : List Nat) (cast : Value Float → Except (Fault Float) (Value Float))
    (v : Value Float) : Except (Fault Float) (List (Value Float)) := do
  let o ← Outline.checked (match v with
    | element _ (tuple items) => tuple items
    | v => v)
  let data ← o.leaves.mapM cast
  if Outline.commonShape? o.shape shape = some shape then
    return Outline.spreadTo shape o.shape data
  else throw (.noSpread o.shape shape)

mutual

/-- An element of a type. Of elements beside each other, each takes over an item of a tuple, or the
same single value. -/
def castElement : ElementKind → Value Float → Except (Fault Float) (Value Float)
  | .reversed kind, v | .twin kind, v => castElement kind v
  | .beside _ first rest, v => do
    match ← itemsFor (rest.fieldCount + 1) v with
    | item :: items => return tuple ((← castElement first item) :: (← castItems rest items))
    | [] => return tuple []
  | .gap _ rest, v => do return tuple (← castItems rest (← itemsFor rest.fieldCount v))
  | .ending _, v => do return tuple (← itemsFor 0 v)
  | .repeated shape kind, v => do
    return array kind shape (← spreadElements shape (castElement kind) v)
  | kind, v => castSingle kind v

/-- Elements beside each other, each from the value in its place. -/
def castItems : ElementKind → List (Value Float) → Except (Fault Float) (List (Value Float))
  | .beside _ first rest, item :: items => do
    return (← castElement first item) :: (← castItems rest items)
  | .gap _ rest, items => castItems rest items
  | _, _ => .ok []

end

mutual

/-- The values at a depth inside nested sequences, from left to right. -/
def atDepth (depth : Nat) (v : Value α) : List (Value α) :=
  match depth, v with
  | 0, v => [v]
  | depth + 1, .list items => itemsAtDepth depth items
  | depth + 1, .tuple items => itemsAtDepth depth items
  | depth + 1, .vector x y z => atDepth depth x ++ (atDepth depth y ++ atDepth depth z)
  | _, v => [v]

/-- The values at a depth inside the items of a sequence. -/
def itemsAtDepth (depth : Nat) : List (Value α) → List (Value α)
  | [] => []
  | item :: rest => atDepth depth item ++ itemsAtDepth depth rest

end

mutual

/-- Nested lists in which every tuple counts as a single value. -/
def sealTuples : Value α → Value α
  | list items => list (sealItems items)
  | tuple items => element (.ending false) (tuple items)
  | vector x y z => element (.ending false) (tuple [x, y, z])
  | v => v

/-- Items in which every tuple counts as a single value. -/
def sealItems : List (Value α) → List (Value α)
  | [] => []
  | item :: rest => sealTuples item :: sealItems rest

end

mutual

/-- Nested lists in which a text of more or fewer characters than one is a list of them. -/
def splitTexts : Value α → Value α
  | list items => list (splitItems items)
  | tuple items => list (splitItems items)
  | text s => if s.length = 1 then text s else list (s.toList.map fun c => text (.singleton c))
  | v => v

/-- Items in which a text of more or fewer characters than one is a list of them. -/
def splitItems : List (Value α) → List (Value α)
  | [] => []
  | item :: rest => splitTexts item :: splitItems rest

end

/-- An element type in which values have room: texts, bytes and points in time that have no width or
no unit of their own take on those that the values need. -/
def fitted (kind : ElementKind) (v : Value Float) (leaves : List (Value Float)) : ElementKind :=
  let longest (length : Value Float → Nat) : Nat :=
    let least : Nat := match v with
      | array .anything .. => 1
      | array kind .. => max 1 kind.textWidth
      | _ => 1
    leaves.foldl (fun n leaf => match leaf with
      | element kind _ => max n kind.textWidth
      | leaf => max n (length leaf)) least
  let own : ElementKind := match kind.native with
    | .text 0 => .text (longest fun leaf => leaf.textElement.length)
    | .raw 0 => .raw (if leaves.isEmpty then 8 else longest fun _ => 8)
    | .bytes 0 => .bytes (longest fun
      | bytes data => data.length
      | leaf => leaf.plain.length)
    | .moment count .any =>
      let units := leaves.filterMap fun
        | text s => (Moment.ofText s.toList).toOption.map fun moment => moment.unit
        | _ => none
      match leaves, units with
      | element (.moment count unit) _ :: _, _ => .moment count unit
      | _, [] => .moment count .any
      | _, unit :: rest => .moment count (rest.foldl finer unit)
    | .span count .any =>
      match leaves with
      | element (.span count unit) _ :: _ => .span count unit
      | _ => .span count .any
    | own => own
  match kind with
  | .reversed _ => .reversed own
  | .twin _ => .twin own
  | _ => own

/-- The values that nested sequences hold for elements of a type. -/
def valuesFor (kind : ElementKind) (v : Value α) : Value α :=
  match kind with
  | .twin (.bytes _) => splitTexts v
  | .repeated .. => sealTuples v
  | kind => if kind.isCompound then sealTuples v else v

/-- The array of elements of a type that nested sequences describe. Where their lengths differ, an
array of values of any sort holds the sequences themselves. If each element is an array, the axes of
all of them come last. -/
def arrayOfKind (kind : ElementKind) (v : Value Float) : Except (Fault Float) (Value Float) := do
  let v := valuesFor kind v
  let outline := Outline.ofValue v
  if kind = .anything ∧ outline.isEven = false then
    return array kind outline.shape (atDepth outline.shape.length v)
  else
    let v ← if kind.isVoid ∨ kind = .anything then .ok v else Outline.singled kind v
    let o ← Outline.checked v
    match kind with
    | .repeated shape kind =>
      let kind := fitted kind v o.leaves
      let data ← o.leaves.mapM (spreadElements shape (castElement kind))
      return array kind (o.shape ++ shape) data.flatten
    | kind =>
      let kind := fitted kind v o.leaves
      return array kind o.shape (← o.leaves.mapM (castElement kind))

/-- The array that nested sequences describe, with elements of a type that is given as a value; if
none is given, the values decide. -/
def arrayOf (type v : Value Float) : Except (Fault Float) (Value Float) := do
  match type, v with
  | null, array .. => return v
  | null, v => do
    let o ← Outline.checked v
    arrayOfKind (.ofLeaves o.leaves) v
  | type, v => arrayOfKind (← ElementKind.ofValue type) v

/-- The length of an axis, which has to fit a machine word. -/
def axisLength (v : Value Float) : Except (Fault Float) Int :=
  match v, v.integer? with
  | flag _, _ => .error .flagLength
  | _, some n => if -power 2 63 ≤ n ∧ n < power 2 63 then .ok n else .error .lengthTooLarge
  | _, none => .error (.notInteger v.kindName)

/-- How many bytes an array of doubles may take. -/
def memoryLimit : Nat := power 2 34

/-- The shape that lengths make, of which none may be negative, for an array of doubles that fits
into memory. Axes without items do not count as long as the others fit a machine word. -/
def shapeOf (lengths : List Int) : Except (Fault Float) (List Nat) :=
  let shape := lengths.map Int.toNat
  if lengths.any (· < 0) then .error .negativeLength
  else if power 2 63 ≤ 8 * Outline.count (shape.filter (· != 0)) then .error .arrayTooLarge
  else if memoryLimit ≤ 8 * Outline.count shape then .error (.noArrayMemory shape)
  else .ok shape

/-- The array of zeros of a shape that is given as one length or as a sequence of lengths. -/
def zeros (v : Value Float) : Except (Fault Float) (Value Float) := do
  let lengths ← match v with
    | list items | tuple items => items.mapM axisLength
    | text _ => do (← v.items).mapM axisLength
    | int n => do pure [← axisLength (int n)]
    | v => throw (.noShape v)
  let shape ← shapeOf lengths
  return array (.binary 64) shape (List.replicate (Outline.count shape) (real 0.0))

end Drafting.Value
