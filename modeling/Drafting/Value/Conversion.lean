import Drafting.Fault

/-!
# Values as numbers, truths and lists

A value becomes a number if it is one, if it is a flag, or if it is a text that writes one. A value
becomes a list of items if it is a sequence, a text (its characters) or a record (its names).
-/

namespace Drafting.Value

variable {α : Type} [Scalar α]

/-- The number nearest to an integer. -/
def ofIntOrFault (n : Int) : Except (Fault α) α :=
  match Scalar.ofInt? n with
  | some x => .ok x
  | none => .error .tooLarge

/-- The number that a text writes. -/
def numeralReal (fault : Fault α) (s : String) : Except (Fault α) α :=
  match Numeral.ofText? s with
  | some numeral => .ok (Scalar.ofNumeral numeral)
  | none => .error fault

/-- Bytes as a text with one character for each. -/
def byteChars (data : List UInt8) : String := String.ofList (data.map fun b => Char.ofNat b.toNat)

/-- The number that bytes write, which have to be plain ones. -/
def bytesReal (fault : Fault α) (data : List UInt8) : Except (Fault α) α :=
  if data.all (· < 0x80) then numeralReal fault (byteChars data) else .error fault

/-- The number that a single value stands for. -/
def singleReal : Value α → Except (Fault α) α
  | flag b => ofIntOrFault (if b then 1 else 0)
  | int n => ofIntOrFault n
  | real x => .ok x
  | long negative m q => .ok (Scalar.ofNumeral (.ofBinary negative m q))
  | text s => numeralReal (.badNumeral s) s
  | bytes data => bytesReal (.badNumeralShown (bytesText data)) data
  | v => .error (.notNumber v.kindName)

/-- The number that an element stands for; of a complex number only the real part counts. -/
def elementReal (kind : ElementKind) (v : Value α) : Except (Fault α) α :=
  let fault : Fault α := .badNumeralShown (elementShown kind v)
  match v with
  | complex re _ => .ok re
  | text s => numeralReal fault s
  | bytes data => bytesReal fault data
  | v => (released kind v).bare.singleReal

/-- The number that a value stands for; an array stands for its element if it has no axes. -/
def toReal : Value α → Except (Fault α) α
  | array kind [] [v] => (released kind v).bare.singleReal
  | array .. => .error .notScalar
  | element kind v => elementReal kind v
  | v => v.singleReal

/-- The number that an array of numbers takes over from a value: nothing stands for an undefined
one, and a time for how many units it counts. -/
def cellReal : Value α → Except (Fault α) α
  | null => .ok (Scalar.ofNumeral .undefined)
  | element kind (int n) =>
    if kind.isTime ∧ n = noTime then .ok (Scalar.ofNumeral .undefined) else ofIntOrFault n
  | v => v.toReal

/-- The number that a value stands for, where nothing stands for none. -/
def toReal? : Value α → Except (Fault α) (Option α)
  | null => .ok none
  | v => v.toReal.map some

/-- A value as a factor of a number. -/
def factor : Value α → Except (Fault α) α
  | flag b => ofIntOrFault (if b then 1 else 0)
  | int n => ofIntOrFault n
  | real x => .ok x
  | text _ | bytes _ | list _ | tuple _ | vector .. => .error (.notRepeatable "float")
  | array _ [] [v] => v.singleReal
  | v => .error (.noOperator "*" v.kindName "float")

/-- The value that an array is used as where one number is asked for: its only element. -/
def only : Value α → Except (Fault α) (Value α)
  | array _ _ [] => .error (.ambiguous true)
  | array _ _ [v] => .ok v
  | array .. => .error (.ambiguous false)
  | v => .ok v

/-- The fault of comparing a number of a kind with a value that is none. An array is compared from
its own side, element by element. -/
def unordered (symbol reverse kind : String) : Value α → Fault α
  | array _ _ (item :: _) => .notOrdered reverse item.kindName kind
  | v => .notOrdered symbol kind v.kindName

/-- Demands that the elements of an array can be compared with a number. -/
def requireComparable (operation : ArrayOperation) (number : OperandType) :
    Value α → Except (Fault α) Unit
  | array kind _ _ =>
    if kind.isNumber || kind = .anything then .ok ()
    else .error (.noArrayOperation operation [.strong kind.native, number])
  | _ => .ok ()

/-- How often a loop runs that counts up from zero while it is below a value. -/
def iterationCap (v : Value α) : Except (Fault α) Nat := do
  v.requireComparable .greater .weakInteger
  match ← v.only with
  | flag b => return if b then 1 else 0
  | int n => return n.toNat
  | real x => return Scalar.ceil x
  | complex re _ => return Scalar.ceil re
  | _ => throw (v.unordered "<" ">" "int")

/-- A value as the greatest number to be content with; an integer between two numbers counts as the
lower one, which no number tells apart from it. -/
def bound (v : Value α) : Except (Fault α) α := do
  v.requireComparable .greaterEqual .weakReal
  match ← v.only with
  | flag b => ofIntOrFault (if b then 1 else 0)
  | int n => return Scalar.ofIntBelow n
  | real x => return x
  | complex re _ => return re
  | _ => throw (v.unordered "<=" ">=" "float")

/-- Whether a value counts as true; an array does if its only element does, or one of those beside
each other at it. -/
def truth : Value α → Except (Fault α) Bool
  | array _ _ [] => .error (.ambiguous true)
  | array .anything _ [v] => .ok v.isTruthySingle
  | array _ _ [v] => .ok v.isTruthyElement
  | array .. => .error (.ambiguous false)
  | v => .ok v.isTruthy

/-- The text by which a value is looked up in a set of names, if it has one; an array is compared by
its only element. -/
def lookupText? : Value α → Except (Fault α) (Option String)
  | text s => .ok (some s)
  | array kind _ data =>
    if kind.isVoid then .error .compound
    else match data with
      | [] => .error (.ambiguous true)
      | [text s] => .ok (some s)
      | [_] => .ok none
      | _ => .error (.ambiguous false)
  | element _ (text s) => .ok (some s)
  | _ => .ok none

/-- The one of named things that a value names. -/
def member {β : Type} (set : NameSet) (all : List β) (name : β → String) (v : Value α) :
    Except (Fault α) β := do
  match (← v.lookupText?).bind fun s => all.find? fun x => name x == s with
  | some x => return x
  | none => throw (.notMember v set)

/-- What is taken out of an array with elements of a type. -/
def taken (kind : ElementKind) (v : Value α) : Value α :=
  match kind with
  | .anything => v
  | kind => element kind.native v

/-- The items of an array along its first axis: its elements, or its rows. -/
def arrayItems (kind : ElementKind) (shape : List Nat) (data : List (Value α)) :
    List (Value α) :=
  match shape with
  | rows :: inner@(_ :: _) =>
    let width := inner.foldl (· * ·) 1
    (List.range rows).map fun i => array kind inner ((data.drop (i * width)).take width)
  | _ => data.map (taken kind)

/-- The items of a value that has items. -/
def items : Value α → Except (Fault α) (List (Value α))
  | text s => .ok (s.toList.map fun c => text (String.singleton c))
  | list items => .ok items
  | tuple items => .ok items
  | record fields => .ok (fields.map fun field => text field.1)
  | mapping entries => .ok (entries.map Prod.fst)
  | vector x y z => .ok [x, y, z]
  | bytes data => .ok (data.map fun b => int b.toNat)
  | element _ (text s) => .ok (s.toList.map fun c => text (String.singleton c))
  | element _ (bytes data) => .ok (data.map fun b => int b.toNat)
  | array _ [] _ => .error .noAxis
  | array kind shape data => .ok (arrayItems kind shape data)
  | v => .error (.notIterable v.kindName)

end Drafting.Value
