import Drafting.Scalar
import Drafting.Table.Basic

/-!
# Dynamic values

What a sketch file, an option or a call argument can hold before it is checked: nothing, a flag, an
integer of any size, a number, a text, sequences, records in field order, vectors and arrays.
`Value.mapping` is a record in which not every name is a text; `Value.ofEntries` makes the one or
the other. `Value.long` is a number that is too fine or too large for the usual precision.
`Value.element` is what has been taken out of an array and still has the type it had there.
`Value.object` stands for a thing that is no data, known by the name of its kind and by its text.
-/

namespace Drafting

/-- The units that times are counted in. -/
inductive TimeUnit where
  | year
  | month
  | week
  | day
  | hour
  | minute
  | second
  /-- A second divided by a power of a thousand. -/
  | fraction (power : Nat)
  /-- No unit in particular. -/
  | any
  deriving DecidableEq, Repr

/-- The element type of an array: numbers of a width in bits, flags, texts and bytes of a greatest
length, times counted in a number of units, several elements beside each other, or values of any
sort. -/
inductive ElementKind where
  | binary (bits : Nat)
  | complex (bits : Nat)
  | signed (bits : Nat)
  | unsigned (bits : Nat)
  | flag
  | text (width : Nat)
  | bytes (width : Nat)
  /-- Lengths of time. -/
  | span (count : Nat) (unit : TimeUnit)
  /-- Points in time. -/
  | moment (count : Nat) (unit : TimeUnit)
  /-- Elements whose bytes are stored from the highest to the lowest. -/
  | reversed (kind : ElementKind)
  /-- An element with a name, followed by others. -/
  | beside (name : String) (first rest : ElementKind)
  /-- So many bytes without a meaning, followed by elements with names. -/
  | gap (bytes : Nat) (rest : ElementKind)
  /-- The end of elements beside each other; each of them may start at a multiple of its
  alignment. -/
  | ending (isAligned : Bool)
  /-- An array of a shape at each element. -/
  | repeated (shape : List Nat) (kind : ElementKind)
  /-- Elements of a type under another name. -/
  | twin (kind : ElementKind)
  /-- So many bytes of no type. -/
  | raw (count : Nat)
  | anything
  deriving DecidableEq, Repr

/-- An element type under its usual name with its bytes in the usual order. -/
def ElementKind.native : ElementKind → ElementKind
  | reversed kind | twin kind => kind
  | kind => kind

/-- Whether elements are single numbers or flags. -/
def ElementKind.isNumber : ElementKind → Bool
  | binary _ | complex _ | signed _ | unsigned _ | flag => true
  | reversed kind | twin kind => kind.isNumber
  | _ => false

/-- Whether elements are lengths of time or points in time. -/
def ElementKind.isTime : ElementKind → Bool
  | span .. | moment .. => true
  | reversed kind | twin kind => kind.isTime
  | _ => false

/-- Whether elements are made up of elements beside each other. -/
def ElementKind.isCompound : ElementKind → Bool
  | beside .. | gap .. | ending _ => true
  | _ => false

/-- Whether elements are of no single type. -/
def ElementKind.isVoid : ElementKind → Bool
  | raw _ => true
  | kind => kind.isCompound

/-- The name of what is taken out of an array with elements of a type. -/
def ElementKind.itemName : ElementKind → String
  | binary 128 => "longdouble"
  | complex 256 => "clongdouble"
  | binary bits => "float" ++ toString bits
  | complex bits => "complex" ++ toString bits
  | signed bits => "int" ++ toString bits
  | unsigned bits => "uint" ++ toString bits
  | flag => "bool"
  | text _ => "str_"
  | bytes _ => "bytes_"
  | span .. => "timedelta64"
  | moment .. => "datetime64"
  | beside .. | gap .. | ending _ | raw _ => "void"
  | reversed kind | twin kind | repeated _ kind => kind.itemName
  | anything => "object"

/-- What stands for a thing that is no data in a short text: its full text, or a text of its own.
There is none where that text asks for the truth of an array that is empty or has several
elements. -/
inductive Brief where
  | full
  | text (s : String)
  | unclear (isEmpty : Bool)
  deriving DecidableEq, Repr

/-- Unchecked data over numbers of type `α`. -/
inductive Value (α : Type) where
  | null
  | flag (b : Bool)
  | int (n : Int)
  | real (x : α)
  | complex (re im : α)
  /-- The number `significand * 2 ^ exponent`, negated or not, where it is none of the type `α`. -/
  | long (negative : Bool) (significand : Nat) (exponent : Int)
  | text (s : String)
  | bytes (data : List UInt8)
  | list (items : List (Value α))
  | tuple (items : List (Value α))
  | record (fields : List (String × Value α))
  | mapping (entries : List (Value α × Value α))
  | vector (x y z : Value α)
  | array (element : ElementKind) (shape : List Nat) (data : List (Value α))
  | element (kind : ElementKind) (v : Value α)
  | object (kind shown : String) (brief : Brief)

namespace Value

variable {α : Type}

instance : Inhabited (Value α) := ⟨null⟩

/-- The name of a value's kind without the module that it comes from. -/
def shortKindName : Value α → String
  | null => "NoneType"
  | flag _ => "bool"
  | int _ => "int"
  | real _ | long .. => "float"
  | complex .. => "complex"
  | text _ => "str"
  | bytes _ => "bytes"
  | list _ => "list"
  | tuple _ => "tuple"
  | record _ | mapping _ => "dict"
  | vector .. => "Vec3"
  | array .. => "ndarray"
  | element kind _ => kind.itemName
  | object kind .. => kind

/-- The name of a value's kind, as messages give it. -/
def kindName : Value α → String
  | array .. => "numpy.ndarray"
  | element kind _ => "numpy." ++ kind.itemName
  | v => v.shortKindName

/-- A value without the element type that it had in an array. -/
def bare : Value α → Value α
  | element _ v => v
  | v => v

/-- Whether a value that holds no others counts as true: nothing, zero and what is empty do not. -/
def isTruthySingle [Scalar α] : Value α → Bool
  | null => false
  | flag b => b
  | int n => n != 0
  | real x => !Scalar.isZero x
  | complex x y => !Scalar.isZero x || !Scalar.isZero y
  | text s => !s.isEmpty
  | bytes data => !data.isEmpty
  | list items => !items.isEmpty
  | tuple items => !items.isEmpty
  | record fields => !fields.isEmpty
  | mapping entries => !entries.isEmpty
  | _ => true

mutual

/-- Whether an element of an array counts as true; of elements beside each other one has to. -/
def isTruthyElement [Scalar α] : Value α → Bool
  | tuple items => anyTruthyElement items
  | array _ _ data => anyTruthyElement data
  | v => v.isTruthySingle

/-- Whether one of the elements of an array counts as true. -/
def anyTruthyElement [Scalar α] : List (Value α) → Bool
  | [] => false
  | v :: rest => isTruthyElement v || anyTruthyElement rest

end

/-- Whether a value counts as true: nothing, zero and all that is empty do not. -/
def isTruthy [Scalar α] : Value α → Bool
  | array .anything _ data => data.any isTruthySingle
  | array _ _ data => anyTruthyElement data
  | element _ v => v.isTruthyElement
  | v => v.isTruthySingle

/-- The text that a value is, also where it has been taken out of an array. -/
def text? : Value α → Option String
  | text s | element _ (text s) => some s
  | _ => none

/-- The entries whose names are texts. -/
def textFields (entries : List (Value α × Value α)) : List (String × Value α) :=
  entries.filterMap fun (name, v) => name.text?.map fun s => (s, v)

/-- The fields of a record by which they can be asked for: those whose names are texts. -/
def fields? : Value α → Option (List (String × Value α))
  | record fields => some fields
  | mapping entries => some (textFields entries)
  | _ => none

/-- All that a record holds, with names as values. -/
def entries? : Value α → Option (List (Value α × Value α))
  | record fields => some (fields.map fun field => (text field.1, field.2))
  | mapping entries => some entries
  | _ => none

/-- A name as that of a field, if it is a plain text. -/
def fieldOf? : Value α × Value α → Option (String × Value α)
  | (text s, v) => some (s, v)
  | _ => none

/-- Values by names of any sort. -/
def ofEntries (entries : List (Value α × Value α)) : Value α :=
  match entries.mapM fieldOf? with
  | some fields => record fields
  | none => mapping entries

/-- Whether a value is a record. -/
def isRecord (v : Value α) : Bool := v.fields?.isSome

end Value

/-- The value of a field, by its name. -/
def field? {α : Type} (fields : List (String × Value α)) (name : String) : Option (Value α) :=
  fields.lookup name

/-- The value of a field, or nothing where the field is absent. -/
def fieldOrNull {α : Type} (fields : List (String × Value α)) (name : String) : Value α :=
  (fields.lookup name).getD .null

end Drafting
