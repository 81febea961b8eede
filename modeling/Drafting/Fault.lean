import Drafting.Decimal.Bytes
import Drafting.Value.Quoted

/-!
# Faults

Everything that can be wrong with a value, a record or a request, as causes. `Fault.message` holds
the wording of each cause.
-/

namespace Drafting

/-- The sorts of records that a sketch is read from. -/
inductive RecordSort where
  | entity
  | constraint
  | point
  | unknown
  deriving DecidableEq, Repr

/-- The name of a sort of record. -/
def RecordSort.name : RecordSort → String
  | entity => "entity"
  | constraint => "constraint"
  | point => "point"
  | unknown => "variable"

/-- The closed sets of names that values are looked up in. -/
inductive NameSet where
  | entityKind
  | variableKind
  | solveMethod
  deriving DecidableEq, Repr

/-- The name of a closed set of names. -/
def NameSet.name : NameSet → String
  | entityKind => "EntityKind"
  | variableKind => "VariableKind"
  | solveMethod => "SolveMethod"

/-- The two groups of solver options. -/
inductive OptionGroup where
  | descent
  | newton
  deriving DecidableEq, Repr

/-- The name of a group of options. -/
def OptionGroup.name : OptionGroup → String
  | descent => "SolverOptions"
  | newton => "Solver2DOptions"

/-- The operations on the elements of arrays. -/
inductive ArrayOperation where
  | add
  | subtract
  | multiply
  | negative
  | absolute
  | less
  | lessEqual
  | greater
  | greaterEqual
  | equal
  deriving DecidableEq, Repr

/-- The name of an operation on arrays. -/
def ArrayOperation.name : ArrayOperation → String
  | add => "add"
  | subtract => "subtract"
  | multiply => "multiply"
  | negative => "negative"
  | absolute => "absolute"
  | less => "less"
  | lessEqual => "less_equal"
  | greater => "greater"
  | greaterEqual => "greater_equal"
  | equal => "equal"

/-- Whether an operation compares its operands. -/
def ArrayOperation.compares : ArrayOperation → Bool
  | less | lessEqual | greater | greaterEqual | equal => true
  | _ => false

/-- The sign of a comparison. -/
def ArrayOperation.symbol : ArrayOperation → String
  | less => "<"
  | lessEqual => "<="
  | greater => ">"
  | greaterEqual => ">="
  | _ => "=="

/-- A comparison with its sides exchanged. -/
def ArrayOperation.flipped : ArrayOperation → ArrayOperation
  | less => greater
  | lessEqual => greaterEqual
  | greater => less
  | greaterEqual => lessEqual
  | operation => operation

/-- The type of an operand of an operation on arrays. A number alone gives way to the type of an
array. -/
inductive OperandType where
  | strong (kind : ElementKind)
  | weakInteger
  | weakReal
  | weakComplex
  deriving DecidableEq, Repr

namespace OperandType

/-- The element type that an operand has by itself. -/
def kind : OperandType → ElementKind
  | strong kind => kind
  | weakInteger => .signed 64
  | weakReal => .binary 64
  | weakComplex => .complex 128

/-- The name of the class of element types that an operand belongs to. -/
def className : OperandType → String
  | weakInteger => "_PyLongDType"
  | weakReal => "_PyFloatDType"
  | weakComplex => "_PyComplexDType"
  | strong (.twin _) => "LongLongDType"
  | strong kind =>
    let capital (front rest : String) (bits : Nat) : String := front ++ rest ++ toString bits
    (match kind.native with
      | .binary 128 => "LongDouble"
      | .complex 256 => "CLongDouble"
      | .binary bits => capital "F" "loat" bits
      | .complex bits => capital "C" "omplex" bits
      | .signed bits => capital "I" "nt" bits
      | .unsigned bits => capital "UI" "nt" bits
      | .flag => "Bool"
      | .text _ => "Str"
      | .bytes _ => "Bytes"
      | .span .. => "TimeDelta64"
      | .moment .. => "DateTime64"
      | .anything => "Object"
      | _ => "Void") ++ "DType"

/-- An operand type as comparisons, and operations with one operand, name it. -/
def classText (type : OperandType) : String := "<class 'numpy.dtypes." ++ type.className ++ "'>"

/-- An operand type as any other operation names it. -/
def typeText (type : OperandType) : String :=
  match type.kind with
  | .anything => "dtype('O')"
  | .bytes width => "dtype('S" ++ toString width ++ "')"
  | kind@(.span ..) | kind@(.moment ..) => "dtype('<" ++ kind.code ++ "')"
  | kind =>
    if kind.isCompound then
      "dtype(" ++ kind.partText ++ (if kind.isAligned then ", align=True" else "") ++ ")"
    else "dtype('" ++ kind.name ++ "')"

end OperandType

/-- The operand types of an operation, of which there are one or two. -/
def ArrayOperation.operandText (operation : ArrayOperation) (types : List OperandType) : String :=
  match types with
  | [single] => single.classText
  | several =>
    let text (type : OperandType) : String :=
      if operation.compares then type.classText else type.typeText
    "(" ++ ", ".intercalate (several.map text) ++ ")"

/-- What can be wrong with an element of an array of whole numbers. -/
inductive ElementFlaw where
  /-- The text writes no whole number. -/
  | badNumeral (text : String)
  /-- What is shown like this writes no whole number. -/
  | badNumeralShown (shown : String)
  /-- An undefined number has no whole part. -/
  | undefined
  /-- An infinite number has no whole part. -/
  | infinite
  /-- The integer is beyond the range of the element type. -/
  | outOfRange (n : Int) (type : String)
  /-- The integer does not fit a machine word. -/
  | tooWide
  /-- A value of this kind is no whole number. -/
  | notWhole (kind : String)
  deriving DecidableEq, Repr

/-- What can be wrong with elements beside each other, or with what is to become one of them. -/
inductive LayoutFlaw where
  /-- There are fewer types, or fewer places, than names. -/
  | counts
  /-- A name is no text. -/
  | badName
  /-- Two elements have one name. -/
  | usedName
  /-- An entry of a record of element types is none. -/
  | badEntry
  /-- An element is at a negative place. -/
  | negativeOffset (offset : Int)
  /-- An element is at a place that is no multiple of its alignment. -/
  | unalignedOffset (offset : Int) (alignment : Nat)
  /-- Whether elements are aligned is said by something else than a flag. -/
  | badAligned
  /-- The elements take up more than the size that is given. -/
  | smallSize (needed : Nat) (found : Int)
  /-- The size that is given is no multiple of the alignment. -/
  | unalignedSize (alignment : Nat) (found : Int)
  /-- An axis of an array at each element is too long. -/
  | longAxis
  /-- An array at each element takes up too much. -/
  | bigElement
  /-- The type of the element with this number cannot be read. -/
  | unread (number : Nat) (text : String)
  /-- There are two marks for the order of bytes, which differ. -/
  | marksDiffer (first second : Char)
  /-- A sequence stands where a text is asked for. -/
  | sequence
  deriving DecidableEq, Repr

/-- What is wrong with elements beside each other, in words. -/
def LayoutFlaw.message : LayoutFlaw → String
  | counts => "'names', 'formats', 'offsets', and 'titles' dict entries must have the same length"
  | badName => "field names must be strings"
  | usedName => "name already used as a name or title"
  | badEntry => "entry not a 2- or 3- tuple"
  | negativeOffset offset => s!"offset {offset} cannot be negative"
  | unalignedOffset offset alignment =>
    s!"offset {offset} for NumPy dtype with fields is not divisible by the field alignment " ++
      s!"{alignment} with align=True"
  | badAligned => "NumPy dtype descriptor includes 'aligned' entry, but its value is neither " ++
      "True nor False"
  | smallSize needed found => s!"NumPy dtype descriptor requires {needed} bytes, cannot " ++
      s!"override to smaller itemsize of {found}"
  | unalignedSize alignment found =>
    s!"NumPy dtype descriptor requires alignment of {alignment} " ++
      s!"bytes, which is not divisible into the specified itemsize {found}"
  | longAxis => "invalid shape in fixed-type tuple: dimension does not fit into a C int."
  | bigElement =>
    "invalid shape in fixed-type tuple: dtype size in bytes must fit into a C int."
  | unread number text => s!"format number {number} of \"" ++ text ++ "\" is not recognized"
  | marksDiffer first second => "inconsistent byte-order specification " ++
      String.ofList [first] ++ " and " ++ String.ofList [second]
  | sequence => "setting an array element with a sequence"

/-- What can be wrong with the number of times that an element is repeated. -/
inductive RepeatFlaw where
  | blank
  | leadingZero
  | unopened
  | unclosed
  | noComma
  | unread
  deriving DecidableEq, Repr

/-- What is wrong with a number of times, in words. -/
def RepeatFlaw.message : RepeatFlaw → String
  | blank => "invalid syntax (<unknown>, line 0)"
  | leadingZero => "leading zeros in decimal integer literals are not permitted; " ++
      "use an 0o prefix for octal integers (<unknown>, line 1)"
  | unopened => "unmatched ')' (<unknown>, line 1)"
  | unclosed => "'(' was never closed (<unknown>, line 1)"
  | noComma => "invalid syntax. Perhaps you forgot a comma? (<unknown>, line 1)"
  | unread => "invalid syntax (<unknown>, line 1)"

/-- A cause of failure, over numbers of type `α`. -/
inductive Fault (α : Type) where
  /-- A value of this kind is no number. -/
  | notNumber (kind : String)
  /-- The text is not a numeral. -/
  | badNumeral (text : String)
  /-- What is shown like this is not a numeral. -/
  | badNumeralShown (shown : String)
  /-- The integer is beyond the range of the numbers. -/
  | tooLarge
  /-- The value is no vector. -/
  | notVector (value : Value α)
  /-- A vector has two or three components. -/
  | componentCount (count : Nat)
  /-- A needed field is absent. -/
  | missingField (name : String)
  /-- A value of this kind holds no items. -/
  | notIterable (kind : String)
  /-- The item at this place of a list of pairs holds no items. -/
  | notPair (index : Nat)
  /-- The item at this place of a list of pairs has another length than two. -/
  | pairLength (index length : Nat)
  /-- A value of this kind cannot be a name. -/
  | unhashable (kind : String)
  /-- The value is not one of a closed set of names. -/
  | notMember (value : Value α) (set : NameSet)
  /-- The kind of entity has no such parameter. -/
  | strayParameter (entity : Value α) (kind : String) (key : Value α) (expected : List String)
  /-- The parameter of an entity is no number. -/
  | nonNumericParameter (entity key : Value α)
  /-- No entity has this id. -/
  | unknownEntity (id : Value α)
  /-- No constraint has this id. -/
  | unknownConstraint (id : Value α)
  /-- A value of this kind lacks an operation. -/
  | missingOperation (kind operation : String)
  /-- Values of these kinds are not ordered. -/
  | notOrdered (symbol left right : String)
  /-- There is no such operation on values of these kinds. -/
  | noOperator (symbol left right : String)
  /-- There is no such operation on a value of this kind. -/
  | noUnary (operation kind : String)
  /-- A sequence is repeated a whole number of times, not as often as a value of this kind says. -/
  | notRepeatable (kind : String)
  /-- The number of times that a sequence is repeated does not fit a machine word. -/
  | countTooLarge
  /-- A sequence does not fit into memory. -/
  | noMemory
  /-- An index does not fit a machine word. -/
  | indexTooLarge
  /-- An array of this kind is no index. -/
  | notScalarIndex
  /-- A sequence of this kind goes together with others of its kind only. -/
  | notJoinable (left right : String)
  /-- A root or an angle of a value of this kind. -/
  | notRealNumber (kind : String)
  /-- A value of this kind has no items at indices. -/
  | notIndexable (kind : String)
  /-- A value of this kind is no index. -/
  | badIndex (sequence kind : String)
  /-- A value of this kind has no length. -/
  | noLength (kind : String)
  /-- An array without axes has no length. -/
  | noSize
  /-- An operation on arrays takes no operands of these types. -/
  | noArrayOperation (operation : ArrayOperation) (types : List OperandType)
  /-- Flags are not subtracted, and have no sign. -/
  | noFlagOperation (operation : ArrayOperation)
  /-- An array with elements of the second type cannot take over sums of the first type. -/
  | noCast (found target : OperandType)
  /-- No elements of the first type, in an array without axes or with some, become elements of the
  second type. -/
  | noConversion (isSingle : Bool) (found target : OperandType)
  /-- Arrays of these shapes do not go together. -/
  | shapesDiffer (shapes : List (List Nat))
  /-- An array of the first shape has no room for one of the second. -/
  | noRoom (target found : List Nat)
  /-- The truth of an array that is empty, or that has more than one element. -/
  | ambiguous (isEmpty : Bool)
  /-- A number of an array is to be replaced by several. -/
  | elementSequence
  /-- Nested lists are too deep for an array. -/
  | tooManyAxes
  /-- An element of an array of whole numbers is none. -/
  | badElement (flaw : ElementFlaw)
  /-- No type of elements has this name. -/
  | noElementKind (name : String)
  /-- The value is no name of a type of elements. -/
  | noElementType (value : Value α)
  /-- A value in a list of element types has no name and type. -/
  | noElementField (value : Value α)
  /-- Elements beside each other cannot be as they are asked for. -/
  | badLayout (flaw : LayoutFlaw)
  /-- The number of times that an element is repeated cannot be read. -/
  | badRepeats (flaw : RepeatFlaw)
  /-- An array of the first shape cannot be spread out to the second one. -/
  | noSpread (found target : List Nat)
  /-- Elements beside each other are compared with others. -/
  | compound
  /-- There is no such unit of time in the name of a type of elements. -/
  | badTimeUnit (text : String)
  /-- A unit of time cannot be read from this position on. -/
  | badTimeText (text : String) (position : Nat)
  /-- No finer unit of time is the multiple of this divisor. -/
  | badDivisor (divisor : Nat) (text : String)
  /-- No unit in particular cannot be divided. -/
  | anyDivided
  /-- A value is no time of this sort. -/
  | notTime (sort : String)
  /-- A point in time is counted in no unit. -/
  | noTimeUnit
  /-- A point in time is given in no unit. -/
  | noMoment
  /-- A text writes no point in time from this position on. -/
  | badMoment (text : String) (position : Nat)
  /-- A part of the text of a point in time is out of range. -/
  | momentRange (part text : String)
  /-- The text writes no number of the greatest precision. -/
  | badLong (text : String)
  /-- The text writes no complex number. -/
  | badComplex
  /-- So many characters of a text from a position on, the first of them given, are not plain. -/
  | notPlainText (position count : Nat) (first : Char)
  /-- A value of this kind is not made of bytes. -/
  | notBytes (kind : String)
  /-- A tuple has another length than the elements beside each other that it is for. -/
  | tupleLength (found expected : Nat)
  /-- The value is no shape of an array. -/
  | noShape (value : Value α)
  /-- A value of this kind is no integer. -/
  | notInteger (kind : String)
  /-- A flag is no length of an axis. -/
  | flagLength
  /-- An axis has a length that is not negative. -/
  | negativeLength
  /-- The length of an axis does not fit a machine word. -/
  | lengthTooLarge
  /-- The number of bytes of an array does not fit a machine word. -/
  | arrayTooLarge
  /-- An array of numbers with this shape does not fit into memory. -/
  | noArrayMemory (shape : List Nat)
  /-- The bounds of a part of a sequence are integers. -/
  | badBound
  /-- A value of this kind is not written in this style. -/
  | noStyle (kind : String)
  /-- The references of a constraint are no list. -/
  | notReferenceList
  /-- A section of a sketch is no list. -/
  | notList (name kind : String)
  /-- An item of a section is no record. -/
  | notRecord (name : String) (index : Nat)
  /-- A sketch is no record. -/
  | notSketch
  /-- A cause inside a record. -/
  | record (sort : RecordSort) (label : Value α) (cause : Fault α)
  /-- The group of options has no such name. -/
  | unknownOption (group : OptionGroup) (name : Value α)
  /-- A cause inside a group of options. -/
  | badOptions (group : OptionGroup) (cause : Fault α)
  /-- The target of a point has another length than two. -/
  | targetLength (count : Nat)
  /-- A point without an id cannot be registered. -/
  | unregistrable
  /-- A value of this kind is no unknown of a planar sketch. -/
  | notUnknown (kind : String)
  /-- A matrix holds numbers that are not finite. -/
  | notFinite
  /-- The nested lists of an array differ in length below this shape. -/
  | ragged (shape : List Nat)
  /-- An array has more axes than a matrix. -/
  | notMatrix
  /-- An array with axes is no single number. -/
  | notScalar
  /-- An array without axes has no items. -/
  | noAxis
  /-- So many numbers are no column with so many rows. -/
  | notColumn (count rows : Nat)
  /-- A column has another number of rows than a matrix. -/
  | columnLength (found expected : Nat)
  /-- A number alone is no column. -/
  | noColumn
  /-- A sequence of this kind has no item at an index. -/
  | noItem (sequence : String)
  /-- No number has this index among so many. -/
  | noSlot (index count : Nat)
  /-- An array without axes has no item at an index. -/
  | tooManyIndices
  /-- The items of an array have no names. -/
  | noNamedItem
  /-- An item of a list of names is no text. -/
  | notName (index : Nat) (kind : String)
  /-- A value of this kind is no name of a builder of constraints. -/
  | notAttribute (kind : String)
  /-- Things of this kind have nothing with this name. -/
  | noBuilder (kind name : String)
  /-- An operation that everything has is called on nothing. -/
  | argumentNeeded (operation : String)
  /-- An operation that everything has takes so many arguments beside the thing itself. -/
  | argumentsExpected (expected given : Nat)
  /-- A kind of things is made from one argument or from three. -/
  | kindArguments
  /-- A thing of this kind is no kind of things. -/
  | noKind (kind : String)
  /-- A thing of this kind cannot be called. -/
  | notCallable (kind : String)
  /-- A call leaves out the arguments with these names. -/
  | argumentsMissing (function : String) (names : List String)
  /-- A call has more arguments than are expected. -/
  | argumentsExtra (function : String) (least most given : Nat)
  /-- A call has an argument of a name that is not expected. -/
  | argumentUnexpected (function name : String)
  /-- A value is nested too deeply for what is to be done with it. -/
  | tooDeep
  /-- An integer has too many digits to be written. -/
  | tooManyDigits
  /-- The value cannot be used in this place. -/
  | misplaced (text : String)

namespace Fault

/-- Causes that no record takes over. -/
def escapes {α : Type} : Fault α → Bool
  | tooLarge | badElement .infinite | badElement (.outOfRange ..) | badElement .tooWide => true
  | countTooLarge | noMemory | noArrayMemory _ | indexTooLarge => true
  | noItem _ | noSlot .. | tooManyIndices => true
  | missingOperation .. | tooDeep => true
  | _ => false

/-- Causes that lie in the form of a sketch: in its sections, its records or its options. -/
def isMalformed {α : Type} : Fault α → Bool
  | notList .. | notRecord .. | notSketch | record .. | unknownOption .. | badOptions .. => true
  | _ => false

/-- The names of arguments in a sentence. -/
def nameList : List String → String
  | [] => ""
  | [name] => " argument: '" ++ name ++ "'"
  | [first, second] => " arguments: '" ++ first ++ "' and '" ++ second ++ "'"
  | names => " arguments: " ++ String.join (names.dropLast.map fun name => "'" ++ name ++ "', ") ++
      "and '" ++ names.getLastD "" ++ "'"

/-- The wording of a cause. -/
def message {α : Type} [Scalar α] : Fault α → String
  | notNumber kind => s!"float() argument must be a string or a real number, not '{kind}'"
  | badNumeral text => "could not convert string to float: " ++ Text.quoted text
  | badNumeralShown shown => "could not convert string to float: " ++ shown
  | tooLarge => "int too large to convert to float"
  | notVector value => "cannot interpret " ++ value.shown ++ " as a 3D vector"
  | componentCount count => s!"expected 2 or 3 components, got {count}"
  | missingField name => name
  | notIterable kind => s!"'{kind}' object is not iterable"
  | notPair index => s!"cannot convert dictionary update sequence element #{index} to a sequence"
  | pairLength index length =>
    s!"dictionary update sequence element #{index} has length {length}; 2 is required"
  | unhashable kind => s!"unhashable type: '{kind}'"
  | notMember value set => value.shown ++ " is not a valid " ++ set.name
  | strayParameter entity kind key expected =>
    "entity " ++ entity.shown ++ ": " ++ kind ++ " does not carry parameter " ++ key.shown ++
      " (expected: " ++ (if expected.isEmpty then "none" else ", ".intercalate expected) ++ ")"
  | nonNumericParameter entity key =>
    "entity " ++ entity.shown ++ ": parameter " ++ key.shown ++ " must be numeric"
  | unknownEntity id => "unknown entity " ++ id.shown
  | unknownConstraint id => "unknown constraint " ++ id.shown
  | missingOperation kind operation => s!"'{kind}' object has no attribute '{operation}'"
  | notOrdered symbol left right =>
    s!"'{symbol}' not supported between instances of '{left}' and '{right}'"
  | noOperator symbol left right =>
    s!"unsupported operand type(s) for {symbol}: '{left}' and '{right}'"
  | noUnary operation kind => s!"bad operand type for {operation}: '{kind}'"
  | notRepeatable kind => s!"can't multiply sequence by non-int of type '{kind}'"
  | countTooLarge => "cannot fit 'int' into an index-sized integer"
  | noMemory => ""
  | indexTooLarge => "cannot fit 'int' into an index-sized integer"
  | notScalarIndex => "only integer scalar arrays can be converted to a scalar index"
  | notJoinable left right => s!"can only concatenate {left} (not \"{right}\") to {left}"
  | notRealNumber kind => s!"must be real number, not {kind}"
  | notIndexable kind => s!"'{kind}' object is not subscriptable"
  | badIndex sequence kind => s!"{sequence} indices must be integers or slices, not {kind}"
  | noLength kind => s!"object of type '{kind}' has no len()"
  | noSize => "len() of unsized object"
  | noArrayOperation operation types =>
    match operation.compares || types.all fun type => !type.kind.isTime, types with
    | false, [a, b] =>
      s!"ufunc '{operation.name}' cannot use operands with types " ++ a.typeText ++ " and " ++
        b.typeText
    | _, types =>
      s!"ufunc '{operation.name}' did not contain a loop with signature matching types " ++
        operation.operandText types ++ " -> None"
  | noFlagOperation .subtract => "numpy boolean subtract, the `-` operator, is not supported, " ++
      "use the bitwise_xor, the `^` operator, or the logical_xor function instead."
  | noFlagOperation _ => "The numpy boolean negative, the `-` operator, is not supported, " ++
      "use the `~` operator or the logical_not function instead."
  | noCast found target => "Cannot cast ufunc 'add' output from " ++ found.typeText ++ " to " ++
      target.typeText ++ " with casting rule 'same_kind'"
  | noConversion isSingle found target =>
    "Cannot cast " ++ (if isSingle then "scalar" else "array data") ++ " from " ++ found.typeText ++
      " to " ++ target.typeText ++ " according to the rule 'unsafe'"
  | shapesDiffer shapes => "operands could not be broadcast together with shapes " ++
      String.join (shapes.map fun shape => Value.shapeText shape ++ " ")
  | noRoom target found =>
    "non-broadcastable output operand with shape " ++ Value.shapeText target ++
      " doesn't match the broadcast shape " ++ Value.shapeText found
  | ambiguous true => "The truth value of an empty array is ambiguous. " ++
      "Use `array.size > 0` to check that an array is not empty."
  | ambiguous false => "The truth value of an array with more than one element is ambiguous. " ++
      "Use a.any() or a.all()"
  | elementSequence => "setting an array element with a sequence."
  | tooManyAxes => "setting an array element with a sequence. " ++
      "The requested array would exceed the maximum number of dimension of 64."
  | badElement (.badNumeral text) =>
    "invalid literal for int() with base 10: " ++ Text.quoted text
  | badElement (.badNumeralShown shown) => "invalid literal for int() with base 10: " ++ shown
  | badElement .undefined => "cannot convert float NaN to integer"
  | badElement .infinite => "cannot convert float infinity to integer"
  | badElement .tooWide => "Python int too large to convert to C long"
  | badElement (.outOfRange n type) => s!"Python integer {n} out of bounds for {type}"
  | badElement (.notWhole kind) =>
    s!"int() argument must be a string, a bytes-like object or a real number, not '{kind}'"
  | noElementKind name => "data type " ++ Text.quoted name ++ " not understood"
  | noElementType value => "Cannot interpret '" ++ value.shown ++ "' as a data type"
  | noElementField value =>
    "Field elements must be 2- or 3-tuples, got '" ++ value.shown ++ "'"
  | badLayout flaw => flaw.message
  | badRepeats flaw => flaw.message
  | noSpread found target => "could not broadcast input array from shape " ++
      Value.shapeText found ++ " into shape " ++ Value.shapeText target
  | compound => "Cannot compare structured or void to non-void arrays."
  | badTimeUnit text => "Invalid datetime unit in metadata string \"" ++ text ++ "\""
  | badTimeText text position =>
    "Invalid datetime metadata string \"" ++ text ++ "\" at position " ++ toString position
  | badDivisor divisor text => "divisor (" ++ toString divisor ++
      ") is not a multiple of a lower-unit in datetime metadata \"" ++ text ++ "\""
  | anyDivided => "Can't use 'den' divisor with generic units"
  | notTime sort => "Could not convert object to NumPy " ++ sort
  | noTimeUnit => "Converting an integer to a NumPy datetime requires a specified unit"
  | noMoment => "Cannot create a NumPy datetime other than NaT with generic units"
  | momentRange part text => part ++ " out of range in datetime string \"" ++ text ++ "\""
  | badMoment text position =>
    "Error parsing datetime string \"" ++ text ++ "\" at position " ++ toString position
  | badLong text => "invalid literal for long double: " ++ text
  | badComplex => "complex() arg is a malformed string"
  | notPlainText position count first =>
    let place := if count = 1 then
        " '" ++ String.ofList (Text.escape '\x00' first) ++ "' in position " ++ toString position
      else "s in position " ++ toString position ++ "-" ++ toString (position + count - 1)
    "'ascii' codec can't encode character" ++ place ++ ": ordinal not in range(128)"
  | notBytes kind => s!"a bytes-like object is required, not '{kind}'"
  | tupleLength found expected =>
    s!"could not assign tuple of length {found} to structure with {expected} fields."
  | noShape value => "expected a sequence of integers or a single integer, got '" ++
      String.ofList (value.shown.toList.take 100) ++ "'"
  | flagLength => "an integer is required"
  | notInteger kind => s!"'{kind}' object cannot be interpreted as an integer"
  | negativeLength => "negative dimensions are not allowed"
  | lengthTooLarge => "Maximum allowed dimension exceeded"
  | arrayTooLarge => "array is too big; `arr.size * arr.dtype.itemsize` is larger than the " ++
      "maximum possible size."
  | noArrayMemory shape =>
    "Unable to allocate " ++ Decimal.byteText (8 * shape.foldl (· * ·) 1) ++
      " for an array with shape " ++ Value.shapeText shape ++ " and data type float64"
  | badBound => "slice indices must be integers or None or have an __index__ method"
  | noStyle kind => s!"unsupported format string passed to {kind}.__format__"
  | notReferenceList => "'entities' must be a list of ids"
  | notList name kind => s!"'{name}' must be a list, got {kind}"
  | notRecord name index => name ++ "[" ++ toString index ++ "] must be an object"
  | notSketch => "sketch must be a JSON object"
  | record sort label (missingField name) =>
    sort.name ++ " " ++ label.shown ++ ": missing field " ++ Text.quoted name
  | record sort label cause => sort.name ++ " " ++ label.shown ++ ": " ++ cause.message
  | unknownOption group name => "unknown " ++ group.name ++ " option " ++ name.shown
  | badOptions group cause => "invalid " ++ group.name ++ ": " ++ cause.message
  | targetLength count => s!"point target needs 2 components, got {count}"
  | unregistrable => "only points with an id can be registered as unknowns"
  | notUnknown kind => "Solver2D accepts Point2D or Variable entities, got " ++ kind
  | notFinite => "array must not contain infs or NaNs"
  | ragged shape =>
    s!"setting an array element with a sequence. The requested array has an inhomogeneous shape " ++
      s!"after {shape.length} dimensions. The detected shape was " ++ Value.shapeText shape ++
      " + inhomogeneous part."
  | notMatrix => "too many values to unpack (expected 2)"
  | notScalar => "only 0-dimensional arrays can be converted to Python scalars"
  | noAxis => "iteration over a 0-d array"
  | notColumn count rows => s!"cannot reshape array of size {count} into shape ({rows},1)"
  | columnLength found expected =>
    "matmul: Input operand 1 has a mismatch in its core dimension 0, with gufunc signature " ++
      s!"(n?,k),(k,m?)->(n?,m?) (size {found} is different from {expected})"
  | noColumn => "matmul: Input operand 1 does not have enough dimensions (has 0, gufunc core " ++
      "with signature (n?,k),(k,m?)->(n?,m?) requires 1)"
  | noItem sequence => s!"{sequence} index out of range"
  | noSlot index count => s!"index {index} is out of bounds for axis 0 with size {count}"
  | tooManyIndices => "too many indices for array: array is 0-dimensional, but 1 were indexed"
  | noNamedItem => "only integers, slices (`:`), ellipsis (`...`), numpy.newaxis (`None`) and " ++
      "integer or boolean arrays are valid indices"
  | notName index kind =>
    s!"sequence item {index}: expected str instance, {kind} found"
  | notAttribute kind => s!"attribute name must be string, not '{kind}'"
  | noBuilder kind name => s!"type object '{kind}' has no attribute '{name}'"
  | argumentNeeded operation =>
    s!"descriptor '{operation}' of 'object' object needs an argument"
  | argumentsExpected expected given =>
    let plural := if expected = 1 then "" else "s"
    s!"expected {expected} argument{plural}, got {given}"
  | kindArguments => "type() takes 1 or 3 arguments"
  | noKind kind => s!"object.__new__(X): X is not a type object ({kind})"
  | notCallable kind => s!"'{kind}' object is not callable"
  | argumentsMissing function names =>
    s!"{function}() missing {names.length} required positional" ++ nameList names
  | argumentsExtra function least most given =>
    if least = most then
      let arguments := if most = 1 then "argument" else "arguments"
      s!"{function}() takes {most} positional {arguments} but {given} were given"
    else
      s!"{function}() takes from {least} to {most} positional arguments but {given} were given"
  | argumentUnexpected function name =>
    s!"{function}() got an unexpected keyword argument '{name}'"
  | tooDeep => "maximum recursion depth exceeded"
  | tooManyDigits => s!"Exceeds the limit ({Numeral.maxIntegerDigits} digits) for integer " ++
      "string conversion; use sys.set_int_max_str_digits() to increase the limit"
  | misplaced text => text

end Fault

end Drafting
