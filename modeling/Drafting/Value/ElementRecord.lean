import Drafting.Value.Conversion
import Drafting.Value.ElementList

/-!
# Element types given as values

An element type is given by its text, or by a record of elements beside each other: their names,
their types and, where they do not follow each other closely, their places, the size of all of them
or that they are aligned. Types in such a record may be records in turn.
-/

namespace Drafting

/-- An element beside others, with its place. -/
structure Placed where
  name : String
  kind : ElementKind
  offset : Nat

namespace ElementKind

/-- A type with room before it. -/
def padded (count : Nat) (kind : ElementKind) : ElementKind :=
  if count = 0 then kind else gap count kind

/-- Elements at their places, the first so many bytes being taken up, with a size of all. -/
def ofPlaced (isAligned : Bool) (size taken : Nat) : List Placed → ElementKind
  | [] => padded (size - taken) (ending isAligned)
  | p :: rest =>
    padded (p.offset - taken)
      (beside p.name p.kind (ofPlaced isAligned size (p.offset + p.kind.size) rest))

variable {α : Type}

/-- The integer that a place or a size is. -/
def wholeOf : Value α → Except (Fault α) Int
  | .int n => .ok n
  | .flag _ => .error .flagLength
  | v => .error (.notInteger v.kindName)

/-- The place of the next element: the one that is asked for, or the first free one. -/
def placeOf (isAligned : Bool) (taken : Nat) (kind : ElementKind) :
    Option (Value α) → Except (Fault α) Nat
  | none => .ok (if isAligned then alignUp kind.alignment taken else taken)
  | some v => do
    let offset ← wholeOf v
    if offset < 0 then throw (.badLayout (.negativeOffset offset))
    if isAligned ∧ offset % kind.alignment ≠ 0 then
      throw (.badLayout (.unalignedOffset offset kind.alignment))
    return offset.toNat

/-- Elements with names, types and perhaps places; the first so many bytes are taken up, and some
names are used. -/
def placed (isAligned : Bool) (taken : Nat) (used : List String) :
    List (Value α) → List (Except (Fault α) ElementKind) → Option (List (Value α)) →
      Except (Fault α) (List Placed)
  | name :: names, kind :: kinds, places? => do
    let kind ← kind
    let offset ← placeOf isAligned taken kind (places?.bind List.head?)
    match name with
    | .text name =>
      if used.contains name then throw (.badLayout .usedName)
      let rest ← placed isAligned (max taken (offset + kind.size)) (name :: used) names kinds
        (places?.map List.tail)
      return ⟨name, kind, offset⟩ :: rest
    | _ => throw (.badLayout .badName)
  | _, _, _ => .ok []

/-- The size of elements at their places: the one that is asked for, or the least possible. -/
def sizeFor (isAligned : Bool) (placed : List Placed) (asked? : Option (Value α)) :
    Except (Fault α) Nat := do
  let most := placed.foldl (fun n p => max n p.kind.alignment) 1
  let taken := placed.foldl (fun n p => max n (p.offset + p.kind.size)) 0
  let least := if isAligned then alignUp most taken else taken
  match asked? with
  | none => return least
  | some v =>
    let size ← wholeOf v
    if size < least then throw (.badLayout (.smallSize least size))
    if isAligned ∧ size % most ≠ 0 then throw (.badLayout (.unalignedSize most size))
    return size.toNat

/-- Whether elements are to be aligned. -/
def alignedOf : Option (Value α) → Except (Fault α) Bool
  | none => .ok false
  | some (.flag b) => .ok b
  | some _ => .error (.badLayout .badAligned)

variable [Scalar α]

/-- Elements beside each other that a record describes, given their types; a record without names or
without types has entries of another form, which no value is. -/
def ofRecord (fields : List (String × Value α)) (kinds : List (Except (Fault α) ElementKind)) :
    Except (Fault α) ElementKind := do
  match field? fields "names", field? fields "formats", fields with
  | some names, some _, _ =>
    let names ← names.items
    let places? ← (field? fields "offsets").mapM Value.items
    if kinds.length < names.length ∨ (places?.getD names).length < names.length then
      throw (.badLayout .counts)
    let isAligned ← alignedOf (field? fields "aligned")
    let placed ← placed isAligned 0 [] names kinds places?
    return ofPlaced isAligned (← sizeFor isAligned placed (field? fields "itemsize")) 0 placed
  | _, _, (_, entry) :: _ =>
    match entry.items with
    | .ok _ => throw (.badLayout .badEntry)
    | .error _ => throw (.noLength entry.kindName)
  | _, _, [] => return ending false

mutual

/-- The element type that a value describes. -/
def ofValue : Value α → Except (Fault α) ElementKind
  | .text s => ofText s
  | .null => .ok (binary 64)
  | .record fields => ofRecord fields (formatsOf fields)
  | .list [] => .ok (ending false)
  | .list (first :: _) => .error (.noElementField first)
  | v => .error (.noElementType v)

/-- The element types in a record. -/
def formatsOf : List (String × Value α) → List (Except (Fault α) ElementKind)
  | [] => []
  | (name, v) :: rest => if name = "formats" then kindsIn v else formatsOf rest

/-- The element types that the items of a value describe. -/
def kindsIn : Value α → List (Except (Fault α) ElementKind)
  | .list items => kindsOf items
  | .text s => s.toList.map fun c => ofText (String.singleton c)
  | _ => []

/-- The element types that values describe. -/
def kindsOf : List (Value α) → List (Except (Fault α) ElementKind)
  | [] => []
  | v :: rest => ofValue v :: kindsOf rest

end

end ElementKind

end Drafting
