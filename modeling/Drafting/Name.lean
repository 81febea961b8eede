import Drafting.Value.Comparison

/-!
# Names

What entities, constraints, parameters and unknowns are called by. Names are texts as a rule, but
any value can serve as one that can be looked up; two names are the same if they are equal as
values. `Name` is what storing things by name asks for, `Named` how names are taken from values.
-/

namespace Drafting

/-- Names: they can be compared, and texts are among them. -/
class Name (ν : Type) where
  /-- Whether two names are equal. -/
  same : ν → ν → Bool
  ofText : String → ν
  /-- The text that a name is, if it is one. -/
  text? : ν → Option String
  /-- A name inside another text. -/
  plain : ν → String
  /-- A name with quotes where it is a text. -/
  shown : ν → String
  /-- Whether a name counts as none. -/
  isBlank : ν → Bool
  /-- The kind of value that keeps a name from being looked up. -/
  obstacle? : ν → Option String

/-- Where names are texts, texts are compared as everywhere else. -/
instance (priority := low) {ν : Type} [Name ν] : BEq ν where
  beq := Name.same

namespace Name

variable {ν : Type} [Name ν]

/-- The text that a name turns into where texts are asked for. -/
def spelled (name : ν) : ν := ofText (plain name)

/-- Names as a list. -/
def listText (names : List ν) : String := "[" ++ ", ".intercalate (names.map shown) ++ "]"

/-- Demands that a name can be looked up. -/
def require {α : Type} (name : ν) : Except (Fault α) Unit :=
  match obstacle? name with
  | some kind => .error (.unhashable kind)
  | none => .ok ()

/-- Demands of each name in turn that it can be looked up. -/
def requireAll {α : Type} : List ν → Except (Fault α) Unit
  | [] => .ok ()
  | name :: rest => do
    require name
    requireAll rest

end Name

/-- Names that are taken from values and shown as values. -/
class Named (ν α : Type) where
  /-- The name that a value is, if it is one. -/
  ofValue : Value α → Option ν
  /-- What a value is called by: the name that it is, or its text where only texts are names. -/
  ofAny : Value α → ν
  toValue : ν → Value α
  /-- Whether a name is among others, which cannot be told of every value. -/
  isAmong : ν → List ν → Except (Fault α) Bool

/-- The entries whose names are names here. -/
def Named.entries {ν α : Type} [Named ν α] (entries : List (Value α × Value α)) :
    List (ν × Value α) :=
  entries.filterMap fun (name, v) => (ofValue name).map fun name => (name, v)

/-- The name that a value is, which has to be one. -/
def Named.read {ν α : Type} [Named ν α] (v : Value α) : Except (Fault α) ν :=
  match ofValue v with
  | some name => .ok name
  | none => .error (.misplaced "the value is no name")

instance : Name String where
  same a b := decide (a = b)
  ofText s := s
  text? s := some s
  plain s := s
  shown s := Text.quoted s
  isBlank s := s.isEmpty
  obstacle? _ := none

/-- Where names are texts, no other value is a name. -/
instance {α : Type} [Scalar α] : Named String α where
  ofValue := Value.text?
  ofAny v := v.plain
  toValue := .text
  isAmong name names := .ok (names.contains name)

namespace Value

variable {α : Type}

mutual

/-- The kind of value that keeps a value from being looked up: one that can change, here or inside
a tuple. Several elements beside each other change with the array that they have been taken from. -/
def obstacle? : Value α → Option String
  | tuple items => itemObstacle? items
  | element kind _ => if kind.isVoid then some "writeable void-scalar" else none
  | vector x y z => (obstacle? x).or ((obstacle? y).or (obstacle? z))
  | v@(list _) | v@(record _) | v@(mapping _) | v@(array ..) | v@(object ..) => some v.kindName
  | _ => none

/-- The first obstacle among items. -/
def itemObstacle? : List (Value α) → Option String
  | [] => none
  | item :: rest => (obstacle? item).or (itemObstacle? rest)

end

end Value

instance {α : Type} [Scalar α] : Name (Value α) where
  same := Value.same
  ofText := .text
  text? := Value.text?
  plain := Value.plain
  shown := Value.shown
  isBlank v := !v.isTruthy
  obstacle? := Value.obstacle?

instance {α : Type} [Scalar α] : Named (Value α) α where
  ofValue := some
  ofAny v := v
  toValue v := v
  isAmong := Value.isAmong

end Drafting
