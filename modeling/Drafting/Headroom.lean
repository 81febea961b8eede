import Drafting.Decimal.Numeral
import Drafting.Fault

/-!
# What cannot be written or copied

The text of a value is put together level by level, and so is a copy of it: it takes calls inside
calls, of which only so many are allowed. How many levels that leaves depends on the place where the
value is written or copied and on the calls around it, so that it is a parameter here (`Headroom`).
An integer is written digit by digit, up to a limit. A fault is put into words before a record takes
it over, and it gives way to what is wrong with a value in its wording.
-/

namespace Drafting

/-- The places where values are written, copied or shown while a sketch is read or solved. -/
inductive Site where
  /-- The id of a record, which is taken as text. -/
  | id (sort : RecordSort)
  /-- What a constraint refers to, which is taken as text. -/
  | reference
  /-- The id of a record in front of what is wrong with the record. -/
  | label (sort : RecordSort)
  /-- A value that is none of a closed set of names. -/
  | choice (set : NameSet)
  /-- A value that is no vector. -/
  | vector
  /-- The id of an entity, or the name of one of its parameters. -/
  | parameter
  /-- An option of a solver, which is copied. -/
  | option
  /-- An argument of a function in the record at the start of a call of it. -/
  | argument (function : String)
  /-- A result of a function in the record at the end of a call of it. -/
  | result (function : String)
  /-- A label of a constraint in a line of the log. -/
  | line
  deriving DecidableEq, Repr

/-- How many calls inside each other are left at each place, beside those that are made for a value
without others in it. -/
class Headroom where
  room : Site → Nat

/-- About what is left near the start of a program where a thousand calls are allowed. -/
def Headroom.usual : Nat := 980

instance (priority := low) : Headroom where
  room _ := Headroom.usual

namespace Value

variable {α : Type}

/-- What keeps a value with others in it from being written, given what keeps those from it. -/
def levelFault? (room : Nat) (isEmpty : Bool) (inner : Nat → Option (Fault α)) :
    Option (Fault α) :=
  if isEmpty then none
  else match room with
    | 0 => some .tooDeep
    | room + 1 => inner room

mutual

/-- What keeps a value from being written with so much room. -/
def textFault? (room : Nat) : Value α → Option (Fault α)
  | int n => if Numeral.isTooLong n then some .tooManyDigits else none
  | list items | tuple items =>
    levelFault? room items.isEmpty fun room => itemFault? room items
  | record fields => levelFault? room fields.isEmpty fun room => fieldFault? room fields
  | mapping entries => levelFault? room entries.isEmpty fun room => entryFault? room entries
  | _ => none

/-- What keeps one of the items from being written. -/
def itemFault? (room : Nat) : List (Value α) → Option (Fault α)
  | [] => none
  | item :: rest => (textFault? room item).or (itemFault? room rest)

/-- What keeps the value of one of the fields from being written. -/
def fieldFault? (room : Nat) : List (String × Value α) → Option (Fault α)
  | [] => none
  | (_, v) :: rest => (textFault? room v).or (fieldFault? room rest)

/-- What keeps a name or a value of one of the entries from being written. -/
def entryFault? (room : Nat) : List (Value α × Value α) → Option (Fault α)
  | [] => none
  | (name, v) :: rest =>
    (textFault? room name).or ((textFault? room v).or (entryFault? room rest))

end

/-- How many calls inside each other it takes to go through one level of values. -/
structure LevelCosts where
  list : Nat
  tuple : Nat
  record : Nat

mutual

/-- How many calls inside each other it takes to go through a value. -/
def callDepth (costs : LevelCosts) : Value α → Nat
  | list items => itemDepth costs costs.list items
  | tuple items => itemDepth costs costs.tuple items
  | record fields => fieldDepth costs fields
  | mapping entries => entryDepth costs entries
  | _ => 0

/-- How many calls it takes for the items, at so many for their own level. -/
def itemDepth (costs : LevelCosts) (own : Nat) : List (Value α) → Nat
  | [] => 0
  | item :: rest => max (callDepth costs item + own) (itemDepth costs own rest)

/-- How many calls it takes for the values of the fields. -/
def fieldDepth (costs : LevelCosts) : List (String × Value α) → Nat
  | [] => 0
  | (_, v) :: rest => max (callDepth costs v + costs.record) (fieldDepth costs rest)

/-- How many calls it takes for the names and the values of the entries. -/
def entryDepth (costs : LevelCosts) : List (Value α × Value α) → Nat
  | [] => 0
  | (name, v) :: rest =>
    max (max (callDepth costs name) (callDepth costs v) + costs.record) (entryDepth costs rest)

end

/-- How many levels of values inside each other a value has. -/
def depth (v : Value α) : Nat := v.callDepth ⟨1, 1, 1⟩

/-- How many calls inside each other it takes to copy the values in a value. -/
def copyDepth (v : Value α) : Nat := v.callDepth ⟨2, 3, 2⟩

variable [Headroom]

/-- The text of a value, at a place. -/
def spell [Scalar α] (site : Site) (v : Value α) : Except (Fault α) String :=
  match v.textFault? (Headroom.room site) with
  | some fault => .error fault
  | none => .ok v.plain

/-- Demands that an option can be copied. -/
def requireCopy (v : Value α) : Except (Fault α) Unit :=
  if Headroom.room .option < v.copyDepth then .error .tooDeep else .ok ()

end Value

namespace Fault

variable {α : Type}

/-- The values in the wording of a cause, each with its place. -/
def worded : Fault α → List (Site × Value α)
  | notVector v => [(.vector, v)]
  | notMember v set => [(.choice set, v)]
  | strayParameter id _ key _ | nonNumericParameter id key => [(.parameter, id), (.parameter, key)]
  | _ => []

variable [Headroom]

/-- A cause, or what keeps it from being put into words. -/
def stated (cause : Fault α) : Fault α :=
  (cause.worded.findSome? fun (site, v) => v.textFault? (Headroom.room site)).getD cause

/-- The cause with the record that it arose in, unless it is one that no record takes over. The
label of the record has to be written. -/
def inRecord (sort : RecordSort) (label : Value α) (cause : Fault α) : Fault α :=
  if cause.stated.escapes then cause.stated
  else (label.textFault? (Headroom.room (.label sort))).getD (record sort label cause.stated)

/-- The cause with the options that it arose in, unless it is one that no record takes over. -/
def inOptions (group : OptionGroup) (cause : Fault α) : Fault α :=
  if cause.stated.escapes then cause.stated else badOptions group cause.stated

end Fault

end Drafting
