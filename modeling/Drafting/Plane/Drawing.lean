import Drafting.Linear.Grid
import Drafting.Name
import Drafting.Options.Basic
import Drafting.Plane.Basic

/-!
# Drawings

A drawing takes objects of a board into use: it gives each of its unknowns a slot, and with it a
place in the list of numbers that a solve works on. A point takes two slots, named after its id.
Registering an id again hands its slot to the new object. An operation may fail half-way, as when an
object turns out to be of the wrong sort; what it has done until then stays done, so its outcome is
a drawing together with a result.
-/

namespace Drafting.Plane

/-- Objects in use. -/
structure Drawing (ν α : Type) [Name ν] where
  options : NewtonOptions α
  board : Board ν α
  /-- The object in each slot. -/
  unknowns : List Item
  /-- The slot of each id. -/
  slots : Table ν Nat
  /-- The number in each slot. -/
  params : List α
  /-- The object that is registered as a point under each id. -/
  points : Table ν Item
  /-- The objects used as constraints, in the order in which they were added. -/
  constraints : List Item

/-- What an operation on a drawing has come to. -/
structure Attempt (ν α β : Type) [Name ν] where
  drawing : Drawing ν α
  result : Except (Fault α) β

namespace Attempt

variable {ν α β γ : Type} [Name ν]

/-- Goes on with the drawing and the result, unless the operation has failed. -/
def andThen (a : Attempt ν α β) (f : Drawing ν α → β → Attempt ν α γ) : Attempt ν α γ :=
  match a.result with
  | .ok x => f a.drawing x
  | .error fault => ⟨a.drawing, .error fault⟩

end Attempt

namespace Drawing

variable {ν α : Type} [Name ν]

/-- A drawing that uses no object of a board. -/
def empty (options : NewtonOptions α) (board : Board ν α) : Drawing ν α :=
  ⟨options, board, [], .empty, [], .empty, []⟩

/-- Ends an operation. -/
def done (d : Drawing ν α) : Attempt ν α Unit := ⟨d, .ok ()⟩

/-- Ends an operation with a fault. -/
def fail {β : Type} (d : Drawing ν α) (fault : Fault α) : Attempt ν α β := ⟨d, .error fault⟩

/-- Goes on with the result of a test that leaves the drawing as it is. -/
def given {β γ : Type} (d : Drawing ν α) (result : Except (Fault α) β) (f : β → Attempt ν α γ) :
    Attempt ν α γ :=
  match result with
  | .ok x => f x
  | .error fault => d.fail fault

/-- The id of a coordinate of a point. -/
def coordinateId (id : ν) (axis : Kind) : ν := Name.ofText (Name.plain id ++ "." ++ axis.name)

/-- Uses a constraint; one constraint may be used more than once. -/
def addConstraint (d : Drawing ν α) (item : Item) : Drawing ν α :=
  { d with constraints := d.constraints ++ [item] }

/-- Uses no object any more; the board keeps them. -/
def clear (d : Drawing ν α) : Drawing ν α := .empty d.options d.board

/-- The ids and numbers of the slots, in order. -/
def numbered [Named ν α] (d : Drawing ν α) : List (ν × α) :=
  (d.unknowns.zip d.params).map fun (item, x) => (d.board.idOf item, x)

/-- The names and numbers of the slots; of two slots with one name the later counts. -/
def values [Named ν α] (d : Drawing ν α) : Except (Fault α) (Table ν α) := do
  Name.requireAll (d.numbered.map Prod.fst)
  if d.params.length < d.unknowns.length then throw (.noSlot d.params.length d.params.length)
  else return .ofList d.numbered

variable [Scalar α]

/-- Hands a slot to an object. -/
def rebind (d : Drawing ν α) (slot : Nat) (item : Item) : Attempt ν α Unit :=
  let d := { d with unknowns := d.unknowns.set slot item }
  d.given (d.board.value item) fun v =>
    if d.params.length ≤ slot then d.fail (.noSlot slot d.params.length)
    else d.given (Linear.placed v) fun x => done { d with params := d.params.set slot x }

/-- Gives a new slot to an object with an id. -/
def bind (d : Drawing ν α) (id : ν) (item : Item) : Attempt ν α Unit :=
  let d := { d with
    slots := d.slots.insert id d.unknowns.length
    unknowns := d.unknowns ++ [item] }
  d.given (d.board.value item >>= Value.toReal) fun x =>
    done { d with params := d.params ++ [x] }

/-- The drawing with a new unknown on its board. -/
def place (d : Drawing ν α) (v : Variable ν α) : Drawing ν α :=
  { d with board := d.board.addVariable v }

/-- Registers an object as a point under an id, without its coordinates. -/
def registerPoint (d : Drawing ν α) (id : ν) (item : Item) : Drawing ν α :=
  { d with points := d.points.insert id item }

variable [Named ν α]

/-- Uses an object as an unknown. -/
def addVariable (d : Drawing ν α) (item : Item) : Attempt ν α Unit :=
  let id := d.board.idOf item
  d.given (Name.require id) fun _ =>
    match d.slots.get? id with
    | some slot => d.rebind slot item
    | none => d.bind id item

/-- The unknown for one coordinate of an object with an id. -/
def coordinateOf (d : Drawing ν α) (id : ν) (item : Item) (axis : Kind) :
    Except (Fault α) (Variable ν α) := do
  Variable.build (coordinateId id axis) (← d.board.coordinate item axis) (.text axis.name)

/-- Uses a new unknown for one coordinate of an object with an id. -/
def addCoordinate (d : Drawing ν α) (id : ν) (item : Item) (axis : Kind) : Attempt ν α Unit :=
  d.given (d.coordinateOf id item axis) fun v =>
    (d.place v).addVariable (.variable d.board.unknowns.length)

/-- The id under which an object can be registered as a point. -/
def usableId (d : Drawing ν α) (item : Item) : Except (Fault α) ν := do
  let id := d.board.idOf item
  if ← (d.board.idValue item).truth then
    Name.require id
    return id
  else throw .unregistrable

/-- Uses an object as a point, and unknowns for its coordinates. -/
def addPoint (d : Drawing ν α) (item : Item) : Attempt ν α Unit :=
  d.given (d.usableId item) fun id =>
    ((d.registerPoint id item).addCoordinate id item .x).andThen fun d _ =>
      d.addCoordinate id item .y

/-- Uses the point or the unknown that a reference stands for. -/
def addObject (d : Drawing ν α) (r : Reference α) : Attempt ν α Unit :=
  match r with
  | .item (.point place) => d.addPoint (.point place)
  | .item (.variable place) => d.addVariable (.variable place)
  | r => d.fail (.notUnknown r.kindName)

/-- Writes the numbers of the slots into the unknowns. -/
def writeVariables (d : Drawing ν α) : Drawing ν α :=
  { d with
    board := (d.unknowns.zip d.params).foldl (fun b (item, x) =>
      b.put item "value" (.value (.real x))) d.board }

/-- The number in the slot of an id. -/
def param? (d : Drawing ν α) (id : ν) : Option α := (d.slots.get? id).bind fun slot =>
  d.params[slot]?

/-- Writes the number of a coordinate into an object, if the coordinate has a slot. -/
def locate (d : Drawing ν α) (id : ν) (item : Item) (axis : Kind) (b : Board ν α) : Board ν α :=
  match d.param? (coordinateId id axis) with
  | some x => b.put item axis.name (.value (.real x))
  | none => b

/-- Writes the numbers of the slots into the registered points. -/
def writePoints (d : Drawing ν α) : Drawing ν α :=
  { d with
    board := d.points.entries.foldl (fun b (id, item) =>
      d.locate id item .y (d.locate id item .x b)) d.board }

/-- Writes the numbers of the slots into the objects they belong to. -/
def writeBack (d : Drawing ν α) : Attempt ν α Unit :=
  let written := d.writeVariables
  if d.params.length < d.unknowns.length then
    written.fail (.noSlot d.params.length d.params.length)
  else written.writePoints.done

/-- Puts numbers into slots, one after the other; ids without a slot are left out. -/
def assign (d : Drawing ν α) : List (ν × Value α) → Attempt ν α Unit
  | [] => d.done
  | (id, v) :: rest =>
    match d.slots.get? id with
    | none => d.assign rest
    | some slot =>
      match v.toReal with
      | .error fault => d.fail fault
      | .ok x =>
        if d.params.length ≤ slot then d.fail (.noSlot slot d.params.length)
        else assign { d with params := d.params.set slot x } rest

/-- Sets the numbers of unknowns by id and writes them back. -/
def setInitial (d : Drawing ν α) (v : Value α) : Attempt ν α Unit :=
  match v.entries? with
  | some entries => (d.assign (Named.entries entries)).andThen fun d _ => d.writeBack
  | none => d.fail (.missingOperation v.kindName "items")

end Drawing

end Drafting.Plane
