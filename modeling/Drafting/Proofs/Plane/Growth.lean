import Drafting.Plane.Plan
import Drafting.Proofs.Plane.Board
import Drafting.Proofs.Table

/-!
# Growing drawings

A drawing grows when objects are put on its board and new ids are registered. As long as no
constraint mentions the new ids, what was there before stays as it is: the objects of the board, the
first slots and their numbers, and where the points are found that constraints mention
(`Drawing.GrowsTo.extends`).
-/

namespace Drafting.Plane

variable {α : Type}

/-! ### Operations that succeed -/

lemma Drawing.given_of_ok {ν β γ : Type} [Name ν] {d : Drawing ν α} {result : Except (Fault α) β}
    {f : β → Attempt ν α γ} {y : γ} (ok : (d.given result f).result = .ok y) :
    ∃ x, result = .ok x ∧ d.given result f = f x := by
  cases result with
  | ok x => exact ⟨x, rfl, rfl⟩
  | error fault => cases ok

lemma Attempt.andThen_of_ok {ν β γ : Type} [Name ν] {a : Attempt ν α β}
    {f : Drawing ν α → β → Attempt ν α γ} {y : γ} (ok : (a.andThen f).result = .ok y) :
    ∃ x, a.result = .ok x ∧ a.andThen f = f a.drawing x := by
  obtain ⟨d, result⟩ := a
  cases result with
  | ok x => exact ⟨x, rfl, rfl⟩
  | error fault => cases ok

/-- An object that is not there has no fields. -/
lemma Board.extras_eq_nil {ν : Type} {b : Board ν α} {item : Item} (outside : ¬b.Holds item) :
    b.extras item = [] := by
  have none {β : Type} {xs : List β} {place : ℕ} (outside : ¬place < xs.length) :
      xs[place]? = none := List.getElem?_eq_none (Nat.le_of_not_lt outside)
  cases item with
  | point place => rw [extras, none outside, Option.map_none, Option.getD_none]
  | «variable» place => rw [extras, none outside, Option.map_none, Option.getD_none]
  | constraint place => rw [extras, none outside, Option.map_none, Option.getD_none]

/-- An object that has a value is there. -/
lemma Board.holds_of_value_eq_ok {ν : Type} {b : Board ν α} {item : Item} {v : Value α}
    (ok : b.value item = .ok v) : b.Holds item := by
  by_contra outside
  have extra : b.extra item "value" = .error (.missingOperation item.kindName "value") := by
    rw [Board.extra, extras_eq_nil outside]
    rfl
  unfold value at ok
  split at ok
  · rw [List.getElem?_eq_none (Nat.le_of_not_lt outside)] at ok
    cases ok
  · rw [extra] at ok
    cases ok

variable [Scalar α]

/-! ### What constraints mention -/

/-- The name that a reference has for a point, if it has one. -/
def Board.nameOf? (b : Board String α) : Reference α → Option String
  | .item (.point place) => (b.points[place]?).bind Point.id
  | .item _ => none
  | .value v => Name.text? v

namespace Drawing

/-- Whether a constraint in use has a reference. -/
def Refers (d : Drawing String α) (r : Reference α) : Prop :=
  ∃ item ∈ d.constraints, ∃ content, d.board.references item = .ok content ∧
    ∃ count refs, content.front count = .ok refs ∧ r ∈ refs

/-- Whether a constraint in use names a point. -/
def Mentions (d : Drawing String α) (point : String) : Prop :=
  ∃ r, d.Refers r ∧ d.board.nameOf? r = some point

/-- Whether an id is that of no unknown in use and of no coordinate of a point that a constraint
names. -/
def IsFree (d : Drawing String α) (id : String) : Prop :=
  id ∉ d.unknowns.map d.board.idOf ∧
    ∀ point, d.Mentions point → id ≠ coordinateId point .x ∧ id ≠ coordinateId point .y

/-- Everything that a drawing uses is on its board, and there are no slots and no numbers but those
of its unknowns. -/
structure IsPlaced (d : Drawing String α) : Prop where
  unknown : ∀ item ∈ d.unknowns, d.board.Holds item
  constraint : ∀ item ∈ d.constraints, d.board.Holds item
  reference : ∀ place, d.Refers (.item (.point place)) → d.board.Holds (.point place)
  slots : ∀ id slot, d.slots.get? id = some slot → slot < d.unknowns.length
  params : d.params.length ≤ d.unknowns.length

/-! ### Growth -/

/-- The ids of the unknowns that come with an object. -/
def idsOf (b : Board String α) : Item → List String
  | .point place =>
    [coordinateId (b.idOf (.point place)) .x, coordinateId (b.idOf (.point place)) .y]
  | item => [b.idOf item]

/-- Growth of a drawing: objects come to its board, and objects of the board are registered under
new ids that no constraint of the drawing mentions. -/
inductive GrowsTo (d : Drawing String α) : Drawing String α → Prop
  | refl : GrowsTo d d
  | point {e : Drawing String α} (p : Point String α) : GrowsTo d e →
      GrowsTo d { e with board := e.board.addPoint p }
  | unknown {e : Drawing String α} (v : Variable String α) : GrowsTo d e →
      GrowsTo d { e with board := e.board.addVariable v }
  | register {e : Drawing String α} (item : Item) : GrowsTo d e →
      (∀ id ∈ idsOf e.board item, e.slots.get? id = none ∧ d.IsFree id) →
      (e.addObject (.item item)).result = .ok () → GrowsTo d (e.addObject (.item item)).drawing

/-- What growth leaves of a drawing: with further unknowns, whose ids are free, and their
numbers. -/
structure Extends (d d' : Drawing String α) (items : List Item) (extra : List α) : Prop where
  options : d'.options = d.options
  constraints : d'.constraints = d.constraints
  board : d.board.IsPartOf d'.board
  unknowns : d'.unknowns = d.unknowns ++ items
  params : d'.params = d.params ++ extra
  length : items.length = extra.length
  placed : ∀ item ∈ items, d'.board.Holds item
  free : ∀ item ∈ items, d'.board.idOf item ∉ d.unknowns.map d.board.idOf
  slots : ∀ point, d.Mentions point → ∀ axis, axis = .x ∨ axis = .y →
    d'.slots.get? (coordinateId point axis) = d.slots.get? (coordinateId point axis)
  points : ∀ point, d.Mentions point → d'.points.contains point = d.points.contains point

section

variable {d e : Drawing String α} {items : List Item} {extra : List α}

lemma Extends.refl (d : Drawing String α) : d.Extends d [] [] where
  options := rfl
  constraints := rfl
  board := .refl d.board
  unknowns := (List.append_nil _).symm
  params := (List.append_nil _).symm
  length := rfl
  placed := nofun
  free := nofun
  slots _ _ _ _ := rfl
  points _ _ := rfl

/-- More objects on the board are of no consequence. -/
lemma Extends.onBoard (extends_ : d.Extends e items extra) {board : Board String α}
    (part : e.board.IsPartOf board) : d.Extends { e with board } items extra where
  options := extends_.options
  constraints := extends_.constraints
  board := extends_.board.trans part
  unknowns := extends_.unknowns
  params := extends_.params
  length := extends_.length
  placed item there := (extends_.placed item there).mono part
  free item there := by
    show board.idOf item ∉ _
    rw [part.idOf_eq (extends_.placed item there)]
    exact extends_.free item there
  slots := extends_.slots
  points := extends_.points

/-- A point that no constraint names can be registered. -/
lemma Extends.registerPoint (extends_ : d.Extends e items extra) {id : String}
    (unnamed : ¬d.Mentions id) (item : Item) :
    d.Extends (e.registerPoint id item) items extra where
  options := extends_.options
  constraints := extends_.constraints
  board := extends_.board
  unknowns := extends_.unknowns
  params := extends_.params
  length := extends_.length
  placed := extends_.placed
  free := extends_.free
  slots := extends_.slots
  points point named := by
    have other : id ≠ point := by
      rintro rfl
      exact unnamed named
    rw [← extends_.points point named, Table.contains, Table.contains]
    exact congrArg Option.isSome (Table.get?_insert_of_ne other item e.points)

/-- A drawing with a further slot. -/
def withSlot (d : Drawing String α) (id : String) (item : Item) (x : α) : Drawing String α :=
  { d with
    slots := d.slots.insert id d.unknowns.length
    unknowns := d.unknowns ++ [item]
    params := d.params ++ [x] }

/-- An object whose id is free can be given a slot. -/
lemma Extends.withSlot (extends_ : d.Extends e items extra) {item : Item} (x : α)
    (there : e.board.Holds item) (free : d.IsFree (e.board.idOf item)) :
    d.Extends (e.withSlot (e.board.idOf item) item x) (items ++ [item]) (extra ++ [x]) where
  options := extends_.options
  constraints := extends_.constraints
  board := extends_.board
  unknowns := by rw [Drawing.withSlot, extends_.unknowns, List.append_assoc]
  params := by rw [Drawing.withSlot, extends_.params, List.append_assoc]
  length := by rw [List.length_append, List.length_append, extends_.length]; rfl
  placed := List.forall_mem_append.mpr ⟨extends_.placed, List.forall_mem_singleton.mpr there⟩
  free := List.forall_mem_append.mpr ⟨extends_.free, List.forall_mem_singleton.mpr free.1⟩
  slots point named axis coordinate := by
    rw [← extends_.slots point named axis coordinate]
    apply Table.get?_insert_of_ne
    obtain ⟨notX, notY⟩ := free.2 point named
    obtain rfl | rfl := coordinate
    · exact notX
    · exact notY
  points := extends_.points

/-! ### Registering -/

/-- Registering an unknown under a new id that is free gives it a further slot. -/
lemma Extends.addVariable (extends_ : d.Extends e items extra) {item : Item}
    (fresh : e.slots.get? (e.board.idOf item) = none) (free : d.IsFree (e.board.idOf item))
    (ok : (e.addVariable item).result = .ok ()) :
    ∃ x, (e.addVariable item).drawing = e.withSlot (e.board.idOf item) item x ∧
      d.Extends (e.addVariable item).drawing (items ++ [item]) (extra ++ [x]) := by
  obtain ⟨-, -, bound⟩ := given_of_ok ok
  have step : e.addVariable item = e.bind (e.board.idOf item) item := by
    rw [Drawing.addVariable, bound, fresh]
  rw [step] at ok ⊢
  obtain ⟨x, number, placed⟩ := given_of_ok ok
  obtain ⟨v, value, -⟩ := Except.bind_eq_ok.mp number
  have done : (e.bind (e.board.idOf item) item).drawing =
      e.withSlot (e.board.idOf item) item x := by
    rw [Drawing.bind, placed]
    rfl
  exact ⟨x, done, done ▸ extends_.withSlot x (Board.holds_of_value_eq_ok value) free⟩

lemma idOf_addVariable (b : Board String α) (v : Variable String α) :
    (b.addVariable v).idOf (.variable b.unknowns.length) = v.id := by
  rw [Board.idOf, Board.idValue, Board.addVariable, List.getElem?_concat_length]
  rfl

/-- Registering a coordinate under a new id that is free gives it a further slot. -/
lemma Extends.addCoordinate (extends_ : d.Extends e items extra) {id : String} {item : Item}
    {axis : Kind} (fresh : e.slots.get? (coordinateId id axis) = none)
    (free : d.IsFree (coordinateId id axis)) (ok : (e.addCoordinate id item axis).result = .ok ()) :
    ∃ items' extra', d.Extends (e.addCoordinate id item axis).drawing items' extra' ∧
      (e.addCoordinate id item axis).drawing.slots =
        e.slots.insert (coordinateId id axis) e.unknowns.length := by
  obtain ⟨v, built, step⟩ := given_of_ok ok
  have name : v.id = coordinateId id axis := by
    obtain ⟨value, -, made⟩ := Except.bind_eq_ok.mp built
    obtain ⟨kind, -, made⟩ := Except.bind_eq_ok.mp made
    obtain ⟨x, -, made⟩ := Except.bind_eq_ok.mp made
    cases made
    rfl
  -- the new unknown is the last one on the board, and is registered under the id it was built with
  have named := (idOf_addVariable e.board v).trans name
  rw [Drawing.addCoordinate, step] at ok ⊢
  obtain ⟨x, done, grown⟩ := Extends.addVariable (e := e.place v)
    (extends_.onBoard (e.board.isPartOf_addVariable v)) (named ▸ fresh) (named ▸ free) ok
  refine ⟨_, _, grown, ?_⟩
  rw [done]
  exact congrArg (e.slots.insert · e.unknowns.length) named

lemma coordinateId_ne (id : String) : coordinateId id .x ≠ coordinateId id .y := by
  intro same
  have texts : (id ++ ".") ++ "x" = (id ++ ".") ++ "y" := same
  have letters := (String.append_right_inj (id ++ ".")).mp texts
  exact absurd letters (by decide)

lemma usableId_of_ok {item : Item} {id : String} (ok : e.usableId item = .ok id) :
    id = e.board.idOf item := by
  obtain ⟨usable, -, rest⟩ := Except.bind_eq_ok.mp ok
  cases usable with
  | false => cases rest
  | true => exact (Except.ok.inj rest).symm

/-- Registering a point under a new id that is free gives it two further slots. -/
lemma Extends.addPoint (extends_ : d.Extends e items extra) {item : Item}
    (new : ∀ id ∈ [coordinateId (e.board.idOf item) .x, coordinateId (e.board.idOf item) .y],
      e.slots.get? id = none ∧ d.IsFree id)
    (ok : (e.addPoint item).result = .ok ()) :
    ∃ items' extra', d.Extends (e.addPoint item).drawing items' extra' := by
  obtain ⟨id, usable, step⟩ := given_of_ok ok
  obtain rfl := usableId_of_ok usable
  rw [Drawing.addPoint, step] at ok ⊢
  generalize e.board.idOf item = id at new ok ⊢
  obtain ⟨⟨freshX, freeX⟩, ⟨freshY, freeY⟩, -⟩ := by
    simpa only [List.forall_mem_cons] using new
  -- an id whose coordinate is free is itself not mentioned
  have unnamed : ¬d.Mentions id := fun named => (freeX.2 id named).1 rfl
  obtain ⟨⟨⟩, okX, step⟩ := Attempt.andThen_of_ok ok
  rw [step] at ok ⊢
  obtain ⟨_, _, grownX, slots⟩ :=
    (extends_.registerPoint unnamed item).addCoordinate freshX freeX okX
  have freshY' : ((e.registerPoint id item).addCoordinate id item .x).drawing.slots.get?
      (coordinateId id .y) = none := by
    rw [slots, Table.get?_insert_of_ne (coordinateId_ne id)]
    exact freshY
  obtain ⟨_, _, grownY, -⟩ := grownX.addCoordinate freshY' freeY ok
  exact ⟨_, _, grownY⟩

end

/-- A drawing that has grown still has what it had before. -/
theorem GrowsTo.extends {d d' : Drawing String α} (grows : d.GrowsTo d') :
    ∃ items extra, d.Extends d' items extra := by
  induction grows with
  | refl => exact ⟨[], [], .refl d⟩
  | point p _ ih =>
    obtain ⟨items, extra, extends_⟩ := ih
    exact ⟨items, extra, extends_.onBoard (Board.isPartOf_addPoint _ p)⟩
  | unknown v _ ih =>
    obtain ⟨items, extra, extends_⟩ := ih
    exact ⟨items, extra, extends_.onBoard (Board.isPartOf_addVariable _ v)⟩
  | @register e item _ new ok ih =>
    obtain ⟨items, extra, extends_⟩ := ih
    cases item with
    | constraint place => cases ok
    | «variable» place =>
      obtain ⟨⟨fresh, free⟩, -⟩ := List.forall_mem_cons.mp new
      obtain ⟨x, -, grown⟩ := extends_.addVariable fresh free ok
      exact ⟨_, _, grown⟩
    | point place => exact extends_.addPoint new ok

end Drawing

end Drafting.Plane
