import Drafting.Plane.Demand
import Drafting.Plane.Drawing

/-!
# Plans of planar solves

Which constraints of a drawing a solve works on: those that are enabled, whose relation is laid out
in rows, and whose points can be found. A registered point is found in its slots, a point that is
not registered is constant, and a text names a point by its id.
-/

namespace Drafting

/-- How many residuals a relation has in the plane, and between how many points it is. -/
structure Layout where
  rows : Nat
  points : Nat
  deriving DecidableEq, Repr

/-- The layout of a relation that can be solved for in the plane. -/
def Relation.layout? : Relation → Option Layout
  | .distance | .horizontal | .vertical => some ⟨1, 2⟩
  | .coincident => some ⟨2, 2⟩
  | .fixed => some ⟨2, 1⟩
  | _ => none

namespace Plane

variable {α : Type}

/-- A constraint that a solve works on, with its points. -/
structure Row (α : Type) where
  label : Value α
  layout : Layout
  constraint : Item
  sources : List (Source α)

/-- How a solve takes a constraint. -/
inductive Standing (α : Type) where
  | disabled
  | unsupported (label : Value α)
  | skipped (label : Value α) (needed : Nat)
  | planned (row : Row α)

/-- What a solve did not take into account, by label. -/
structure Diagnostics (α : Type) where
  skipped : List (Value α)
  unsupported : List (Value α)

/-- Whether every enabled constraint was taken into account. -/
def Diagnostics.isClean (d : Diagnostics α) : Bool := d.skipped.isEmpty && d.unsupported.isEmpty

/-- The standings of all constraints in order. -/
abbrev Plan (α : Type) := List (Standing α)

namespace Plan

/-- The rows of a plan. -/
def rows (p : Plan α) : List (Row α) := p.filterMap fun
  | .planned row => some row
  | _ => none

/-- What a plan leaves out. -/
def diagnostics (p : Plan α) : Diagnostics α where
  skipped := p.filterMap fun
    | .skipped label _ => some label
    | _ => none
  unsupported := p.filterMap fun
    | .unsupported label => some label
    | _ => none

/-- The labels of the residuals. -/
def labels (p : Plan α) : List (Value α) :=
  p.rows.flatMap fun row => List.replicate row.layout.rows row.label

end Plan

/-- The relation that a constraint states; one that was put in later counts by its name. -/
def Choice.relation? : Choice Relation α → Except (Fault α) (Option Relation)
  | .member r => .ok (some r)
  | .raw (.text s) => .ok (Relation.all.find? fun r => r.name == s)
  | .raw v =>
    match v.obstacle? with
    | some kind => .error (.unhashable kind)
    | none => .ok none

/-- The name of the relation of a constraint. -/
def Choice.relationName : Choice Relation α → Except (Fault α) String
  | .member r => .ok r.name
  | .raw v => .error (.missingOperation v.kindName "value")

namespace Drawing

variable {ν : Type} [Name ν]

/-- The slots of a point with an id. -/
def slotsOf? (d : Drawing ν α) (id : ν) : Option (Source α) := do
  let x ← d.slots.get? (coordinateId id .x)
  let y ← d.slots.get? (coordinateId id .y)
  return .slots x y

/-- The id under which a point is registered. -/
def registeredId? (d : Drawing ν α) (p : Point ν α) : Except (Fault α) (Option ν) :=
  match p.id with
  | none => .ok none
  | some id => do
    Name.require id
    return if d.points.contains id then some id else none

variable [Scalar α]

/-- Where the point on the board is found. -/
def sourceOfPoint (d : Drawing ν α) (p : Point ν α) : Except (Fault α) (Option (Source α)) := do
  match ← d.registeredId? p with
  | some id => return d.slotsOf? id
  | none => return some (.constant (← p.x.toReal) (← p.y.toReal))

/-- Where the point that a reference stands for is found, if it stands for one. -/
def source? (d : Drawing ν α) (r : Reference α) : Except (Fault α) (Option (Source α)) :=
  match r with
  | .item (.point place) =>
    match d.board.points[place]? with
    | some p => d.sourceOfPoint p
    | none => .ok none
  | .value v => .ok ((Name.text? v).bind fun id => d.slotsOf? (Name.ofText id))
  | _ => .ok none

/-- The label of a constraint: its id, or its relation and position if the id is empty. -/
def label [Named ν α] (d : Drawing ν α) (position : Nat) (item : Item) :
    Except (Fault α) (Value α) := do
  let id := d.board.idValue item
  if ← id.truth then return id
  else return .text ((← (← d.board.relation item).relationName) ++ "#" ++ toString position)

/-- The standing of a constraint with a layout. -/
def standingOf (label : Value α) (layout : Layout) (c : Item)
    (sources : List (Option (Source α))) : Standing α :=
  let found := sources.filterMap id
  if sources.length = layout.points ∧ found.length = layout.points then
    .planned ⟨label, layout, c, found⟩
  else .skipped label layout.points

/-- The standing of the object that was added as a constraint at a position. -/
def standing [Named ν α] (d : Drawing ν α) (position : Nat) (item : Item) :
    Except (Fault α) (Standing α) := do
  if ← (← d.board.enabled item).truth then
    let label ← d.label position item
    match (← (← d.board.relation item).relation?).bind Relation.layout? with
    | none => return .unsupported label
    | some layout =>
      let references ← (← d.board.references item).front layout.points
      return standingOf label layout item (← references.mapM d.source?)
  else return .disabled

/-- The plan of a solve. -/
def plan [Named ν α] (d : Drawing ν α) : Except (Fault α) (Plan α) :=
  d.constraints.zipIdx.mapM fun (item, position) => d.standing position item

end Drawing

/-- A source whose slots are there. -/
def Source.check (count : Nat) : Source α → Except (Fault α) (Source α)
  | slots x y =>
    if count ≤ x then .error (.noSlot x count)
    else if count ≤ y then .error (.noSlot y count)
    else .ok (slots x y)
  | constant x y => .ok (constant x y)

variable [Scalar α]

/-- Where a point is to be fixed, if a target says so. -/
def anchor? : Value α → Except (Fault α) (Option (α × α))
  | .record fields => do return some (← placeOf fields)
  | .mapping entries => do return some (← placeOf (Value.textFields entries))
  | .list [x, y] => do return some (← x.toReal, ← y.toReal)
  | .tuple [x, y] => do return some (← x.toReal, ← y.toReal)
  | _ => .ok none

/-- The distance that a target gives; what is no number gives zero. -/
def goal : Value α → Except (Fault α) α
  | .flag b => Value.ofIntOrFault (if b then 1 else 0)
  | .int n => Value.ofIntOrFault n
  | .real x | .element (.binary 64) (.real x) => .ok x
  | _ => .ok 0

/-- The demand that a row makes on `count` numbers. A relation that was put in later demands that
its points coincide. -/
def Row.demand {ν : Type} (b : Board ν α) (count : Nat) (row : Row α) :
    Except (Fault α) (Demand α) := do
  let relation ← b.relation row.constraint
  let target ← b.target row.constraint
  let sources ← row.sources.mapM (Source.check count)
  match relation, sources with
  | .member .fixed, p :: _ => return .fixed p (← anchor? target)
  | .member .distance, p :: q :: _ => return .distance p q (← goal target)
  | .member .horizontal, p :: q :: _ => return .horizontal p q
  | .member .vertical, p :: q :: _ => return .vertical p q
  | _, p :: q :: _ => return .coincident p q
  | _, _ => throw (.noItem "tuple")

end Plane

end Drafting
