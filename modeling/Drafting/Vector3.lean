import Drafting.Component
import Drafting.Value.Fields

/-!
# Vectors in space

Positions, directions and normals. A vector is read from two or three components, the third being
zero where it is not given, or from a record with the fields `x`, `y` and perhaps `z`.
-/

namespace Drafting

/-- The three directions of space. -/
inductive Axis where
  | x
  | y
  | z
  deriving DecidableEq, Repr

/-- The axes in order. -/
def Axis.all : List Axis := [x, y, z]

/-- The axis with an index; negative indices count from the last axis. -/
def Axis.ofIndex? (i : Int) : Option Axis :=
  if i = 0 ∨ i = -3 then some x
  else if i = 1 ∨ i = -2 then some y
  else if i = 2 ∨ i = -1 then some z
  else none

/-- A vector with three components. -/
structure Vector3 (α : Type) where
  x : α
  y : α
  z : α
  deriving Repr, DecidableEq

namespace Vector3

variable {α : Type}

/-- The component along an axis. -/
def get (v : Vector3 α) : Axis → α
  | .x => v.x
  | .y => v.y
  | .z => v.z

/-- The vector with a function applied to each component. -/
def map {β : Type} (f : α → β) (v : Vector3 α) : Vector3 β := ⟨f v.x, f v.y, f v.z⟩

/-- The first fault of a component. -/
def fault? {τ : Type} [Component τ α] (v : Vector3 τ) : Option (Fault α) :=
  (Component.fault? v.x).or ((Component.fault? v.y).or (Component.fault? v.z))

/-- The list of components. -/
def toValue {τ : Type} [Component τ α] (v : Vector3 τ) : Value α :=
  .list [Component.toValue v.x, Component.toValue v.y, Component.toValue v.z]

variable [Scalar α]

/-- The inner product. -/
def dot (a b : Vector3 α) : α := a.x * b.x + a.y * b.y + a.z * b.z

/-- The vector whose components are at fault together, for the first fault among them. -/
def joint (v : Vector3 α) : Vector3 α :=
  v.map fun c => Scalar.after v.x (Scalar.after v.y (Scalar.after v.z c))

/-- The difference. -/
def sub (a b : Vector3 α) : Vector3 α := joint ⟨a.x - b.x, a.y - b.y, a.z - b.z⟩

/-- The sum. -/
def add (a b : Vector3 α) : Vector3 α := ⟨a.x + b.x, a.y + b.y, a.z + b.z⟩

/-- The length. -/
def norm (v : Vector3 α) : α := Scalar.sqrt (Scalar.greater (v.dot v) 0)

/-- The distance between two points. -/
def distance (a b : Vector3 α) : α := (a.sub b).norm

/-- The distance of a point from the line through `anchor` along a direction of unit length. -/
def offLine (point anchor direction : Vector3 α) : α :=
  let v := point.sub anchor
  let along := v.dot direction
  Scalar.after along (Scalar.sqrt (Scalar.greater (v.dot v - along * along) 0))

/-- The vector moved by `delta` along an axis. -/
def shift (v : Vector3 α) (axis : Axis) (delta : α) : Vector3 α :=
  match axis with
  | .x => { v with x := Scalar.increase v.x delta }
  | .y => { v with y := Scalar.increase v.y delta }
  | .z => { v with z := Scalar.increase v.z delta }

/-- What moving a vector along an axis leaves of it where it is also used elsewhere. -/
def wear (v : Vector3 α) (axis : Axis) (delta : α) : Vector3 α :=
  match axis with
  | .x => { v with x := Scalar.wear v.x delta }
  | .y => { v with y := Scalar.wear v.y delta }
  | .z => { v with z := Scalar.wear v.z delta }

/-- The vector with two or three components. -/
def ofComponents : List α → Except (Fault α) (Vector3 α)
  | [x, y] => .ok ⟨x, y, 0⟩
  | [x, y, z] => .ok ⟨x, y, z⟩
  | components => .error (.componentCount components.length)

/-- The vector of a record with the fields `x`, `y` and perhaps `z`. -/
def ofFields (fields : List (String × Value α)) : Except (Fault α) (Vector3 α) := do
  let x ← (← needed fields "x").toReal
  let y ← (← needed fields "y").toReal
  let z ← match field? fields "z" with
    | some v => v.toReal
    | none => .ok 0
  return ⟨x, y, z⟩

/-- The vector of reals that a value stands for which is no vector yet. -/
def convert : Value α → Except (Fault α) (Vector3 α)
  | .record fields => ofFields fields
  | .mapping entries => ofFields (Value.textFields entries)
  | v@(.list _) | v@(.tuple _) | v@(.array ..) => do
    ofComponents (← (← v.items).mapM Value.toReal)
  | v => .error (.notVector v)

/-- The components with their names. -/
def text (v : Vector3 α) : String :=
  "Vec3(x=" ++ Scalar.text v.x ++ ", y=" ++ Scalar.text v.y ++ ", z=" ++ Scalar.text v.z ++ ")"

section

variable {τ : Type} [Component τ α]

/-- The vector that a value stands for; a vector that is given as such keeps its components. -/
def ofValue : Value α → Except (Fault α) (Vector3 τ)
  | .vector x y z => do
    let x ← Component.ofValue x
    let y ← Component.ofValue y
    return ⟨x, y, ← Component.ofValue z⟩
  | v => (convert v).map (map Component.ofReal)

/-- The vector that a value stands for, where nothing stands for none. -/
def ofValue? : Value α → Except (Fault α) (Option (Vector3 τ))
  | .null => .ok none
  | v => (ofValue v).map some

end

end Vector3

end Drafting
