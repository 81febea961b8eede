import Drafting.Gradient.Fault
import Drafting.Proofs.Domains
import Drafting.Proofs.Gradient.Survey

/-!
# Guarded arithmetic

Guarded numbers are numbers whose arithmetic watches over the domains of the root and of the arc
cosine. A root of what is below zero is `outside`, and so is an arc cosine of what is not between
minus one and one, and whatever is computed from it. No test discards what is outside: it counts as
finite, so that a residual that is outside does not go unnoticed. Measuring never leaves the
domains: in guarded arithmetic it comes to the same (`Constraint.residual_guarded`).
-/

namespace Drafting

/-- A number, or what a root or an arc cosine outside of its domain has led to. -/
inductive Guarded (α : Type) where
  | inside (x : α)
  | outside

namespace Guarded

variable {α : Type}

/-- A function of a number. -/
def map (f : α → α) : Guarded α → Guarded α
  | inside x => inside (f x)
  | outside => outside

/-- A function of two numbers. -/
def map₂ (f : α → α → α) : Guarded α → Guarded α → Guarded α
  | inside x, inside y => inside (f x y)
  | _, _ => outside

/-- A function of a number that is defined where a test holds. -/
def mapWithin (p : α → Bool) (f : α → α) : Guarded α → Guarded α
  | inside x => if p x then inside (f x) else outside
  | outside => outside

/-- A relation between two numbers. -/
def Both (r : α → α → Prop) : Guarded α → Guarded α → Prop
  | inside x, inside y => r x y
  | _, _ => False

instance {r : α → α → Prop} [DecidableRel r] : DecidableRel (Both r)
  | inside x, inside y => inferInstanceAs (Decidable (r x y))
  | inside _, outside | outside, _ => inferInstanceAs (Decidable False)

end Guarded

/-- Guarded numbers have the arithmetic of the numbers, apart from roots and arc cosines outside of
their domains. -/
instance {α : Type} [Scalar α] : Scalar (Guarded α) where
  zero := .inside 0
  one := .inside 1
  add := .map₂ (· + ·)
  sub := .map₂ (· - ·)
  mul := .map₂ (· * ·)
  div := .map₂ (· / ·)
  neg := .map fun x => -x
  le := Guarded.Both (· ≤ ·)
  lt := Guarded.Both (· < ·)
  natCast n := .inside n
  ofScientific mantissa sign exponent := .inside (OfScientific.ofScientific mantissa sign exponent)
  decidableLe a b := inferInstanceAs (Decidable (Guarded.Both (· ≤ ·) a b))
  decidableLt a b := inferInstanceAs (Decidable (Guarded.Both (· < ·) a b))
  abs := .map Scalar.abs
  sqrt := .mapWithin (fun x => !decide (x < 0)) Scalar.sqrt
  acos := .mapWithin (fun x => decide (-1 ≤ x ∧ x ≤ 1)) Scalar.acos
  hypot := .map₂ Scalar.hypot
  isFinite
    | .inside x => Scalar.isFinite x
    | .outside => true
  ceil
    | .inside x => Scalar.ceil x
    | .outside => 0
  ofInt? n := (Scalar.ofInt? n).map .inside
  ofIntBelow n := .inside (Scalar.ofIntBelow n)
  compareInt? n
    | .inside x => Scalar.compareInt? n x
    | .outside => none
  ofNumeral n := .inside (Scalar.ofNumeral n)
  text
    | .inside x => Scalar.text x
    | .outside => "outside"
  greater := .map₂ Scalar.greater
  lesser := .map₂ Scalar.lesser

instance {α : Type} [Scalar α] : Scalar.IsPlain (Guarded α) where
  increase_eq _ _ := rfl
  wear_eq _ _ := rfl
  settle_eq _ := rfl
  after_eq _ _ := rfl

/-- Reals are guarded numbers; what is outside is at fault. -/
instance {α : Type} [Scalar α] : Component (Guarded α) α where
  ofReal := .inside
  ofValue v := v.toReal.map .inside
  toValue
    | .inside x => .real x
    | .outside => .null
  fault?
    | .inside _ => none
    | .outside => some (.notRealNumber "outside")
  factor v := v.factor.map .inside
  bound v := v.bound.map .inside

open Guarded (inside)

variable {ν α : Type} [Name ν] [Scalar α]

/-! ### Vectors -/

namespace Guarded

lemma abs_inside (x : α) : Scalar.abs (inside x) = inside (Scalar.abs x) := rfl

lemma sub_inside (x y : α) : inside x - inside y = inside (x - y) := rfl

lemma sqrt_inside {x : α} (above : ¬x < 0) : Scalar.sqrt (inside x) = inside (Scalar.sqrt x) :=
  if_pos (by simp only [decide_eq_false above, Bool.not_false])

lemma acos_inside {x : α} (within : -1 ≤ x ∧ x ≤ 1) :
    Scalar.acos (inside x) = inside (Scalar.acos x) :=
  if_pos (decide_eq_true within)

end Guarded

namespace Vector3

variable (p q : Vector3 α)

lemma dot_guarded : (p.map inside).dot (q.map inside) = inside (p.dot q) := rfl

lemma add_guarded : (p.map inside).add (q.map inside) = (p.add q).map inside := rfl

lemma shift_guarded [Scalar.IsPlain α] (axis : Axis) (delta : α) :
    (p.map inside).shift axis (inside delta) = (p.shift axis delta).map inside := by
  cases axis <;> simp only [shift, Scalar.IsPlain.increase_eq] <;> rfl

variable [Scalar.IsPlain α]

lemma sub_guarded : (p.map inside).sub (q.map inside) = (p.sub q).map inside := by
  simp only [sub, joint, Scalar.IsPlain.after_eq]
  rfl

variable [Scalar.HasDomains α]

omit [Scalar.IsPlain α] in
/-- The root of a number that has been raised to zero. -/
lemma sqrt_greater_guarded (x : α) :
    Scalar.sqrt (Scalar.greater (inside x) 0) = inside (Scalar.sqrt (Scalar.greater x 0)) :=
  Guarded.sqrt_inside (Scalar.HasDomains.greater x)

lemma distance_guarded : (p.map inside).distance (q.map inside) = inside (p.distance q) := by
  rw [distance, sub_guarded, norm, dot_guarded, sqrt_greater_guarded]
  rfl

lemma offLine_guarded (direction : Vector3 α) :
    (p.map inside).offLine (q.map inside) (direction.map inside) =
      inside (p.offLine q direction) := by
  simp only [offLine, Scalar.IsPlain.after_eq, sub_guarded, dot_guarded]
  exact sqrt_greater_guarded _

end Vector3

/-! ### Entities -/

namespace Entity

/-- The entity with guarded numbers. -/
def guarded (e : Entity ν α) : Entity ν (Guarded α) where
  id := e.id
  kind := e.kind
  position := e.position.map (Vector3.map inside)
  direction := e.direction.map (Vector3.map inside)
  radius := e.radius.map inside
  normal := e.normal.map (Vector3.map inside)
  parameters := e.parameters.mapValues fun _ => inside
  carried := by
    rw [Table.keys_mapValues]
    exact e.carried

variable (e : Entity ν α)

omit [Scalar α] in
lemma kind_guarded : e.guarded.kind = e.kind := rfl

omit [Scalar α] in
lemma position_guarded : e.guarded.position = e.position.map (Vector3.map inside) := rfl

omit [Scalar α] in
lemma direction_guarded : e.guarded.direction = e.direction.map (Vector3.map inside) := rfl

lemma properRadius?_guarded : e.guarded.properRadius? = e.properRadius?.map inside := by
  have radius : e.guarded.radius = e.radius.map inside := rfl
  rw [properRadius?, properRadius?, radius, Option.filter_map]
  rfl

omit [Scalar α] in
lemma get?_parameters_guarded [LawfulName ν] (name : ν) :
    e.guarded.parameters.get? name = (e.parameters.get? name).map inside :=
  Table.get?_mapValues ..

end Entity

/-! ### Measuring -/

namespace Measure

variable [Scalar.IsPlain α] [Scalar.HasDomains α] (entities : List (Entity ν α))

lemma coincident_guarded :
    coincident (entities.map Entity.guarded) = (coincident entities).map inside := by
  match entities with
  | [] | [_] => rfl
  | a :: b :: rest =>
    simp only [coincident, List.map_cons, Entity.position_guarded]
    cases a.position <;> cases b.position <;> simp [Vector3.distance_guarded]

lemma tangent_guarded : tangent (entities.map Entity.guarded) = (tangent entities).map inside := by
  match entities with
  | [] | [_] => rfl
  | circle :: line :: rest =>
    simp only [tangent, List.map_cons, Entity.kind_guarded, Entity.properRadius?_guarded,
      Entity.position_guarded, Entity.direction_guarded]
    rw [apply_ite (Option.map inside)]
    refine if_congr Iff.rfl ?_ rfl
    cases circle.properRadius? <;> cases circle.position <;> cases line.position <;>
      cases line.direction <;>
      simp [Vector3.offLine_guarded, Guarded.sub_inside, Guarded.abs_inside]

lemma distance_guarded (target : α) :
    distance (inside target) (entities.map Entity.guarded) =
      (distance target entities).map inside := by
  match entities with
  | [] | [_] => rfl
  | a :: b :: rest =>
    simp only [distance, List.map_cons, Entity.kind_guarded, Entity.position_guarded,
      Entity.direction_guarded]
    rw [apply_ite (Option.map inside), apply_ite (Option.map inside)]
    refine if_congr Iff.rfl ?_ (if_congr Iff.rfl ?_ rfl)
    · cases a.position <;> cases b.position <;>
        simp [Vector3.distance_guarded, Guarded.sub_inside, Guarded.abs_inside]
    · cases a.position <;> cases b.position <;> cases b.direction <;>
        simp [Vector3.offLine_guarded, Guarded.sub_inside, Guarded.abs_inside]

omit [Scalar.IsPlain α] in
lemma angle_guarded (target : α) :
    angle (inside target) (entities.map Entity.guarded) = (angle target entities).map inside := by
  match entities with
  | [] | [_] => rfl
  | a :: b :: rest =>
    have acos (x : α) : Scalar.acos (Scalar.clamp (inside x) (-1) 1) =
        inside (Scalar.acos (Scalar.clamp x (-1) 1)) :=
      Guarded.acos_inside (Scalar.HasDomains.clamp x)
    simp only [angle, List.map_cons, Entity.direction_guarded]
    cases a.direction <;> cases b.direction <;>
      simp [Vector3.dot_guarded, acos, Guarded.sub_inside, Guarded.abs_inside]

omit [Scalar.IsPlain α] [Scalar.HasDomains α] in
lemma equal_guarded [LawfulName ν] :
    equal (entities.map Entity.guarded) = (equal entities).map inside := by
  match entities with
  | [] | [_] => rfl
  | a :: b :: rest =>
    simp only [equal, List.map_cons, Entity.kind_guarded, Entity.properRadius?_guarded,
      Entity.get?_parameters_guarded]
    rw [apply_ite (Option.map inside), apply_ite (Option.map inside)]
    refine if_congr Iff.rfl ?_ (if_congr Iff.rfl ?_ rfl)
    · cases a.parameters.get? _ <;> cases b.parameters.get? _ <;> rfl
    · cases a.properRadius? <;> cases b.properRadius? <;> rfl

/-- In guarded arithmetic every formula comes to what it comes to. -/
lemma formula_guarded [LawfulName ν] (relation : Relation) (target : α) :
    formula relation (inside target) (entities.map Entity.guarded) =
      (formula relation target entities).map inside := by
  cases relation with
  | coincident => exact coincident_guarded entities
  | tangent => exact tangent_guarded entities
  | distance => exact distance_guarded entities target
  | angle => exact angle_guarded entities target
  | equal => exact equal_guarded entities
  | concentric | symmetric | fixed | unknown => rfl
  | parallel | perpendicular =>
    match entities with
    | [] | [_] => rfl
    | a :: b :: rest =>
      simp only [formula, parallel, perpendicular, List.map_cons, Entity.direction_guarded]
      cases a.direction <;> cases b.direction <;> rfl
  | horizontal | vertical =>
    match entities with
    | [] => rfl
    | a :: rest =>
      simp only [formula, horizontal, vertical, List.map_cons, Entity.direction_guarded]
      cases a.direction <;> rfl
  | radius =>
    match entities with
    | [] => rfl
    | a :: rest =>
      simp only [formula, radius, List.map_cons, Entity.kind_guarded,
        Entity.properRadius?_guarded]
      rw [apply_ite (Option.map inside)]
      refine if_congr Iff.rfl ?_ rfl
      cases a.properRadius? <;> rfl

end Measure

/-- The snapshot with guarded numbers. -/
def Snapshot.guarded (entities : Snapshot ν α) : Snapshot ν (Guarded α) :=
  fun id => (entities id).map Entity.guarded

omit [Scalar α] in
lemma Snapshot.replace_guarded (entities : Snapshot ν α) (id : ν) (e : Entity ν α) :
    entities.guarded.replace id e.guarded = (entities.replace id e).guarded := by
  funext name
  rw [replace, guarded, guarded, replace]
  split <;> rfl

/-- The residual with a guarded number. -/
def Residual.guarded : Residual α → Residual (Guarded α)
  | infeasible => infeasible
  | measured x => measured (inside x)

namespace Residual

lemma finite?_guarded (r : Residual α) : r.guarded.finite? = r.finite?.map inside := by
  cases r with
  | infeasible => rfl
  | measured x =>
    rw [finite?, apply_ite (Option.map inside)]
    rfl

lemma isAtMost_guarded (r : Residual α) (bound : α) :
    r.guarded.isAtMost (inside bound) = r.isAtMost bound := by
  cases r <;> rfl

lemma exceeds_guarded (r : Residual α) (bound : α) :
    r.guarded.exceeds (inside bound) = r.exceeds bound := by
  cases r <;> rfl

lemma isLess_guarded (r s : Residual α) : r.guarded.isLess s.guarded = r.isLess s := by
  cases r <;> cases s <;> rfl

lemma addSquare_guarded (total r : Residual α) :
    total.guarded.addSquare r.guarded = (total.addSquare r).guarded := by
  cases total with
  | infeasible =>
    cases r with
    | infeasible => rfl
    | measured x =>
      rw [addSquare, apply_ite guarded]
      rfl
  | measured t =>
    cases r with
    | infeasible =>
      rw [addSquare, apply_ite guarded]
      rfl
    | measured x => rfl

lemma foldl_addSquare_guarded (rs : List (Residual α)) (total : Residual α) :
    (rs.map guarded).foldl addSquare total.guarded = (rs.foldl addSquare total).guarded := by
  induction rs generalizing total with
  | nil => rfl
  | cons r rest ih =>
    rw [List.map_cons, List.foldl_cons, List.foldl_cons, addSquare_guarded]
    exact ih (total.addSquare r)

lemma sumOfSquares_guarded (rs : List (Residual α)) :
    sumOfSquares (rs.map guarded) = (sumOfSquares rs).guarded :=
  foldl_addSquare_guarded rs (measured 0)

variable [Scalar.HasDomains α]

/-- What the squares of residuals add up to is not below zero. -/
lemma not_lt_zero_of_sumOfSquares {rs : List (Residual α)} {t : α}
    (sum : sumOfSquares rs = measured t) : ¬t < 0 := by
  refine List.foldlRecOn (motive := fun r => ∀ t, r = measured t → ¬t < 0) rs addSquare
    ?_ ?_ t sum
  · intro t start
    rw [← measured.inj start]
    exact Scalar.HasDomains.zero
  · intro total above r _ t sum
    cases total with
    | measured t' =>
      cases r with
      | measured x =>
        rw [← measured.inj sum]
        exact Scalar.HasDomains.sum (above t' rfl) (Scalar.HasDomains.square x)
      | infeasible =>
        rw [addSquare] at sum
        split at sum
        · exact above t sum
        · cases sum
    | infeasible =>
      cases r with
      | infeasible => cases sum
      | measured x =>
        rw [addSquare] at sum
        split at sum
        -- a sum that is infeasible becomes a number only where that is undefined
        · next undefined =>
          rw [isUndefined, Bool.not_eq_true', decide_eq_false_iff_not] at undefined
          rw [← measured.inj sum]
          exact Scalar.HasDomains.undefined undefined
        · cases sum

/-- A root mean square is taken within the domain of the root. -/
lemma rootMeanSquare_guarded (rs : List (Residual α)) :
    rootMeanSquare (rs.map guarded) = (rootMeanSquare rs).guarded := by
  by_cases nothing : rs = []
  · rw [nothing]
    rfl
  · have nothing' : rs.map guarded ≠ [] := nothing ∘ List.map_eq_nil_iff.mp
    rw [rootMeanSquare, rootMeanSquare, sumOfSquares_guarded, List.length_map]
    · cases sum : sumOfSquares rs with
      | infeasible => rfl
      | measured t =>
        have mean := Scalar.HasDomains.share rs.length (not_lt_zero_of_sumOfSquares sum)
        exact congrArg measured (Guarded.sqrt_inside mean)
    · exact nothing
    · exact nothing'

end Residual

namespace Constraint

variable [Scalar.IsPlain α] [Scalar.HasDomains α] [LawfulName ν]

/-- Measuring a constraint does not leave the domains of roots and arc cosines. -/
theorem residual_guarded (c : Constraint ν α) (entities : Snapshot ν α) :
    c.residual entities.guarded = (c.residual entities).guarded := by
  have resolved : c.resolve entities.guarded = (c.resolve entities).map Entity.guarded := by
    rw [resolve, resolve, List.map_filterMap]
    rfl
  have target : (Component.ofReal c.target : Guarded α) = inside c.target := rfl
  have target' : (Component.ofReal c.target : α) = c.target := rfl
  rw [residual, residual, resolved, target, target', Measure.formula_guarded]
  cases Measure.formula c.relation c.target (c.resolve entities) with
  | none => rfl
  | some x =>
    simp only [Option.map_some, Scalar.IsPlain.settle_eq]
    rfl

end Constraint

end Drafting
