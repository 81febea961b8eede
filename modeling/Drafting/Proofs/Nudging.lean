import Drafting.Proofs.Entity
import Drafting.Proofs.Residual
import Drafting.Proofs.Space

/-!
# What a nudge changes

Moving one entity along one of its freedoms changes no residual by more than the size of the move
(`Constraint.abs_residual_sub_le`), whichever formula the residual is found by and however often the
entity is named, if directions are of unit length. A nudge moves the position or the parameter of
an entity by its size (`Entity.norm_nudge_sub_le`, `Entity.abs_nudge_sub_le`), so two entities move
against each other by no more than that (`Entity.ArePulled`); distances, distances from lines and
differences of lengths follow, and the other formulas read nothing that moves.
-/

namespace Drafting

variable {ν : Type} [Name ν]

namespace Entity

/-- An entity that has no direction, or one of unit length. -/
def HasUnitDirection (e : Entity ν ℝ) : Prop := ∀ u, e.direction = some u → u.norm = 1

/-- Two entities in place of two others, with the same frames, that have moved against each other by
a distance at most. -/
structure ArePulled (delta : ℝ) (a' b' a b : Entity ν ℝ) : Prop where
  first : a'.IsFramedBy a
  second : b'.IsFramedBy b
  positions : ∀ p ∈ a.position, ∀ q ∈ b.position, ∀ p' ∈ a'.position, ∀ q' ∈ b'.position,
    ‖(p'.toSpace - q'.toSpace) - (p.toSpace - q.toSpace)‖ ≤ delta
  parameters : ∀ name, ∀ m ∈ a.parameters.get? name, ∀ n ∈ b.parameters.get? name,
    ∀ m' ∈ a'.parameters.get? name, ∀ n' ∈ b'.parameters.get? name, |(m' - n') - (m - n)| ≤ delta

end Entity

namespace Measure

open Entity

/-- How far a number is from a target changes by no more than the number. -/
lemma abs_abs_sub_sub_le (x' x target : ℝ) :
    |Scalar.abs (x' - target) - Scalar.abs (x - target)| ≤ |x' - x| := by
  refine (abs_abs_sub_abs_le (x' - target) (x - target)).trans_eq ?_
  rw [sub_sub_sub_cancel_right]

section

variable {delta : ℝ} {a' b' a b : Entity ν ℝ} (rest rest' : List (Entity ν ℝ)) {r r' : ℝ}
  (pulled : ArePulled delta a' b' a b)

include pulled

lemma abs_coincident_sub_le (before : coincident (a :: b :: rest) = some r)
    (after : coincident (a' :: b' :: rest') = some r') : |r' - r| ≤ delta := by
  simp only [coincident, Option.bind_eq_bind, Option.bind_eq_some_iff, Option.pure_def,
    Option.some.injEq] at before after
  obtain ⟨p, first, q, second, rfl⟩ := before
  obtain ⟨p', first', q', second', rfl⟩ := after
  exact (Vector3.abs_distance_sub_le ..).trans
    (pulled.positions p first q second p' first' q' second')

variable (unit : b.HasUnitDirection)

include unit

lemma abs_tangent_sub_le (before : tangent (a :: b :: rest) = some r)
    (after : tangent (a' :: b' :: rest') = some r') : |r' - r| ≤ delta := by
  simp only [tangent, pulled.first.kind, pulled.second.kind, pulled.first.properRadius?_eq,
    pulled.second.direction] at before after
  split at before
  · next kinds =>
    rw [if_pos kinds] at after
    simp only [Option.bind_eq_bind, Option.bind_eq_some_iff, Option.pure_def,
      Option.some.injEq] at before after
    obtain ⟨ρ, proper, p, first, q, second, u, direction, rfl⟩ := before
    obtain ⟨ρ', proper', p', first', q', second', u', direction', rfl⟩ := after
    cases proper.symm.trans proper'
    cases direction.symm.trans direction'
    exact ((abs_abs_sub_sub_le _ _ ρ).trans
      (Vector3.abs_offLine_sub_le _ _ _ _ (unit u direction))).trans
      (pulled.positions p first q second p' first' q' second')
  · cases before

lemma abs_distance_sub_le {target : ℝ} (before : distance target (a :: b :: rest) = some r)
    (after : distance target (a' :: b' :: rest') = some r') : |r' - r| ≤ delta := by
  simp only [distance, pulled.first.kind, pulled.second.kind,
    pulled.second.direction] at before after
  split at before
  · next points =>
    rw [if_pos points] at after
    simp only [Option.bind_eq_bind, Option.bind_eq_some_iff, Option.pure_def,
      Option.some.injEq] at before after
    obtain ⟨p, first, q, second, rfl⟩ := before
    obtain ⟨p', first', q', second', rfl⟩ := after
    exact ((abs_abs_sub_sub_le _ _ target).trans (Vector3.abs_distance_sub_le ..)).trans
      (pulled.positions p first q second p' first' q' second')
  · next other =>
    rw [if_neg other] at after
    split at before
    · next line =>
      rw [if_pos line] at after
      simp only [Option.bind_eq_bind, Option.bind_eq_some_iff, Option.pure_def,
        Option.some.injEq] at before after
      obtain ⟨p, first, q, second, u, direction, rfl⟩ := before
      obtain ⟨p', first', q', second', u', direction', rfl⟩ := after
      cases direction.symm.trans direction'
      exact ((abs_abs_sub_sub_le _ _ target).trans
        (Vector3.abs_offLine_sub_le _ _ _ _ (unit u direction))).trans
        (pulled.positions p first q second p' first' q' second')
    · cases before

omit unit in
lemma abs_equal_sub_le (nonneg : 0 ≤ delta) (before : equal (a :: b :: rest) = some r)
    (after : equal (a' :: b' :: rest') = some r') : |r' - r| ≤ delta := by
  simp only [equal, pulled.first.kind, pulled.second.kind, pulled.first.properRadius?_eq,
    pulled.second.properRadius?_eq] at before after
  split at before
  · next lines =>
    rw [if_pos lines] at after
    simp only [Option.bind_eq_bind, Option.bind_eq_some_iff, Option.pure_def,
      Option.some.injEq] at before after
    obtain ⟨m, first, n, second, rfl⟩ := before
    obtain ⟨m', first', n', second', rfl⟩ := after
    exact (abs_abs_sub_abs_le _ _).trans
      (pulled.parameters _ m first n second m' first' n' second')
  · next other =>
    -- radii do not move
    rw [if_neg other, before, Option.some.injEq] at after
    rwa [after, sub_self, abs_zero]

end

end Measure

namespace Entity

variable {e : Entity ν ℝ} {freedom : Freedom ν} {delta : ℝ}

/-- An entity in its place, or a given one moved along one of its freedoms. -/
inductive IsTrialOf (e : Entity ν ℝ) (freedom : Freedom ν) (delta : ℝ) :
    Entity ν ℝ → Entity ν ℝ → Prop where
  | still (x : Entity ν ℝ) : IsTrialOf e freedom delta x x
  | moved : IsTrialOf e freedom delta (e.nudge freedom delta) e

lemma IsTrialOf.isFramedBy {x' x : Entity ν ℝ} (trial : IsTrialOf e freedom delta x' x) :
    x'.IsFramedBy x := by
  cases trial with
  | still => exact .refl _
  | moved => exact e.isFramedBy_nudge freedom delta

/-- A nudge moves the position by its size at most. -/
lemma norm_nudge_sub_le {p p' : Vector3 ℝ} (before : p ∈ e.position)
    (after : p' ∈ (e.nudge freedom delta).position) : ‖p'.toSpace - p.toSpace‖ ≤ |delta| := by
  cases freedom with
  | position axis =>
    rw [nudge, moveTo, before, Option.map_some, Option.mem_def, Option.some.injEq] at after
    rw [← after, Vector3.norm_toSpace_shift_sub]
  | parameter name =>
    cases Option.mem_unique before after
    rw [sub_self, norm_zero]
    exact abs_nonneg delta

/-- So it does with a parameter. -/
lemma abs_nudge_sub_le [LawfulName ν] {name : ν} {m m' : ℝ} (before : m ∈ e.parameters.get? name)
    (after : m' ∈ (e.nudge freedom delta).parameters.get? name) : |m' - m| ≤ |delta| := by
  have changed := e.value?_nudge freedom (.parameter name) delta
  rw [value?, after, value?, before] at changed
  split at changed
  · cases changed
    rw [add_sub_cancel_left]
  · cases changed
    rw [sub_self, abs_zero]
    exact abs_nonneg delta

/-- What two entities have does not move against each other by more than a nudge moves it, also if
they are the same entity. -/
lemma IsTrialOf.norm_sub_sub_le {E : Type} [SeminormedAddCommGroup E] {f : Entity ν ℝ → Option E}
    (nudged : ∀ x ∈ f e, ∀ x' ∈ f (e.nudge freedom delta), ‖x' - x‖ ≤ |delta|)
    {a' b' a b : Entity ν ℝ} (first : IsTrialOf e freedom delta a' a)
    (second : IsTrialOf e freedom delta b' b) {x y x' y' : E} (here : x ∈ f a) (there : y ∈ f b)
    (here' : x' ∈ f a') (there' : y' ∈ f b') : ‖(x' - y') - (x - y)‖ ≤ |delta| := by
  cases first with
  | still =>
    cases Option.mem_unique here here'
    cases second with
    | still =>
      cases Option.mem_unique there there'
      rw [sub_self, norm_zero]
      exact abs_nonneg delta
    | moved =>
      rw [sub_sub_sub_cancel_left, norm_sub_rev]
      exact nudged y there y' there'
  | moved =>
    cases second with
    | still =>
      cases Option.mem_unique there there'
      rw [sub_sub_sub_cancel_right]
      exact nudged x here x' here'
    | moved =>
      cases Option.mem_unique here there
      cases Option.mem_unique here' there'
      rw [sub_self, sub_self, sub_self, norm_zero]
      exact abs_nonneg delta

lemma IsTrialOf.arePulled [LawfulName ν] {a' b' a b : Entity ν ℝ}
    (first : IsTrialOf e freedom delta a' a) (second : IsTrialOf e freedom delta b' b) :
    ArePulled |delta| a' b' a b where
  first := first.isFramedBy
  second := second.isFramedBy
  positions p here q there p' here' q' there' := by
    refine first.norm_sub_sub_le (f := fun x => x.position.map Vector3.toSpace) ?_ second
      (Option.mem_map_of_mem _ here) (Option.mem_map_of_mem _ there)
      (Option.mem_map_of_mem _ here') (Option.mem_map_of_mem _ there')
    intro x before x' after
    obtain ⟨p, position, rfl⟩ := Option.mem_map.mp before
    obtain ⟨p', position', rfl⟩ := Option.mem_map.mp after
    exact norm_nudge_sub_le position position'
  parameters name m here n there m' here' n' there' :=
    first.norm_sub_sub_le (f := fun x => x.parameters.get? name)
      (fun _ before _ after => abs_nudge_sub_le before after) second here there here' there'

end Entity

/-! ### Residuals -/

namespace Measure

open Entity

variable {e : Entity ν ℝ} {freedom : Freedom ν} {delta : ℝ}

/-- A formula changes by no more than an entity is nudged. -/
lemma abs_formula_sub_le [LawfulName ν] {relation : Relation} {target : ℝ}
    {xs' xs : List (Entity ν ℝ)} (trials : List.Forall₂ (IsTrialOf e freedom delta) xs' xs)
    (unit : ∀ x ∈ xs, x.HasUnitDirection) {r r' : ℝ} (before : formula relation target xs = some r)
    (after : formula relation target xs' = some r') : |r' - r| ≤ |delta| := by
  have same (unread : formula relation target xs' = formula relation target xs) :
      |r' - r| ≤ |delta| := by
    rw [unread, before, Option.some.injEq] at after
    rw [after, sub_self, abs_zero]
    exact abs_nonneg delta
  cases trials with
  | nil => exact same rfl
  | @cons a' a _ _ first others =>
    have framed := first.isFramedBy
    cases others with
    | nil =>
      cases relation with
      | horizontal => exact same (by simp only [formula, horizontal, framed.direction])
      | vertical => exact same (by simp only [formula, vertical, framed.direction])
      | radius => exact same (by simp only [formula, radius, framed.kind, framed.properRadius?_eq])
      | concentric | symmetric | fixed | unknown => exact same rfl
      | coincident | parallel | perpendicular | tangent | distance | angle | equal => cases before
    | @cons b' b rest' rest second others =>
      have pulled := first.arePulled second
      have unit := unit b (List.mem_cons_of_mem _ List.mem_cons_self)
      cases relation with
      | coincident => exact abs_coincident_sub_le rest rest' pulled before after
      | tangent => exact abs_tangent_sub_le rest rest' pulled unit before after
      | distance => exact abs_distance_sub_le rest rest' pulled unit before after
      | equal => exact abs_equal_sub_le rest rest' pulled (abs_nonneg delta) before after
      | parallel =>
        exact same (by simp only [formula, parallel, framed.direction, pulled.second.direction])
      | perpendicular =>
        exact same (by
          simp only [formula, perpendicular, framed.direction, pulled.second.direction])
      | angle =>
        exact same (by simp only [formula, angle, framed.direction, pulled.second.direction])
      | horizontal => exact same (by simp only [formula, horizontal, framed.direction])
      | vertical => exact same (by simp only [formula, vertical, framed.direction])
      | radius => exact same (by simp only [formula, radius, framed.kind, framed.properRadius?_eq])
      | concentric | symmetric | fixed | unknown => exact same rfl

end Measure

namespace Constraint

variable {c : Constraint ν ℝ} {entities : Snapshot ν ℝ} {id : ν} {e : Entity ν ℝ}
  {freedom : Freedom ν} {delta : ℝ}

lemma formula_of_residual {r : ℝ} (measured : c.residual entities = .measured r) :
    Measure.formula c.relation c.target (c.resolve entities) = some r := by
  have found : Residual.ofOption ((Measure.formula c.relation c.target (c.resolve entities)).map
      Scalar.settle) = .measured r := measured
  cases formula : Measure.formula c.relation c.target (c.resolve entities) with
  | none =>
    rw [formula] at found
    cases found
  | some r' =>
    rw [formula] at found
    cases found
    rfl

variable [LawfulName ν] (there : entities id = some e)

include there

/-- A trial puts the entity that it moves in its place wherever a constraint names it. -/
lemma forall₂_resolve_replace : List.Forall₂ (Entity.IsTrialOf e freedom delta)
    (c.resolve (entities.replace id (e.nudge freedom delta))) (c.resolve entities) := by
  refine List.rel_filterMap (R := Eq) ?_ (List.forall₂_eq_eq_eq ▸ rfl)
  rintro name _ rfl
  rw [Snapshot.replace]
  split
  · next same =>
    rw [eq_of_beq same, there]
    exact .some .moved
  · cases entities name with
    | none => exact .none
    | some x => exact .some (.still x)

/-- A residual changes by no more than an entity is nudged. -/
lemma abs_residual_sub_le
    (unit : ∀ name ∈ c.entities, ∀ x, entities name = some x → x.HasUnitDirection) {r r' : ℝ}
    (before : c.residual entities = .measured r)
    (after : c.residual (entities.replace id (e.nudge freedom delta)) = .measured r') :
    |r' - r| ≤ |delta| := by
  refine Measure.abs_formula_sub_le (forall₂_resolve_replace there) (fun x found => ?_)
    (formula_of_residual before) (formula_of_residual after)
  obtain ⟨name, named, found⟩ := List.mem_filterMap.mp found
  exact unit name named x found

end Constraint

end Drafting
