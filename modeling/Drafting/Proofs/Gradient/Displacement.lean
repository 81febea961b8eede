import Drafting.Proofs.Gradient.Step
import Drafting.Proofs.Nudging

/-!
# How far steps go

No difference quotient is greater than one where directions are of unit length, so a step moves a
number by no more than a hundredth of the damping for each constraint that names its entity
(`movesWithin_descend`), and steps by that much each (`movesWithin_entitiesAfter`).
-/

namespace Drafting

variable {ν : Type} [Name ν]

namespace Gradient

/-- No difference quotient is greater than one. -/
lemma abs_quotient_le_one [LawfulName ν] {c : Constraint ν ℝ} {entities : Snapshot ν ℝ} {id : ν}
    {e : Entity ν ℝ} (there : entities id = some e)
    (unit : ∀ name ∈ c.entities, ∀ x, entities name = some x → x.HasUnitDirection)
    (freedom : Freedom ν) : |quotient c entities id e freedom| ≤ 1 := by
  rw [quotient]
  split
  · next base nudged before after =>
    have close := c.abs_residual_sub_le there unit (Residual.eq_measured_of_finite? before)
      (Residual.eq_measured_of_finite? after)
    rw [abs_div]
    exact div_le_one_of_le₀ close (abs_nonneg _)
  · rw [abs_zero]
    exact zero_le_one

/-- How many constraints of a plan name an entity. -/
def naming (plan : List (Constraint ν ℝ)) (id : ν) : ℕ :=
  (plan.filter fun c => c.entities.contains id).length

lemma abs_quotients_le [LawfulName ν] {plan : List (Constraint ν ℝ)} {entities : Snapshot ν ℝ}
    {id : ν} {e : Entity ν ℝ} (there : entities id = some e)
    (unit : ∀ name x, entities name = some x → x.HasUnitDirection) (freedom : Freedom ν) :
    |quotients plan entities id e freedom| ≤ naming plan id := by
  rw [quotients, naming]
  generalize plan.filter (fun c => c.entities.contains id) = named
  induction named with
  | nil => simp
  | cons c rest ih =>
    have first := abs_quotient_le_one there (fun name _ => unit name) (c := c) freedom
    rw [List.map_cons, List.sum_cons, List.length_cons, Nat.cast_succ, add_comm]
    exact (abs_add_le _ _).trans (add_le_add ih first)

/-! ### Moves -/

/-- The number along a freedom of the entity with an id, if there is any. -/
def valueAt {τ : Type} (entities : Table ν (Entity ν τ)) (id : ν) (freedom : Freedom ν) :
    Option τ :=
  (entities.get? id).bind fun e => e.value? freedom

/-- Entities that come of others with no number moved by more than a limit for its entity. -/
def MovesWithin (limit : ν → ℝ) (entities entities' : Table ν (Entity ν ℝ)) : Prop :=
  ∀ id freedom x, valueAt entities id freedom = some x →
    ∃ x', valueAt entities' id freedom = some x' ∧ |x' - x| ≤ limit id

lemma MovesWithin.trans {limit limit' : ν → ℝ}
    {entities₁ entities₂ entities₃ : Table ν (Entity ν ℝ)}
    (first : MovesWithin limit entities₁ entities₂)
    (second : MovesWithin limit' entities₂ entities₃) :
    MovesWithin (fun id => limit id + limit' id) entities₁ entities₃ := by
  intro id freedom x here
  obtain ⟨y, there, near⟩ := first id freedom x here
  obtain ⟨z, beyond, far⟩ := second id freedom y there
  refine ⟨z, beyond, ?_⟩
  calc |z - x| ≤ |z - y| + |y - x| := abs_sub_le z y x
    _ ≤ limit id + limit' id := by rw [add_comm]; exact add_le_add near far

lemma MovesWithin.mono {limit limit' : ν → ℝ} {entities entities' : Table ν (Entity ν ℝ)}
    (moves : MovesWithin limit entities entities') (le : ∀ id, limit id ≤ limit' id) :
    MovesWithin limit' entities entities' := by
  intro id freedom x here
  obtain ⟨x', there, near⟩ := moves id freedom x here
  exact ⟨x', there, near.trans (le id)⟩

variable {entities : Table String (Entity String ℝ)}
  (unit : ∀ id e, entities.get? id = some e → e.HasUnitDirection) (damping : ℝ)
  (plan : List (Constraint String ℝ))

include unit

/-- No step moves a number by more than a hundredth of the damping for each constraint that names
its entity. -/
lemma movesWithin_descend : MovesWithin (fun id => 0.01 * |damping| * naming plan id) entities
    (descend damping plan entities) := by
  intro id freedom x here
  obtain ⟨e, there, value⟩ := Option.bind_eq_some_iff.mp here
  obtain ⟨e', there', -, moved⟩ := exists_get?_descend there damping plan
  have slopes : |quotients plan (snapshot entities) id e freedom| ≤ naming plan id :=
    abs_quotients_le there unit freedom
  have hundredth : (0 : ℝ) < 0.01 := by norm_num
  refine ⟨x - 0.01 * damping * quotients plan (snapshot entities) id e freedom, ?_, ?_⟩
  · rw [valueAt, there', Option.bind_some, moved, value]
    rfl
  · calc |x - 0.01 * damping * quotients plan (snapshot entities) id e freedom - x|
        = 0.01 * |damping| * |quotients plan (snapshot entities) id e freedom| := by
          rw [sub_sub_cancel_left, abs_neg, abs_mul, abs_mul, abs_of_pos hundredth]
      _ ≤ 0.01 * |damping| * naming plan id :=
          mul_le_mul_of_nonneg_left slopes (by positivity)

/-- Steps do not turn directions. -/
lemma hasUnitDirection_of_entitiesAfter (count : ℕ) :
    ∀ id e, (entitiesAfter damping plan entities count).get? id = some e →
      e.HasUnitDirection := by
  intro id e' there'
  have kept := rel_get?_entitiesAfter damping plan entities count id
  rw [there'] at kept
  cases there : entities.get? id with
  | none =>
    rw [there] at kept
    cases kept
  | some e =>
    rw [there] at kept
    obtain ⟨framed⟩ := kept
    exact fun u direction => unit id e there u (framed.direction ▸ direction)

lemma movesWithin_entitiesAfter_succ (count : ℕ) :
    MovesWithin (fun id => 0.01 * |damping| * naming plan id)
      (entitiesAfter damping plan entities count)
      (entitiesAfter damping plan entities (count + 1)) := by
  rw [entitiesAfter_succ]
  exact movesWithin_descend (hasUnitDirection_of_entitiesAfter unit damping plan count) damping plan

/-- Steps move a number by no more than as many times what one of them does. -/
lemma movesWithin_entitiesAfter (count : ℕ) :
    MovesWithin (fun id => count * (0.01 * |damping| * naming plan id)) entities
      (entitiesAfter damping plan entities count) := by
  induction count with
  | zero => exact fun id freedom x here => ⟨x, here, by simp⟩
  | succ n ih =>
    -- the directions are still of unit length when the last step is made
    refine (ih.trans (movesWithin_entitiesAfter_succ unit damping plan n)).mono fun id => ?_
    push_cast
    rw [add_one_mul]

end Gradient

end Drafting
