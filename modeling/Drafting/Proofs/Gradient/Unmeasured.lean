import Drafting.Proofs.Gradient.Conflicts
import Drafting.Proofs.Gradient.Step

/-!
# Constraints without a formula

In exact arithmetic a constraint without a formula is always satisfied, so every slope found for it
is zero: a step is the same without it (`descend_filter`), and so are the conflicts of a failure
(`worst_filter`). It counts in the mean, though, which a plan without it takes over fewer residuals
(`totalResidual_filter`).
-/

namespace Drafting

variable {ν : Type} [Name ν]

namespace Gradient

/-! ### Slopes -/

/-- The slopes found for a constraint without a formula are zero. -/
lemma slope_of_unmeasured {c : Constraint ν ℝ} (unmeasured : c.relation.isMeasured = false)
    (entities : Table ν (Entity ν ℝ)) :
    ∀ s ∈ (trialsOf entities c).filterMap Trial.slope?, s.slope = 0 := by
  intro s found
  obtain ⟨base, before, id, -, e, -, freedom, -, nudged, after, rfl⟩ :=
    mem_filterMap_slope?.mp found
  rw [residual_of_unmeasured unmeasured] at before after
  rw [Residual.eq_of_finite? before, Residual.eq_of_finite? after]
  simp

lemma pull_of_flat {slopes : List (Slope ν ℝ)} (flat : ∀ s ∈ slopes, s.slope = 0) (id : ν)
    (freedom : Freedom ν) : pull slopes id freedom = 0 := by
  apply List.sum_eq_zero
  intro x there
  obtain ⟨s, member, rfl⟩ := List.mem_map.mp there
  exact flat s (List.mem_of_mem_filter (List.mem_of_mem_filter member))

lemma slopes_cons (c : Constraint ν ℝ) (plan : List (Constraint ν ℝ))
    (entities : Table ν (Entity ν ℝ)) :
    slopes (c :: plan) entities =
      (trialsOf entities c).filterMap Trial.slope? ++ slopes plan entities := by
  rw [slopes, slopes, survey_eq_flatMap, survey_eq_flatMap, List.flatMap_cons,
    List.filterMap_append]

section

variable {keep : Constraint ν ℝ → Bool} {plan : List (Constraint ν ℝ)}

/-- Constraints without a formula pull at nothing. -/
lemma pull_slopes_filter (unmeasured : ∀ c ∈ plan, keep c = false → c.relation.isMeasured = false)
    (entities : Table ν (Entity ν ℝ)) (id : ν) (freedom : Freedom ν) :
    pull (slopes (plan.filter keep) entities) id freedom =
      pull (slopes plan entities) id freedom := by
  induction plan with
  | nil => rfl
  | cons c rest ih =>
    obtain ⟨first, others⟩ := List.forall_mem_cons.mp unmeasured
    rw [slopes_cons, pull_append]
    cases kept : keep c with
    | true => rw [List.filter_cons_of_pos kept, slopes_cons, pull_append, ih others]
    | false =>
      rw [List.filter_cons_of_neg (by rw [kept]; exact Bool.false_ne_true), ih others,
        pull_of_flat (slope_of_unmeasured (first kept) entities), zero_add]

/-! ### Steps -/

section

variable {keep : Constraint String ℝ → Bool} {plan : List (Constraint String ℝ)}

/-- A step is the same without constraints that have no formula. -/
lemma descend_filter (unmeasured : ∀ c ∈ plan, keep c = false → c.relation.isMeasured = false)
    (damping : ℝ) (entities : Table String (Entity String ℝ)) :
    descend damping (plan.filter keep) entities = descend damping plan entities := by
  rw [descend_eq_mapValues, descend_eq_mapValues]
  congr
  funext id e
  rw [applySlopes_eq_shiftedBy, applySlopes_eq_shiftedBy]
  congr
  funext freedom
  rw [getD_change?, getD_change?]
  congr 2
  exact pull_slopes_filter unmeasured entities id freedom

lemma entitiesAfter_filter
    (unmeasured : ∀ c ∈ plan, keep c = false → c.relation.isMeasured = false) (damping : ℝ)
    (entities : Table String (Entity String ℝ)) (count : Nat) :
    entitiesAfter damping (plan.filter keep) entities count =
      entitiesAfter damping plan entities count := by
  rw [entitiesAfter, funext (descend_filter unmeasured damping)]
  rfl

end

/-! ### Residuals and conflicts -/

lemma residual_zero_of_unmeasured
    (unmeasured : ∀ c ∈ plan, keep c = false → c.relation.isMeasured = false)
    (entities : Table ν (Entity ν ℝ)) :
    ∀ c ∈ plan, keep c = false → c.residual (snapshot entities) = .measured 0 :=
  fun c planned dropped => residual_of_unmeasured (unmeasured c planned dropped) _

/-- Constraints without a formula count in the mean that the residual of a plan is. -/
lemma totalResidual_filter
    (unmeasured : ∀ c ∈ plan, keep c = false → c.relation.isMeasured = false)
    (entities : Table ν (Entity ν ℝ)) :
    totalResidual (plan.filter keep) entities =
      (totalResidual plan entities).scale √(plan.length / (plan.filter keep).length) :=
  Residual.rootMeanSquare_filter (residual_zero_of_unmeasured unmeasured entities)

/-- No constraint without a formula is in conflict. -/
lemma worst_filter (unmeasured : ∀ c ∈ plan, keep c = false → c.relation.isMeasured = false)
    {tolerance : ℝ} (nonneg : 0 ≤ tolerance) (entities : Table ν (Entity ν ℝ)) :
    worst tolerance (plan.filter keep) entities = worst tolerance plan entities := by
  have same : exceeding (tolerance * conflictFactor) (plan.filter keep) (snapshot entities) =
      exceeding (tolerance * conflictFactor) plan (snapshot entities) := by
    rw [exceeding, exceeding, List.filter_filter]
    refine List.filter_congr fun c planned => ?_
    cases kept : keep c with
    | true => rw [Bool.and_true]
    | false =>
      rw [Bool.and_false, eq_comm, ← Bool.not_eq_true]
      intro exceeds
      have measured := isMeasured_of_exceeds nonneg exceeds
      rw [unmeasured c planned kept] at measured
      cases measured
  rw [worst_eq, worst_eq, same]

/-- A plan without constraints that have no formula is settled where the whole plan is within a
tolerance that is less in proportion to the roots of their lengths. -/
lemma isSettled_filter
    (unmeasured : ∀ c ∈ plan, keep c = false → c.relation.isMeasured = false)
    (tolerance : ℝ) (entities : Table ν (Entity ν ℝ)) :
    isSettled tolerance (plan.filter keep) entities =
      isSettled (tolerance * √((plan.filter keep).length / plan.length)) plan entities := by
  rw [Bool.eq_iff_iff, isSettled_iff, isSettled_iff]
  by_cases nothing : plan = []
  · rw [nothing]
    exact iff_of_true (.inl rfl) (.inl rfl)
  by_cases none : plan.filter keep = []
  -- nothing that is left counts, so that the whole plan has the residual zero
  · have zero : totalResidual plan entities = .measured 0 := by
      have squares := Residual.sumOfSquares_filter (residual_zero_of_unmeasured unmeasured entities)
      rw [none] at squares
      rw [totalResidual, Residual.rootMeanSquare_eq_map, ← squares]
      simp [Residual.sumOfSquares, Residual.map]
    rw [none, zero]
    exact iff_of_true (.inl rfl) (.inr ⟨0, rfl, by simp⟩)
  · have factor : 0 < √(((plan.filter keep).length : ℝ) / plan.length) := by
      have whole := List.length_pos_of_ne_nil nothing
      have part := List.length_pos_of_ne_nil none
      positivity
    rw [totalResidual_filter unmeasured, ← inv_div, Real.sqrt_inv, or_iff_right nothing,
      or_iff_right none]
    cases totalResidual plan entities with
    | infeasible => exact iff_of_false (by rintro ⟨r, h, -⟩; cases h) (by rintro ⟨r, h, -⟩; cases h)
    | measured r =>
      simp only [Residual.scale, Residual.map, Residual.measured.injEq, exists_eq_left',
        inv_mul_le_iff₀ factor, mul_comm tolerance]

lemma isSettled_mono {tolerance tolerance' : ℝ} (le : tolerance ≤ tolerance')
    {entities : Table ν (Entity ν ℝ)} (settled : isSettled tolerance plan entities = true) :
    isSettled tolerance' plan entities = true := by
  rw [isSettled_iff] at settled ⊢
  exact settled.imp id fun ⟨r, residual, small⟩ => ⟨r, residual, small.trans le⟩

end

/-! ### Solves -/

section

variable {keep : Constraint String ℝ → Bool} {settings : Settings ℝ}
  {entities : Table String (Entity String ℝ)}
  {constraints constraints' : List (Constraint String ℝ)}

/-- Settings with a tolerance that is less in proportion to the roots of two numbers. -/
noncomputable def Settings.tightened (settings : Settings ℝ) (part whole : ℕ) : Settings ℝ :=
  { settings with tolerance := settings.tolerance * √(part / whole) }

lemma Settings.tightened_le {part whole : ℕ} (nonneg : 0 ≤ settings.tolerance)
    (le : part ≤ whole) : (settings.tightened part whole).tolerance ≤ settings.tolerance := by
  have ratio : (part : ℝ) / whole ≤ 1 := div_le_one_of_le₀ (by exact_mod_cast le) (by positivity)
  exact mul_le_of_le_one_right nonneg (Real.sqrt_le_one.mpr ratio)

variable (planned : plan entities constraints' = (plan entities constraints).filter keep)
  (unmeasured : ∀ c ∈ plan entities constraints, keep c = false → c.relation.isMeasured = false)

include planned unmeasured

lemma entitiesAfter_of_filter (damping : ℝ) (count : ℕ) :
    entitiesAfter damping (plan entities constraints') entities count =
      entitiesAfter damping (plan entities constraints) entities count := by
  rw [planned, entitiesAfter_filter unmeasured]

/-- Without constraints that have no formula, a run is settled where a stricter one is. -/
lemma isSettled_of_filter (count : ℕ) :
    isSettled settings.tolerance (plan entities constraints')
        (entitiesAfter settings.damping (plan entities constraints') entities count) =
      isSettled (settings.tightened (plan entities constraints').length
          (plan entities constraints).length).tolerance (plan entities constraints)
        (entitiesAfter settings.damping (plan entities constraints) entities count) := by
  rw [entitiesAfter_of_filter planned unmeasured, planned, isSettled_filter unmeasured]
  rfl

/-- Without constraints that have no formula, a solve makes as many steps as a stricter one. -/
lemma solve_iterations_of_filter :
    (solve settings entities constraints').iterations =
      (solve (settings.tightened (plan entities constraints').length
        (plan entities constraints).length) entities constraints).iterations := by
  apply Nat.le_antisymm
  · refine solve_iterations_le_of_isSettled rfl fun count settled => ?_
    rw [isSettled_of_filter planned unmeasured]
    exact settled
  · refine solve_iterations_le_of_isSettled rfl fun count settled => ?_
    rw [isSettled_of_filter planned unmeasured] at settled
    exact settled

lemma solve_entities_of_filter :
    (solve settings entities constraints').entities =
      (solve (settings.tightened (plan entities constraints').length
        (plan entities constraints).length) entities constraints).entities := by
  rw [solve_entities, solve_entities, solve_iterations_of_filter planned unmeasured,
    entitiesAfter_of_filter planned unmeasured]
  rfl

lemma solve_success_of_filter :
    (solve settings entities constraints').success =
      (solve (settings.tightened (plan entities constraints').length
        (plan entities constraints).length) entities constraints).success := by
  rw [solve_success, solve_success, solve_entities, isSettled_of_filter planned unmeasured,
    solve_iterations_of_filter planned unmeasured, solve_entities]
  rfl

/-- After as many steps, the entities are the same without constraints that have no formula. -/
lemma solve_entities_of_iterations_eq
    (same : (solve settings entities constraints').iterations =
      (solve settings entities constraints).iterations) :
    (solve settings entities constraints').entities =
      (solve settings entities constraints).entities := by
  rw [solve_entities, same, entitiesAfter_of_filter planned unmeasured, ← solve_entities]

lemma solve_residual_of_iterations_eq
    (same : (solve settings entities constraints').iterations =
      (solve settings entities constraints).iterations) :
    (solve settings entities constraints').residual =
      (solve settings entities constraints).residual.scale
        √((plan entities constraints).length / (plan entities constraints').length) := by
  rw [solve_residual, solve_entities_of_iterations_eq planned unmeasured same, planned,
    totalResidual_filter unmeasured, ← solve_residual]

variable (nonneg : 0 ≤ settings.tolerance)

include nonneg

/-- A run without constraints that have no formula is settled only where the whole run is. -/
lemma isSettled_of_isSettled_filter {count : ℕ}
    (settled : isSettled settings.tolerance (plan entities constraints')
      (entitiesAfter settings.damping (plan entities constraints') entities count) = true) :
    isSettled settings.tolerance (plan entities constraints)
      (entitiesAfter settings.damping (plan entities constraints) entities count) = true := by
  rw [isSettled_of_filter planned unmeasured] at settled
  refine isSettled_mono (Settings.tightened_le nonneg ?_) settled
  rw [planned]
  exact List.length_filter_le _ _

lemma solve_iterations_le_of_filter :
    (solve settings entities constraints).iterations ≤
      (solve settings entities constraints').iterations :=
  solve_iterations_le_of_isSettled rfl fun _ =>
    isSettled_of_isSettled_filter planned unmeasured nonneg

/-- A solve that fails makes as many steps without constraints that have no formula. -/
lemma solve_iterations_of_filter_of_failure
    (failed : (solve settings entities constraints).success = false) :
    (solve settings entities constraints').iterations =
      (solve settings entities constraints).iterations := by
  refine Nat.le_antisymm ?_ (solve_iterations_le_of_filter planned unmeasured nonneg)
  rw [solve_iterations_of_failure failed]
  exact solve_iterations_le

/-- A solve that succeeds without constraints that have no formula succeeds with them. -/
lemma solve_success_of_success_filter
    (succeeded : (solve settings entities constraints').success = true) :
    (solve settings entities constraints).success = true := by
  rw [← Bool.not_eq_false]
  intro failed
  have busy := failed
  rw [solve_success, solve_entities, ← solve_iterations_of_filter_of_failure planned unmeasured
    nonneg failed] at busy
  rw [solve_success, solve_entities] at succeeded
  rw [isSettled_of_isSettled_filter planned unmeasured nonneg succeeded] at busy
  cases busy

end

end Gradient

end Drafting
