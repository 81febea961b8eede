import Drafting.Gradient.Solution
import Drafting.Proofs.Iteration
import Drafting.Proofs.Residual
import Mathlib.Order.Bounds.Basic

/-!
# Runs of the gradient descent

What a solution says is read off the entities that its steps lead to. The iterates of a run carry
their residuals with them, so they are the iterates of `descend` (`iterate_next`), and each field of
a solution is a function of the last of them. An empty plan is no exception but for success.
-/

namespace Drafting.Gradient

variable {ν τ α : Type} [Name ν] [Scalar τ] [Scalar α] [Component τ α]

/-- The entities after a number of steps. -/
def entitiesAfter (damping : τ) (plan : List (Constraint ν α)) (entities : Table ν (Entity ν τ))
    (count : Nat) : Table ν (Entity ν τ) :=
  (descend damping plan)^[count] entities

/-- Whether a plan asks for no more steps: it is empty, or its residual is within the tolerance. -/
def isSettled (tolerance : τ) (plan : List (Constraint ν α)) (entities : Table ν (Entity ν τ)) :
    Bool :=
  plan.isEmpty || (totalResidual plan entities).isAtMost tolerance

/-- A plan over the reals is settled if it is empty or its residual is a number within the
tolerance. -/
lemma isSettled_iff {tolerance : ℝ} {plan : List (Constraint ν ℝ)}
    {entities : Table ν (Entity ν ℝ)} :
    isSettled tolerance plan entities = true ↔
      plan = [] ∨ ∃ r, totalResidual plan entities = .measured r ∧ r ≤ tolerance := by
  rw [isSettled, Bool.or_eq_true, List.isEmpty_iff, Residual.isAtMost_iff]

lemma entitiesAfter_succ (damping : τ) (plan : List (Constraint ν α))
    (entities : Table ν (Entity ν τ)) (count : Nat) :
    entitiesAfter damping plan entities (count + 1) =
      descend damping plan (entitiesAfter damping plan entities count) :=
  Function.iterate_succ_apply' _ count entities

lemma iterate_next (damping : τ) (plan : List (Constraint ν α)) (entities : Table ν (Entity ν τ))
    (count : Nat) :
    (Iterate.next damping plan)^[count] (.of plan entities) =
      .of plan (entitiesAfter damping plan entities count) := by
  induction count with
  | zero => rfl
  | succ n ih =>
    rw [Function.iterate_succ_apply', ih, entitiesAfter_succ]
    rfl

section

variable {settings : Settings τ} {entities : Table ν (Entity ν τ)}
  {constraints : List (Constraint ν α)}

/-! ### Solutions of plans -/

lemma solve_eq_trivial (nothing : plan entities constraints = []) :
    solve settings entities constraints = .trivial entities (diagnose entities constraints) := by
  simp only [solve, nothing]

lemma solve_eq_ofRun (planned : plan entities constraints ≠ []) :
    solve settings entities constraints =
      .ofRun settings (plan entities constraints) (diagnose entities constraints)
        (.of (plan entities constraints) entities)
        (run settings (plan entities constraints) (.of (plan entities constraints) entities)) := by
  rw [solve]
  cases h : plan entities constraints with
  | nil => exact absurd h planned
  | cons c rest => rfl

lemma solve_iterations (planned : plan entities constraints ≠ []) :
    (solve settings entities constraints).iterations =
      (run settings (plan entities constraints)
        (.of (plan entities constraints) entities)).length := by
  rw [solve_eq_ofRun planned, Solution.iterations, Solution.ofRun, List.length_map]

/-- The last iterate of a solve. -/
lemma last_run (planned : plan entities constraints ≠ []) :
    Iteration.last (.of (plan entities constraints) entities)
        (run settings (plan entities constraints) (.of (plan entities constraints) entities)) =
      .of (plan entities constraints) (entitiesAfter settings.damping (plan entities constraints)
        entities (solve settings entities constraints).iterations) := by
  rw [run, Iteration.last_trail, iterate_next, solve_iterations planned]
  rfl

/-- A solution holds the entities that its steps lead to. -/
lemma solve_entities :
    (solve settings entities constraints).entities =
      entitiesAfter settings.damping (plan entities constraints) entities
        (solve settings entities constraints).iterations := by
  by_cases nothing : plan entities constraints = []
  · rw [solve_eq_trivial nothing]
    rfl
  · have final : (solve settings entities constraints).entities =
        (Iteration.last (.of (plan entities constraints) entities)
          (run settings (plan entities constraints)
            (.of (plan entities constraints) entities))).entities := by
      rw [solve_eq_ofRun nothing]
      rfl
    rw [final, last_run nothing]
    rfl

/-- A solution gives the residual of the plan on its entities. -/
lemma solve_residual :
    (solve settings entities constraints).residual =
      totalResidual (plan entities constraints) (solve settings entities constraints).entities := by
  by_cases nothing : plan entities constraints = []
  · rw [solve_eq_trivial nothing, nothing]
    rfl
  · have final : (solve settings entities constraints).residual =
        (Iteration.last (.of (plan entities constraints) entities)
          (run settings (plan entities constraints)
            (.of (plan entities constraints) entities))).residual := by
      rw [solve_eq_ofRun nothing]
      rfl
    rw [final, last_run nothing, solve_entities]
    rfl

/-- A solve succeeds if nothing is left to be done on its entities. -/
lemma solve_success :
    (solve settings entities constraints).success =
      isSettled settings.tolerance (plan entities constraints)
        (solve settings entities constraints).entities := by
  by_cases nothing : plan entities constraints = []
  · rw [solve_eq_trivial nothing, nothing]
    rfl
  · rw [isSettled, List.isEmpty_eq_false_iff.mpr nothing, ← solve_residual, solve_eq_ofRun nothing]
    rfl

/-- Conflicts are named by a solve that fails, and by no other. -/
lemma solve_conflicts :
    (solve settings entities constraints).conflicts =
      if (solve settings entities constraints).success then none
      else some (worst settings.tolerance (plan entities constraints)
        (solve settings entities constraints).entities) := by
  by_cases nothing : plan entities constraints = []
  · rw [solve_eq_trivial nothing]
    rfl
  · rw [solve_eq_ofRun nothing]
    rfl

/-- A solve that fails, and no other, says what it fell short of. -/
lemma solve_shortfall :
    (solve settings entities constraints).shortfall =
      if (solve settings entities constraints).success then none
      else some ⟨settings.tolerance, (solve settings entities constraints).iterations,
        (solve settings entities constraints).residual⟩ := by
  by_cases nothing : plan entities constraints = []
  · rw [solve_eq_trivial nothing]
    rfl
  · rw [solve_iterations nothing, solve_eq_ofRun nothing]
    rfl

lemma solve_diagnostics :
    (solve settings entities constraints).diagnostics = diagnose entities constraints := by
  by_cases nothing : plan entities constraints = []
  · rw [solve_eq_trivial nothing]
    rfl
  · rw [solve_eq_ofRun nothing]
    rfl

/-! ### Numbers of steps -/

/-- No state before the end of a run is settled. -/
lemma not_isSettled_of_lt {count : Nat}
    (early : count < (solve settings entities constraints).iterations) :
    isSettled settings.tolerance (plan entities constraints)
      (entitiesAfter settings.damping (plan entities constraints) entities count) = false := by
  by_cases nothing : plan entities constraints = []
  · rw [solve_eq_trivial nothing] at early
    exact absurd early (Nat.not_lt_zero count)
  · rw [solve_iterations nothing] at early
    have busy := Iteration.not_done_of_lt_length early
    rw [iterate_next] at busy
    rw [isSettled, List.isEmpty_eq_false_iff.mpr nothing]
    exact busy

lemma solve_iterations_le :
    (solve settings entities constraints).iterations ≤ settings.maxIterations := by
  by_cases nothing : plan entities constraints = []
  · rw [solve_eq_trivial nothing]
    exact Nat.zero_le _
  · rw [solve_iterations nothing]
    exact Iteration.length_trail_le _ _ _ _

/-- A solve that may make no step leaves the entities where they are. -/
lemma solve_entities_of_cap_eq_zero (none : settings.maxIterations = 0) :
    (solve settings entities constraints).entities = entities := by
  have noSteps : (solve settings entities constraints).iterations = 0 :=
    Nat.le_zero.mp (none ▸ solve_iterations_le)
  rw [solve_entities, noSteps]
  rfl

/-- A solve that fails has made all of its steps. -/
lemma solve_iterations_of_failure (failed : (solve settings entities constraints).success = false) :
    (solve settings entities constraints).iterations = settings.maxIterations := by
  by_cases nothing : plan entities constraints = []
  · rw [solve_eq_trivial nothing] at failed
    cases failed
  · rw [solve_success, solve_entities, isSettled, List.isEmpty_eq_false_iff.mpr nothing] at failed
    rw [solve_iterations nothing] at failed ⊢
    apply Iteration.length_trail_of_not_done
    rw [iterate_next]
    exact failed

/-- A solve that succeeds has made the least number of steps after which nothing is left to do. -/
lemma solve_isLeast (succeeded : (solve settings entities constraints).success = true) :
    IsLeast { count | isSettled settings.tolerance (plan entities constraints)
      (entitiesAfter settings.damping (plan entities constraints) entities count) = true }
      (solve settings entities constraints).iterations := by
  refine ⟨?_, fun count settled => Nat.le_of_not_lt fun early => ?_⟩
  · have final := succeeded
    rw [solve_success, solve_entities] at final
    exact final
  · exact Bool.eq_false_iff.mp (not_isSettled_of_lt early) settled

/-- Of two solves that may make as many steps, one that is settled wherever the other is makes no
more of them. -/
lemma solve_iterations_le_of_isSettled {settings' : Settings τ}
    {entities' : Table ν (Entity ν τ)} {constraints' : List (Constraint ν α)}
    (same : settings.maxIterations = settings'.maxIterations)
    (implies : ∀ count,
      isSettled settings'.tolerance (plan entities' constraints')
        (entitiesAfter settings'.damping (plan entities' constraints') entities' count) = true →
      isSettled settings.tolerance (plan entities constraints)
        (entitiesAfter settings.damping (plan entities constraints) entities count) = true) :
    (solve settings entities constraints).iterations ≤
      (solve settings' entities' constraints').iterations := by
  -- if the other stopped earlier it was settled there, or had made all of its steps
  refine Nat.le_of_not_lt fun less => ?_
  have busy := not_isSettled_of_lt less
  have failed : (solve settings' entities' constraints').success = false := by
    rw [solve_success, solve_entities, Bool.eq_false_iff]
    exact fun settled => Bool.eq_false_iff.mp busy (implies _ settled)
  rw [solve_iterations_of_failure failed, ← same] at less
  exact absurd solve_iterations_le (Nat.not_le_of_lt less)

end

end Drafting.Gradient
