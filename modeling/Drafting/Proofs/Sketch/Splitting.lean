import Drafting.Proofs.Gradient.Frame
import Drafting.Proofs.Sketch.Soundness

/-!
# Solving in two parts

All that a descent carries from one step to the next is the entities. A solve that is stopped after
some steps, committed and taken up again therefore comes to what one solve comes to that may make as
many steps as both (`Sketch.IsTyped.exists_isSplitInto`), wherever it is stopped: before it
converges, just when it does, or after.
-/

namespace Drafting

open Drafting.Gradient

variable {ν τ α : Type} [Name ν]

/-- A solution that comes of two, the second of which goes on from where the first ends. -/
structure Gradient.Solution.IsSplitInto (whole first second : Solution ν τ) : Prop where
  entities : second.entities = whole.entities
  residual : second.residual = whole.residual
  success : second.success = whole.success
  conflicts : second.conflicts = whole.conflicts
  iterations : first.iterations + second.iterations = whole.iterations

/-- A sketch that is solved in a given number of steps at most. -/
def Sketch.withCap (s : Sketch ν τ α) (cap : ℕ) : Sketch ν τ α :=
  { s with options := { s.options with maxIterations := .int cap } }

namespace Gradient

section

variable [Scalar τ] [Scalar α] [Component τ α]

lemma entitiesAfter_add (damping : τ) (plan : List (Constraint ν α))
    (entities : Table ν (Entity ν τ)) (m n : ℕ) :
    entitiesAfter damping plan entities (m + n) =
      entitiesAfter damping plan (entitiesAfter damping plan entities m) n := by
  rw [Nat.add_comm]
  exact Function.iterate_add_apply _ n m entities

end

variable [Scalar τ] [Scalar.IsPlain τ] [Scalar α] [Component τ α] [LawfulName ν]
  {entities : Table ν (Entity ν τ)} {constraints : List (Constraint ν α)}

/-- Nothing else is planned for the entities that a solve leads to. -/
lemma plan_solve (settings : Settings τ) (entities : Table ν (Entity ν τ))
    (constraints : List (Constraint ν α)) :
    plan (solve settings entities constraints).entities constraints =
      plan entities constraints := by
  rw [solve_entities, plan_entitiesAfter]

/-- The steps of a solve are those up to some cap and those made from there. -/
lemma solve_iterations_add (entities : Table ν (Entity ν τ)) (constraints : List (Constraint ν α))
    (m n : ℕ) (tolerance damping : τ) :
    (solve ⟨m, tolerance, damping⟩ entities constraints).iterations +
        (solve ⟨n, tolerance, damping⟩
          (solve ⟨m, tolerance, damping⟩ entities constraints).entities constraints).iterations =
      (solve ⟨m + n, tolerance, damping⟩ entities constraints).iterations := by
  by_cases nothing : plan entities constraints = []
  · rw [solve_eq_trivial nothing, solve_eq_trivial nothing]
    exact congrArg (0 + ·) (congrArg Solution.iterations (solve_eq_trivial nothing))
  · have later := plan_solve ⟨m, tolerance, damping⟩ entities constraints
    -- the first part ends in the iterate that the second part starts from
    have reached : Iteration.last (.of (plan entities constraints) entities)
        (run ⟨m, tolerance, damping⟩ (plan entities constraints)
          (.of (plan entities constraints) entities)) =
        .of (plan entities constraints)
          (solve ⟨m, tolerance, damping⟩ entities constraints).entities := by
      rw [last_run nothing, solve_entities]
    rw [solve_iterations nothing, solve_iterations (later ▸ nothing), solve_iterations nothing,
      later, ← reached, run, run, run, Iteration.trail_add m n, List.length_append]

lemma isSplitInto_solve (m n : ℕ) (tolerance damping : τ) :
    (solve ⟨m + n, tolerance, damping⟩ entities constraints).IsSplitInto
      (solve ⟨m, tolerance, damping⟩ entities constraints)
      (solve ⟨n, tolerance, damping⟩
        (solve ⟨m, tolerance, damping⟩ entities constraints).entities constraints) := by
  have later := plan_solve ⟨m, tolerance, damping⟩ entities constraints
  have iterations := solve_iterations_add entities constraints m n tolerance damping
  have reached : (solve ⟨m, tolerance, damping⟩ entities constraints).entities =
      entitiesAfter damping (plan entities constraints) entities
        (solve ⟨m, tolerance, damping⟩ entities constraints).iterations := solve_entities
  generalize solve ⟨m, tolerance, damping⟩ entities constraints = first at later iterations reached
  have arrived : (solve ⟨n, tolerance, damping⟩ first.entities constraints).entities =
      (solve ⟨m + n, tolerance, damping⟩ entities constraints).entities := by
    rw [solve_entities, solve_entities, later, ← iterations, entitiesAfter_add, ← reached]
  have success : (solve ⟨n, tolerance, damping⟩ first.entities constraints).success =
      (solve ⟨m + n, tolerance, damping⟩ entities constraints).success := by
    rw [solve_success, solve_success, later, arrived]
  constructor
  case entities => exact arrived
  case residual => rw [solve_residual, solve_residual, later, arrived]
  case success => exact success
  case conflicts => rw [solve_conflicts, solve_conflicts, later, arrived, success]
  case iterations => exact iterations

/-- A solve from where a successful one ends makes no step. -/
lemma solve_iterations_of_success {settings : Settings τ}
    (succeeded : (solve settings entities constraints).success = true) :
    (solve settings (solve settings entities constraints).entities constraints).iterations = 0 := by
  refine Nat.eq_zero_of_not_pos fun step => ?_
  have busy := not_isSettled_of_lt step
  rw [solve_success] at succeeded
  rw [plan_solve] at busy
  exact Bool.eq_false_iff.mp busy succeeded

lemma solve_entities_of_success {settings : Settings τ}
    (succeeded : (solve settings entities constraints).success = true) :
    (solve settings (solve settings entities constraints).entities constraints).entities =
      (solve settings entities constraints).entities := by
  rw [solve_entities, solve_iterations_of_success succeeded]
  rfl

end Gradient

namespace Sketch

/-- Committing entities that have the ids of a sketch stores just these. -/
lemma commit_entities [LawfulName ν] {s : Sketch ν τ α} {solution : Solution ν τ}
    (same : solution.entities.keys = s.entities.keys) :
    (s.commit solution).entities = solution.entities :=
  Table.mapValues_getD_eq same.symm

variable [Scalar α] {s : Sketch ν α α} {cap : ℤ} {tolerance damping : α}

lemma IsTyped.withCap (typed : s.IsTyped cap tolerance damping) (n : ℕ) :
    (s.withCap n).IsTyped n tolerance damping :=
  { typed with cap := rfl }

lemma IsTyped.commit (typed : s.IsTyped cap tolerance damping) (solution : Solution ν α) :
    (s.commit solution).IsTyped cap tolerance damping :=
  { typed with }

variable [LawfulName ν] [Named ν α] [Scalar.IsPlain α]

/-- A typed sketch with other entities of the same ids is solved from these. -/
lemma IsTyped.solve_commit_eq (typed : s.IsTyped cap tolerance damping) {solution : Solution ν α}
    (same : solution.entities.keys = s.entities.keys) :
    (s.commit solution).solve = ⟨s.commit solution, .ok (Gradient.solve
      ⟨cap.toNat, tolerance, damping⟩ solution.entities s.constraints.values)⟩ := by
  rw [(typed.commit solution).solve_eq, commit_entities same]
  rfl

/-- Solving a typed sketch in up to `m` steps, committing, and solving it in up to `n` comes to what
solving it in up to `m + n` comes to. Where a successful solve ends, no step is made. -/
theorem IsTyped.exists_isSplitInto (typed : s.IsTyped cap tolerance damping) (m n : ℕ) :
    (∃ first second whole, (s.withCap m).solve = ⟨s.withCap m, .ok first⟩ ∧
      (((s.withCap m).commit first).withCap n).solve =
        ⟨((s.withCap m).commit first).withCap n, .ok second⟩ ∧
      (s.withCap (m + n)).solve = ⟨s.withCap (m + n), .ok whole⟩ ∧
      whole.IsSplitInto first second) ∧
    ∃ solution, s.solve = ⟨s, .ok solution⟩ ∧ (solution.success = true →
      ∃ again, (s.commit solution).solve = ⟨s.commit solution, .ok again⟩ ∧
        again.iterations = 0 ∧ again.success = true ∧ again.entities = solution.entities) := by
  have sameKeys (settings : Settings α) :
      (Gradient.solve settings s.entities s.constraints.values).entities.keys =
        s.entities.keys := by
    rw [solve_entities, keys_entitiesAfter]
  constructor
  · have second := (typed.withCap n).solve_commit_eq (sameKeys ⟨m, tolerance, damping⟩)
    refine ⟨_, _, _, (typed.withCap m).solve_eq, second, (typed.withCap (m + n)).solve_eq, ?_⟩
    exact isSplitInto_solve m n tolerance damping
  · refine ⟨_, typed.solve_eq, fun succeeded => ?_⟩
    refine ⟨_, typed.solve_commit_eq (sameKeys _), ?_, ?_, ?_⟩
    · exact solve_iterations_of_success succeeded
    · rw [solve_success, solve_entities_of_success succeeded, plan_solve, ← solve_success]
      exact succeeded
    · exact solve_entities_of_success succeeded

/-- A solve of two steps and one of three more are a solve of five. -/
theorem apart_exists_isSplitInto : (apart 7 0.5).IsTyped 7 0.5 1 ∧
    (∃ first second whole, ((apart 7 0.5).withCap 2).solve = ⟨(apart 7 0.5).withCap 2, .ok first⟩ ∧
      ((((apart 7 0.5).withCap 2).commit first).withCap 3).solve =
        ⟨(((apart 7 0.5).withCap 2).commit first).withCap 3, .ok second⟩ ∧
      ((apart 7 0.5).withCap (2 + 3)).solve = ⟨(apart 7 0.5).withCap (2 + 3), .ok whole⟩ ∧
      whole.IsSplitInto first second) ∧
    ∃ solution, (apart 7 0.5).solve = ⟨apart 7 0.5, .ok solution⟩ ∧ (solution.success = true →
      ∃ again, ((apart 7 0.5).commit solution).solve =
          ⟨(apart 7 0.5).commit solution, .ok again⟩ ∧
        again.iterations = 0 ∧ again.success = true ∧ again.entities = solution.entities) :=
  ⟨isTyped_apart 7 0.5, (isTyped_apart 7 0.5).exists_isSplitInto 2 3⟩

end Sketch

end Drafting
