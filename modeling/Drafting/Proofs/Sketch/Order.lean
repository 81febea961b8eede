import Drafting.Proofs.Gradient.Order
import Drafting.Proofs.Sketch.Frame
import Drafting.Proofs.Sketch.Soundness

/-!
# The order of insertion

Two sketches that hold the same entities and constraints, inserted in different orders, are solved
alike. In exact arithmetic they differ in no more than the order in which they list things, and in
which of several conflicts that are equally far from holding they name. If only the entities come in
another order, then in no arithmetic is there any other difference than the order of the entities
(`Sketch.solve_of_perm`).
-/

namespace Drafting

open Drafting.Gradient

/-- The table with its entries in the opposite order. -/
def Table.reverse {κ μ : Type} [BEq κ] [LawfulBEq κ] (t : Table κ μ) : Table κ μ where
  entries := t.entries.reverse
  distinct := by
    rw [Assoc.distinct_iff_nodup, Assoc.keys, List.map_reverse, List.nodup_reverse]
    exact t.nodup_keys

variable {ν α : Type} [Name ν] [LawfulName ν]

namespace Sketch

/-- What solutions of two sketches that hold the same have in common: everything but the order in
which they list things, and the names of conflicts that are equally far from holding. -/
structure AreSolvedAlike (s s' : Sketch ν ℝ ℝ) (solution solution' : Solution ν ℝ) : Prop
    extends solution.IsReordered solution' where
  iterations : solution.iterations = solution'.iterations
  entity : ∀ id, solution.entities.get? id = solution'.entities.get? id
  skipped : solution.diagnostics.skipped.Perm solution'.diagnostics.skipped
  unsupported : solution.diagnostics.unsupported.Perm solution'.diagnostics.unsupported
  conflicts :
    solution.conflictResiduals s.constraints = solution'.conflictResiduals s'.constraints

section

variable [Scalar α] {s s' : Sketch ν α α} {cap : ℤ} {tolerance damping : α}

omit [LawfulName ν] in
lemma IsTyped.of_perm (typed : s.IsTyped cap tolerance damping) (options : s'.options = s.options)
    (perm : s.constraints.entries.Perm s'.constraints.entries) :
    s'.IsTyped cap tolerance damping where
  cap := options ▸ typed.cap
  tolerance := options ▸ typed.tolerance
  damping := options ▸ typed.damping
  verbose := options ▸ typed.verbose
  active c there := typed.active c ((perm.map Prod.snd).symm.subset there)
  constraint_id entry there := typed.constraint_id entry (perm.symm.subset there)

/-- A planned constraint is found by its id. -/
lemma IsTyped.get?_of_mem_plan (typed : s.IsTyped cap tolerance damping) {c : Constraint ν α}
    (planned : c ∈ s.plan) : s.constraints.get? c.id = some c := by
  obtain ⟨entry, there, rfl⟩ := List.mem_map.mp (mem_plan.mp planned).1
  rw [typed.constraint_id entry there]
  exact Table.get?_of_mem there

end

/-- In exact arithmetic, the descents for two sketches that hold the same come to the same. -/
lemma IsTyped.areSolvedAlike {s s' : Sketch ν ℝ ℝ} {cap : ℤ} {tolerance damping : ℝ}
    (typed : s.IsTyped cap tolerance damping) (options : s'.options = s.options)
    (entities : s.entities.entries.Perm s'.entities.entries)
    (constraints : s.constraints.entries.Perm s'.constraints.entries) :
    AreSolvedAlike s s'
      (Gradient.solve ⟨cap.toNat, tolerance, damping⟩ s.entities s.constraints.values)
      (Gradient.solve ⟨cap.toNat, tolerance, damping⟩ s'.entities s'.constraints.values) := by
  have values : s.constraints.values.Perm s'.constraints.values := constraints.map Prod.snd
  have plans : s.plan.Perm s'.plan := by
    rw [plan, plan, plan_of_perm entities]
    exact values.filter _
  have reordered : (Gradient.solve ⟨cap.toNat, tolerance, damping⟩ s.entities
      s.constraints.values).IsReordered
        (Gradient.solve ⟨cap.toNat, tolerance, damping⟩ s'.entities s'.constraints.values) :=
    solve_isReordered (pullAlike_of_perm plans damping) entities
  constructor
  case toIsReordered => exact reordered
  case iterations => rw [Solution.iterations, Solution.iterations, reordered.history]
  case entity => exact Table.get?_eq_of_perm reordered.entities
  case skipped =>
    rw [solve_diagnostics, solve_diagnostics, diagnose_of_perm entities]
    exact (values.filter _).map _
  case unsupported =>
    rw [solve_diagnostics, solve_diagnostics, diagnose_of_perm entities]
    exact ((values.filter _).filter _).map _
  case conflicts =>
    rw [Solution.conflictResiduals, Solution.conflictResiduals, solve_conflicts, solve_conflicts,
      reordered.success]
    split
    · rfl
    · have typed' := typed.of_perm options constraints
      exact congrArg some <| residuals_worst_of_perm (fun _ => typed.get?_of_mem_plan)
        (fun _ => typed'.get?_of_mem_plan) plans tolerance (snapshot_of_perm reordered.entities)

/-- If only the entities come in another order, descents differ in no more than that. -/
lemma solve_eq_of_perm [Scalar α] [Scalar.IsPlain α] (settings : Settings α)
    {entities entities' : Table ν (Entity ν α)} (perm : entities.entries.Perm entities'.entries)
    (constraints : List (Constraint ν α)) :
    ∃ moved, Gradient.solve settings entities' constraints =
        { Gradient.solve settings entities constraints with entities := moved } ∧
      (Gradient.solve settings entities constraints).entities.entries.Perm moved.entries := by
  have alike : PullAlike settings.damping (Gradient.plan entities constraints)
      (Gradient.plan entities' constraints) := by
    rw [plan_of_perm perm]
    exact .refl _ _
  have reordered := solve_isReordered alike perm
  have conflicts : (Gradient.solve settings entities' constraints).conflicts =
      (Gradient.solve settings entities constraints).conflicts := by
    rw [solve_conflicts, solve_conflicts, reordered.success, worst, worst, offenders, offenders,
      snapshot_of_perm reordered.entities, plan_of_perm perm]
  have diagnostics : (Gradient.solve settings entities' constraints).diagnostics =
      (Gradient.solve settings entities constraints).diagnostics := by
    rw [solve_diagnostics, solve_diagnostics, diagnose_of_perm perm]
  exact ⟨_, reordered.eq_of conflicts diagnostics, reordered.entities⟩

/-- Two sketches that hold the same, inserted in different orders, are solved alike. In exact
arithmetic their solutions have success, number of steps and residual in common, the entity of each
id, and, in whatever order, what is left out of account; their conflicts are equally far from
holding, one by one. In any arithmetic, if only the entities come in another order, so do those of
the solution, and everything else is the same. -/
theorem solve_of_perm :
    (∀ [Named ν ℝ] {s s' : Sketch ν ℝ ℝ} {cap : ℤ} {tolerance damping : ℝ},
      s.IsTyped cap tolerance damping → s'.options = s.options →
      s.entities.entries.Perm s'.entities.entries →
      s.constraints.entries.Perm s'.constraints.entries →
      ∃ solution solution', s.solve.result = .ok solution ∧ s'.solve.result = .ok solution' ∧
        AreSolvedAlike s s' solution solution') ∧
    ∀ {α : Type} [Scalar α] [Scalar.IsPlain α] [Named ν α] {s s' : Sketch ν α α} {cap : ℤ}
      {tolerance damping : α}, s.IsTyped cap tolerance damping → s'.options = s.options →
      s.entities.entries.Perm s'.entities.entries → s'.constraints = s.constraints →
      ∃ solution entities, s.solve.result = .ok solution ∧
        s'.solve.result = .ok { solution with entities } ∧
        solution.entities.entries.Perm entities.entries := by
  constructor
  · intro _ s s' cap tolerance damping typed options entities constraints
    refine ⟨_, _, ?_, ?_, typed.areSolvedAlike options entities constraints⟩
    · rw [typed.solve_eq]
    · rw [(typed.of_perm options constraints).solve_eq]
  · intro α _ _ _ s s' cap tolerance damping typed options entities constraints
    have typed' := typed.of_perm options (constraints ▸ .refl _)
    obtain ⟨moved, same, perm⟩ :=
      solve_eq_of_perm ⟨cap.toNat, tolerance, damping⟩ entities s.constraints.values
    refine ⟨_, moved, by rw [typed.solve_eq], ?_, perm⟩
    rw [typed'.solve_eq, constraints, same]

/-- The sketch with its entities inserted in the opposite order. -/
def withEntitiesReversed [Scalar α] (s : Sketch ν α α) : Sketch ν α α :=
  { s with entities := s.entities.reverse }

/-- The sketch with everything inserted in the opposite order. -/
def reversed [Scalar α] (s : Sketch ν α α) : Sketch ν α α :=
  { s.withEntitiesReversed with constraints := s.constraints.reverse }

theorem reversed_solve_of_perm :
    (apart 7 0.5).IsTyped 7 0.5 1 ∧ joined.IsTyped 9 0.001 0.8 ∧
      (∃ solution solution', (apart 7 0.5).solve.result = .ok solution ∧
        (apart 7 0.5).reversed.solve.result = .ok solution' ∧
        AreSolvedAlike (apart 7 0.5) (apart 7 0.5).reversed solution solution') ∧
      ∃ solution entities, joined.solve.result = .ok solution ∧
        joined.withEntitiesReversed.solve.result = .ok { solution with entities } ∧
        solution.entities.entries.Perm entities.entries := by
  obtain ⟨exact_, any⟩ := solve_of_perm (ν := String)
  have perm {β : Type} (entries : List β) : entries.Perm entries.reverse :=
    entries.reverse_perm.symm
  exact ⟨isTyped_apart 7 0.5, isTyped_joined,
    exact_ (isTyped_apart 7 0.5) rfl (perm _) (perm _), any isTyped_joined rfl (perm _) rfl⟩

end Sketch

end Drafting
