import Drafting.Proofs.Gradient.Infeasible
import Drafting.Proofs.Sketch.Soundness

/-!
# Sketches with infeasible constraints

One planned constraint that cannot be measured settles the outcome of a solve in exact arithmetic
(`Sketch.IsTyped.exists_isBlocked`): all the steps that may be made are made, the other constraints
move things as they do, and none of this can make the solve succeed. The infeasible constraints
stay the ones they are, and they are named before all others.
-/

namespace Drafting

open Drafting.Gradient

variable {ν : Type} [Name ν]

/-- The planned constraints of a sketch that cannot be measured, in the order in which they were
inserted. -/
noncomputable def Sketch.infeasible (s : Sketch ν ℝ ℝ) : List (Constraint ν ℝ) :=
  s.plan.filter fun c => (c.residual (snapshot s.entities)).isInfeasible

/-- A solution of a sketch that has infeasible constraints. -/
structure Sketch.IsBlocked (s : Sketch String ℝ ℝ) (cap : ℤ) (damping : ℝ)
    (solution : Solution String ℝ) : Prop where
  /-- All of its steps are made. -/
  exhausted : (solution.iterations : ℤ) = max 0 cap
  failed : solution.success = false
  residual : solution.residual = .infeasible
  /-- The entities are those that the steps lead to. -/
  reached : solution.entities = entitiesAfter damping s.plan s.entities solution.iterations
  /-- On the way, the same constraints are infeasible. -/
  same : ∀ count ≤ solution.iterations, ∀ c : Constraint String ℝ,
    c.residual (snapshot (entitiesAfter damping s.plan s.entities count)) = .infeasible ↔
      c.residual (snapshot s.entities) = .infeasible
  /-- They are the first conflicts, and if there are five of them the only ones. -/
  conflicts : ∃ ids, solution.conflicts = some ids ∧ ids.length ≤ 5 ∧
    (s.infeasible.map Constraint.id).take 5 <+: ids

namespace Sketch

variable {s : Sketch String ℝ ℝ} {cap : ℤ} {tolerance damping : ℝ}

/-- Whatever else a typed sketch asks for, one infeasible constraint blocks it. -/
theorem IsTyped.exists_isBlocked (typed : s.IsTyped cap tolerance damping)
    (blocking : ∃ c ∈ s.plan, c.residual (snapshot s.entities) = .infeasible) :
    ∃ solution, s.solve = ⟨s, .ok solution⟩ ∧ s.IsBlocked cap damping solution := by
  have solved := typed.isSolvedBy_solve
  have conflicts : (Gradient.solve ⟨cap.toNat, tolerance, damping⟩ s.entities
      s.constraints.values).conflicts = _ := solve_conflicts
  refine ⟨_, typed.solve_eq, ?_⟩
  generalize Gradient.solve ⟨cap.toNat, tolerance, damping⟩ s.entities s.constraints.values =
    solution at solved conflicts
  have same (count : ℕ) (c : Constraint String ℝ) :
      c.residual (snapshot (entitiesAfter damping s.plan s.entities count)) = .infeasible ↔
        c.residual (snapshot s.entities) = .infeasible := by
    rw [← Residual.isInfeasible_iff, isInfeasible_residual_entitiesAfter, Residual.isInfeasible_iff]
  have residual : solution.residual = .infeasible := by
    obtain ⟨c, planned, unmeasured⟩ := blocking
    refine solved.infeasible ⟨c, planned, ?_⟩
    rw [solved.reached]
    exact (same _ c).mpr unmeasured
  have failed : solution.success = false := by
    rw [← Bool.not_eq_true, solved.within, residual]
    rintro (nothing | ⟨r, number, -⟩)
    · obtain ⟨c, planned, -⟩ := blocking
      exact List.ne_nil_of_mem planned nothing
    · cases number
  constructor
  case exhausted => exact solved.exhausted failed
  case failed => exact failed
  case residual => exact residual
  case reached => exact solved.reached
  case same => exact fun count _ => same count
  case conflicts =>
    refine ⟨_, by rw [conflicts, failed]; rfl, ?_, ?_⟩
    · exact length_worst_le tolerance s.plan solution.entities
    · have first := map_id_filter_isInfeasible_prefix_worst tolerance s.plan solution.entities
      simp only [solved.reached, isInfeasible_residual_entitiesAfter] at first
      rw [solved.reached]
      exact first

/-- Two points that should coincide; a line without a direction that should be level, and a point
that should coincide with nothing. -/
noncomputable def stuck : Sketch String ℝ ℝ where
  options := ⟨.int 3, .real 0.01, .real 1, .gradientDescent, .flag false⟩
  entities := .ofList [("A", pointAt "A" 0 0), ("B", pointAt "B" 1 0),
    ("L", ⟨"L", .line, none, none, none, none, .empty, nofun⟩)]
  constraints := .ofList [("meet", demanding "meet" .coincident ["A", "B"]),
    ("level", demanding "level" .horizontal ["L"]), ("alone", demanding "alone" .coincident ["A"])]

lemma isTyped_stuck : stuck.IsTyped 3 0.01 1 where
  cap := rfl
  tolerance := .real 0.01
  damping := .real 1
  verbose := ⟨false, rfl⟩
  active := by simp [stuck, Table.values, Table.entries_ofList, demanding]
  constraint_id := by simp [stuck, Table.entries_ofList, demanding]

theorem stuck_exists_isBlocked : stuck.IsTyped 3 0.01 1 ∧
    (∃ c ∈ stuck.plan, c.residual (snapshot stuck.entities) = .infeasible) ∧
    ∃ solution, stuck.solve = ⟨stuck, .ok solution⟩ ∧ stuck.IsBlocked 3 1 solution := by
  have point : stuck.entities.get? "A" = some (pointAt "A" 0 0) := by
    simp [stuck, Table.get?, Table.entries_ofList]
  have blocking : ∃ c ∈ stuck.plan, c.residual (snapshot stuck.entities) = .infeasible := by
    refine ⟨demanding "alone" .coincident ["A"], mem_plan.mpr ⟨?_, rfl, ?_⟩, ?_⟩
    · simp [stuck, Table.values, Table.entries_ofList]
    · simp [demanding, point]
    · have resolved : (demanding "alone" .coincident ["A"]).resolve (snapshot stuck.entities) =
          [pointAt "A" 0 0] := by
        simp [demanding, Constraint.resolve, snapshot, point]
      rw [Constraint.residual, resolved]
      rfl
  exact ⟨isTyped_stuck, blocking, isTyped_stuck.exists_isBlocked blocking⟩

end Sketch

end Drafting
