import Drafting.Proofs.Residual
import Drafting.Proofs.Sketch.Solving

/-!
# What a solution says of a sketch

In exact arithmetic a solution can be taken at its word (`Sketch.IsTyped.exists_isSolvedBy`): its
diagnostics account for every active constraint, its residual is the root mean square over the plan
on the entities it holds, it claims success if that is within the tolerance, and then no planned
constraint is further from holding than the tolerance times the root of their number.
-/

namespace Drafting

open Drafting.Gradient

variable {ν τ α : Type} [Name ν] [Scalar α]

/-! ### Accounts of constraints -/

/-- Diagnostics that account for the active constraints of a sketch: those that name an entity that
is not there are skipped, the others are planned, and planned ones without a formula are
reported. -/
structure Sketch.IsAccountedBy (s : Sketch ν τ α) (d : Diagnostics ν) : Prop where
  either : ∀ c ∈ s.constraints.values, c.isActive = true → Xor (c.id ∈ d.skipped) (c ∈ s.plan)
  skipped : ∀ id, id ∈ d.skipped ↔ ∃ c ∈ s.constraints.values, c.id = id ∧ c.isActive = true ∧
    ∃ name ∈ c.entities, s.entities.get? name = none
  planned : ∀ c, c ∈ s.plan ↔ c ∈ s.constraints.values ∧ c.isActive = true ∧
    ∀ name ∈ c.entities, s.entities.get? name ≠ none
  unsupported : d.unsupported =
    (s.plan.filter fun c => !c.relation.isMeasured).map Constraint.id

namespace Sketch

lemma mem_plan {s : Sketch ν τ α} {c : Constraint ν α} :
    c ∈ s.plan ↔ c ∈ s.constraints.values ∧ c.isActive = true ∧
      ∀ name ∈ c.entities, s.entities.get? name ≠ none := by
  simp [plan, Gradient.plan, Constraint.isResolvable, snapshot, Option.isSome_iff_ne_none]

lemma mem_skipped {s : Sketch ν τ α} {id : ν} :
    id ∈ s.diagnose.skipped ↔ ∃ c ∈ s.constraints.values, c.id = id ∧ c.isActive = true ∧
      ∃ name ∈ c.entities, s.entities.get? name = none := by
  simp only [diagnose, Gradient.diagnose, unresolved, Constraint.isResolvable, snapshot,
    List.mem_map, List.mem_filter, Bool.and_eq_true, Bool.not_eq_true', List.all_eq_false]
  simp only [Bool.not_eq_true, Option.isSome_eq_false_iff, Option.isNone_iff_eq_none, and_assoc]
  exact exists_congr fun c => and_congr_right fun _ => and_rotate.symm

variable {s : Sketch ν α α} {cap : ℤ} {tolerance damping : α}

/-- Two constraints of a typed sketch with one id are the same. -/
lemma IsTyped.eq_of_id_eq [LawfulName ν] (typed : s.IsTyped cap tolerance damping)
    {c c' : Constraint ν α} (there : c ∈ s.constraints.values) (there' : c' ∈ s.constraints.values)
    (same : c.id = c'.id) : c = c' := by
  obtain ⟨entry, member, rfl⟩ := List.mem_map.mp there
  obtain ⟨entry', member', rfl⟩ := List.mem_map.mp there'
  rw [typed.constraint_id entry member, typed.constraint_id entry' member'] at same
  rw [List.inj_on_of_nodup_map s.constraints.nodup_keys member member' same]

lemma IsTyped.isAccountedBy_diagnose [LawfulName ν] (typed : s.IsTyped cap tolerance damping) :
    s.IsAccountedBy s.diagnose where
  skipped _ := mem_skipped
  planned _ := mem_plan
  unsupported := rfl
  either := by
    intro c there active
    by_cases planned : c ∈ s.plan
    · refine .inr ⟨planned, fun skipped => ?_⟩
      obtain ⟨c', there', same, -, name, named, absent⟩ := mem_skipped.mp skipped
      cases typed.eq_of_id_eq there' there same
      exact (mem_plan.mp planned).2.2 name named absent
    · refine .inl ⟨?_, planned⟩
      simp only [mem_plan, there, active, true_and, not_forall, not_not] at planned
      obtain ⟨name, named, absent⟩ := planned
      exact mem_skipped.mpr ⟨c, there, rfl, active, name, named, absent⟩

end Sketch

/-! ### Exact solutions -/

/-- What a solution has to say to be right about a sketch with given settings. -/
structure Sketch.IsSolvedBy (s : Sketch ν ℝ ℝ) (cap : ℤ) (tolerance damping : ℝ)
    (solution : Solution ν ℝ) : Prop where
  /-- Every active constraint is skipped or planned. -/
  accounted : s.IsAccountedBy solution.diagnostics
  /-- The entities are those that the steps lead to. -/
  reached : solution.entities = entitiesAfter damping s.plan s.entities solution.iterations
  /-- A success bounds the residual of each planned constraint. -/
  bounded : solution.success = true → ∀ c ∈ s.plan, ∃ r,
    c.residual (snapshot solution.entities) = .measured r ∧ r ≤ tolerance * √s.plan.length
  /-- The residual is the root mean square over the plan. -/
  mean : ∀ values : List ℝ, (s.plan.map fun c => c.residual (snapshot solution.entities)) =
      values.map .measured →
    solution.residual = .measured √((values.map (· ^ 2)).sum / values.length)
  /-- It is infeasible if that of a planned constraint is. -/
  infeasible : (∃ c ∈ s.plan, c.residual (snapshot solution.entities) = .infeasible) →
    solution.residual = .infeasible
  /-- It is zero if nothing is planned. -/
  idle : s.plan = [] → solution.residual = .measured 0
  /-- A success is what the residual makes one. -/
  within : solution.success = true ↔
    s.plan = [] ∨ ∃ r, solution.residual = .measured r ∧ r ≤ tolerance
  /-- Conflicts are named by failures only. -/
  conflicts : solution.conflicts = none ↔ solution.success = true
  /-- A shortfall is reported by failures only. -/
  shortfall : solution.shortfall = none ↔ solution.success = true
  /-- A failure has made all of its steps. -/
  exhausted : solution.success = false → (solution.iterations : ℤ) = max 0 cap
  /-- A success has made no more steps than it had to. -/
  least : solution.success = true → IsLeast { count | s.plan = [] ∨ ∃ r,
    totalResidual s.plan (entitiesAfter damping s.plan s.entities count) = .measured r ∧
      r ≤ tolerance } solution.iterations

namespace Sketch

variable {s : Sketch ν ℝ ℝ} {cap : ℤ} {tolerance damping : ℝ}

/-- A descent is right about the sketch that it is run for. -/
lemma IsTyped.isSolvedBy_solve [LawfulName ν] (typed : s.IsTyped cap tolerance damping) :
    s.IsSolvedBy cap tolerance damping
      (Gradient.solve ⟨cap.toNat, tolerance, damping⟩ s.entities s.constraints.values) := by
  constructor
  case accounted =>
    rw [solve_diagnostics]
    exact typed.isAccountedBy_diagnose
  case reached => exact solve_entities
  case bounded =>
    intro succeeded c planned
    rw [solve_success, isSettled_iff] at succeeded
    have settled := succeeded.resolve_left (List.ne_nil_of_mem planned)
    rw [← Residual.isAtMost_iff, totalResidual] at settled
    -- one square is at most their sum, which the mean bounds
    have small := Residual.isAtMost_of_rootMeanSquare (List.mem_map_of_mem planned) settled
    rw [Residual.isAtMost_iff, List.length_map] at small
    exact small
  case mean =>
    intro values numbers
    rw [solve_residual, totalResidual]
    exact numbers ▸ Residual.rootMeanSquare_measured values
  case infeasible =>
    rintro ⟨c, planned, unmeasured⟩
    rw [solve_residual, totalResidual]
    apply Residual.rootMeanSquare_of_infeasible
    rw [← unmeasured]
    exact List.mem_map_of_mem planned
  case idle =>
    intro nothing
    rw [solve_eq_trivial nothing]
    rfl
  case within => rw [solve_success, isSettled_iff, solve_residual]; rfl
  case conflicts => rw [solve_conflicts]; simp
  case shortfall => rw [solve_shortfall]; simp
  case exhausted =>
    intro failed
    rw [solve_iterations_of_failure failed, Int.toNat_eq_max, max_comm]
  case least =>
    intro succeeded
    have least := solve_isLeast succeeded
    simp only [isSettled_iff] at least
    exact least

/-- Solving a typed sketch comes to a solution that is right about it, and leaves it as it is. -/
theorem IsTyped.exists_isSolvedBy [LawfulName ν] [Named ν ℝ]
    (typed : s.IsTyped cap tolerance damping) :
    ∃ solution, s.solve = ⟨s, .ok solution⟩ ∧ s.IsSolvedBy cap tolerance damping solution :=
  ⟨_, typed.solve_eq, typed.isSolvedBy_solve⟩

/-- A point of the plane. -/
def pointAt (id : String) (x y : ℝ) : Entity String ℝ where
  id
  kind := .point
  position := some ⟨x, y, 0⟩
  direction := none
  radius := none
  normal := none
  parameters := .empty
  carried := nofun

/-- A constraint without a target between entities. -/
def demanding (id : String) (relation : Relation) (entities : List String) :
    Constraint String ℝ where
  id
  relation
  entities
  value := none
  priority := .int 0
  active := .flag true

/-- Two points, a unit apart, that should coincide, and one of which should stay where it is; a
third that should be level with a point that is not there. -/
noncomputable def apart (cap : ℤ) (tolerance : ℝ) : Sketch String ℝ ℝ where
  options := ⟨.int cap, .real tolerance, .real 1, .gradientDescent, .flag false⟩
  entities := .ofList [("A", pointAt "A" 0 0), ("B", pointAt "B" 1 0)]
  constraints := .ofList [("meet", demanding "meet" .coincident ["A", "B"]),
    ("stay", demanding "stay" .fixed ["A"]), ("level", demanding "level" .horizontal ["C"])]

lemma isTyped_apart (cap : ℤ) (tolerance : ℝ) : (apart cap tolerance).IsTyped cap tolerance 1 where
  cap := rfl
  tolerance := .real tolerance
  damping := .real 1
  verbose := ⟨false, rfl⟩
  active := by simp [apart, Table.values, Table.entries_ofList, demanding]
  constraint_id := by simp [apart, Table.entries_ofList, demanding]

theorem apart_exists_isSolvedBy : (apart 7 0.5).IsTyped 7 0.5 1 ∧
    ∃ solution, (apart 7 0.5).solve = ⟨apart 7 0.5, .ok solution⟩ ∧
      (apart 7 0.5).IsSolvedBy 7 0.5 1 solution :=
  ⟨isTyped_apart 7 0.5, (isTyped_apart 7 0.5).exists_isSolvedBy⟩

end Sketch

end Drafting
