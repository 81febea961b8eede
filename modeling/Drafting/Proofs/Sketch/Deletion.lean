import Drafting.Proofs.Gradient.Unmeasured
import Drafting.Proofs.Sketch.Soundness

/-!
# Deleting constraints without a formula

A constraint without a formula moves nothing and is never in conflict, but it counts in the mean
that the residual is. Without such constraints a solve takes the same steps from the same entities
and compares a greater residual with the tolerance: it comes to what a solve with them comes to at a
tolerance that is less in proportion (`Sketch.IsTyped.exists_isRelievedTo`). It may so take more
steps than before, or fail where it succeeded before (`Sketch.not_success_of_relieved`).
-/

namespace Drafting

open Drafting.Gradient

namespace Sketch

section

variable {ν τ α : Type} [Name ν]

/-- Removes constraints one after the other. -/
def removeConstraints (s : Sketch ν τ α) (ids : List ν) : Except (Fault α) (Sketch ν τ α) :=
  ids.foldlM removeConstraint s

/-- The sketch without the constraints of certain ids. -/
def relieved (s : Sketch ν τ α) (ids : List ν) : Sketch ν τ α :=
  { s with constraints := s.constraints.filter fun id _ => !ids.contains id }

lemma relieved_nil (s : Sketch ν τ α) : s.relieved [] = s := by
  have all : s.constraints.filter (fun id _ => !([] : List ν).contains id) = s.constraints :=
    Table.eq_of_entries_eq (List.filter_eq_self.mpr fun _ _ => rfl)
  rw [relieved, all]

lemma relieved_erase (s : Sketch ν τ α) (id : ν) (ids : List ν) :
    relieved { s with constraints := s.constraints.erase id } ids = s.relieved (id :: ids) := by
  have both : (s.constraints.erase id).filter (fun id _ => !ids.contains id) =
      s.constraints.filter fun id' _ => !(id :: ids).contains id' := by
    apply Table.eq_of_entries_eq
    show (s.constraints.entries.filter fun entry => !(entry.1 == id)).filter
        (fun entry => !ids.contains entry.1) =
      s.constraints.entries.filter fun entry => !(id :: ids).contains entry.1
    rw [List.filter_filter]
    refine List.filter_congr fun entry _ => ?_
    rw [List.contains_cons, Bool.not_or, Bool.and_comm]
  rw [relieved, relieved, both]

/-- The constraints that are left. -/
lemma values_relieved {s : Sketch ν τ α} (own : ∀ entry ∈ s.constraints.entries,
    entry.2.id = entry.1) (ids : List ν) : (s.relieved ids).constraints.values =
      s.constraints.values.filter fun c => !ids.contains c.id := by
  rw [Table.values, Table.values, List.filter_map]
  refine congrArg _ (List.filter_congr fun entry member => ?_)
  rw [Function.comp_apply, own entry member]

variable [LawfulName ν]

lemma removeConstraint_eq_ok (s : Sketch ν τ α) (id : ν) :
    s.removeConstraint id = .ok { s with constraints := s.constraints.erase id } := by
  rw [removeConstraint, without, Name.require_eq_ok]
  cases s.constraints.size == 0 <;> rfl

/-- Constraints can always be removed. -/
lemma removeConstraints_eq_ok (s : Sketch ν τ α) (ids : List ν) :
    s.removeConstraints ids = .ok (s.relieved ids) := by
  induction ids generalizing s with
  | nil => rw [relieved_nil]; rfl
  | cons id rest ih =>
    rw [removeConstraints, List.foldlM_cons, removeConstraint_eq_ok, ← relieved_erase]
    exact ih _

end

/-- The sketch with a number as its tolerance. -/
def withTolerance {ν α : Type} [Name ν] (s : Sketch ν α α) (tolerance : α) : Sketch ν α α :=
  { s with options := { s.options with tolerance := .real tolerance } }

variable {s : Sketch String ℝ ℝ} {cap : ℤ} {tolerance damping : ℝ} {ids : List String}

lemma IsTyped.withTolerance (typed : s.IsTyped cap tolerance damping) (tolerance' : ℝ) :
    (s.withTolerance tolerance').IsTyped cap tolerance' damping where
  cap := typed.cap
  tolerance := .real tolerance'
  damping := typed.damping
  verbose := typed.verbose
  active := typed.active
  constraint_id := typed.constraint_id

lemma IsTyped.relieved (typed : s.IsTyped cap tolerance damping) (ids : List String) :
    (s.relieved ids).IsTyped cap tolerance damping where
  cap := typed.cap
  tolerance := typed.tolerance
  damping := typed.damping
  verbose := typed.verbose
  active := by
    intro c there
    obtain ⟨entry, member, rfl⟩ := List.mem_map.mp there
    exact typed.active _ (List.mem_map_of_mem (List.mem_of_mem_filter member))
  constraint_id := fun entry member => typed.constraint_id entry (List.mem_of_mem_filter member)

lemma IsTyped.values_relieved (typed : s.IsTyped cap tolerance damping) (ids : List String) :
    (s.relieved ids).constraints.values =
      s.constraints.values.filter fun c => !ids.contains c.id :=
  Sketch.values_relieved typed.constraint_id ids

lemma IsTyped.plan_relieved (typed : s.IsTyped cap tolerance damping) (ids : List String) :
    (s.relieved ids).plan = s.plan.filter fun c => !ids.contains c.id := by
  rw [plan, typed.values_relieved, plan, Gradient.plan, Gradient.plan, List.filter_filter,
    List.filter_filter]
  exact List.filter_congr fun c _ => Bool.and_comm _ _

/-! ### What becomes of a solution -/

/-- Constraints of a sketch that count in its plan but have no formula, by their ids. -/
def AreUnmeasured (s : Sketch String ℝ ℝ) (ids : List String) : Prop :=
  ∀ id ∈ ids, ∃ c ∈ s.constraints.values, c.id = id ∧ c.isActive = true ∧
    (∀ name ∈ c.entities, s.entities.get? name ≠ none) ∧ c.relation.isMeasured = false

lemma IsTyped.isMeasured_of_mem (typed : s.IsTyped cap tolerance damping)
    (unmeasured : s.AreUnmeasured ids) :
    ∀ c ∈ s.plan, (!ids.contains c.id) = false → c.relation.isMeasured = false := by
  intro c planned dropped
  rw [Bool.not_eq_false', List.contains_iff_mem] at dropped
  obtain ⟨c', there, same, -, -, unmeasured⟩ := unmeasured c.id dropped
  rw [← typed.eq_of_id_eq there (mem_plan.mp planned).1 same]
  exact unmeasured

/-- What is skipped is not removed. -/
lemma IsTyped.skipped_relieved (typed : s.IsTyped cap tolerance damping)
    (unmeasured : s.AreUnmeasured ids) :
    (s.relieved ids).diagnose.skipped = s.diagnose.skipped := by
  rw [diagnose, typed.values_relieved]
  refine congrArg (List.map Constraint.id) ?_
  rw [unresolved, unresolved, List.filter_filter]
  refine List.filter_congr fun c there => ?_
  -- a constraint that is removed can be resolved, so that it is not skipped anyway
  cases dropped : ids.contains c.id with
  | false => rw [Bool.not_false, Bool.and_true]; rfl
  | true =>
    obtain ⟨c', there', same, active, resolved, -⟩ :=
      unmeasured c.id (List.contains_iff_mem.mp dropped)
    cases typed.eq_of_id_eq there' there same
    have resolvable : c.isResolvable (snapshot s.entities) = true := by
      rw [Constraint.isResolvable, List.all_eq_true]
      exact fun name named => Option.isSome_iff_ne_none.mpr (resolved name named)
    rw [Bool.not_true, Bool.and_false, resolvable, Bool.not_true, Bool.and_false]

lemma IsTyped.unsupported_relieved (typed : s.IsTyped cap tolerance damping) (ids : List String) :
    (s.relieved ids).diagnose.unsupported =
      s.diagnose.unsupported.filter fun id => !ids.contains id := by
  have planned := typed.plan_relieved ids
  rw [plan] at planned
  rw [diagnose, Gradient.diagnose, planned, List.filter_filter, diagnose, Gradient.diagnose,
    List.filter_map, List.filter_filter]
  exact congrArg _ (List.filter_congr fun c _ => Bool.and_comm _ _)

/-- How the solution `solution'` of a sketch without certain constraints compares with the solution
`solution` of the whole sketch, and with its solution `strict` at a lesser tolerance. -/
structure IsRelievedTo (s : Sketch String ℝ ℝ) (tolerance damping : ℝ) (ids : List String)
    (solution solution' strict : Solution String ℝ) : Prop where
  /-- The entities after any number of steps are the same. -/
  iterates : ∀ count, entitiesAfter damping (s.relieved ids).plan s.entities count =
    entitiesAfter damping s.plan s.entities count
  /-- The residual on any entities is greater in proportion. -/
  residuals : ∀ entities, totalResidual (s.relieved ids).plan entities =
    (totalResidual s.plan entities).scale √(s.plan.length / (s.relieved ids).plan.length)
  /-- The solve comes to what a stricter one comes to. -/
  stricter : solution'.success = strict.success ∧ solution'.iterations = strict.iterations ∧
    solution'.entities = strict.entities
  success : solution'.success = true → solution.success = true
  iterations : solution.iterations ≤ solution'.iterations
  /-- After as many steps as before, only the residual is another. -/
  alike : solution'.iterations = solution.iterations → solution'.entities = solution.entities ∧
    solution'.residual =
      solution.residual.scale √(s.plan.length / (s.relieved ids).plan.length)
  /-- A failure stays one, and only the residual of what it reports is another. -/
  failed : solution.success = false → solution'.success = false ∧
    solution'.iterations = solution.iterations ∧ solution'.entities = solution.entities ∧
    solution'.conflicts = solution.conflicts ∧
    solution'.shortfall = solution.shortfall.map fun short => { short with
      residual := short.residual.scale √(s.plan.length / (s.relieved ids).plan.length) }
  /-- Conflicts are found as among all planned constraints. -/
  conflicts : solution'.conflicts =
    if solution'.success then none else some (worst tolerance s.plan solution'.entities)
  skipped : solution'.diagnostics.skipped = solution.diagnostics.skipped
  unsupported : solution'.diagnostics.unsupported =
    solution.diagnostics.unsupported.filter fun id => !ids.contains id

lemma IsTyped.isRelievedTo (typed : s.IsTyped cap tolerance damping) (nonneg : 0 ≤ tolerance)
    (unmeasured : s.AreUnmeasured ids) :
    s.IsRelievedTo tolerance damping ids
      (Gradient.solve ⟨cap.toNat, tolerance, damping⟩ s.entities s.constraints.values)
      (Gradient.solve ⟨cap.toNat, tolerance, damping⟩ s.entities
        (s.relieved ids).constraints.values)
      (Gradient.solve ⟨cap.toNat, tolerance * √((s.relieved ids).plan.length / s.plan.length),
        damping⟩ s.entities s.constraints.values) := by
  have planned : Gradient.plan s.entities (s.relieved ids).constraints.values =
      (Gradient.plan s.entities s.constraints.values).filter fun c => !ids.contains c.id :=
    typed.plan_relieved ids
  have dropped : ∀ c ∈ Gradient.plan s.entities s.constraints.values,
      (!ids.contains c.id) = false → c.relation.isMeasured = false :=
    typed.isMeasured_of_mem unmeasured
  constructor
  case iterates => exact entitiesAfter_of_filter planned dropped damping
  case residuals =>
    intro entities
    rw [typed.plan_relieved]
    exact totalResidual_filter dropped entities
  case stricter =>
    exact ⟨solve_success_of_filter planned dropped, solve_iterations_of_filter planned dropped,
      solve_entities_of_filter planned dropped⟩
  case success => exact solve_success_of_success_filter planned dropped nonneg
  case iterations => exact solve_iterations_le_of_filter planned dropped nonneg
  case alike =>
    intro same
    exact ⟨solve_entities_of_iterations_eq planned dropped same,
      solve_residual_of_iterations_eq planned dropped same⟩
  case conflicts =>
    rw [solve_conflicts, planned, worst_filter dropped nonneg]
    rfl
  case failed =>
    intro failed
    have same := solve_iterations_of_filter_of_failure planned dropped nonneg failed
    have entities := solve_entities_of_iterations_eq planned dropped same
    have residual := solve_residual_of_iterations_eq planned dropped same
    -- a success without the constraints would be one with them
    have failed' := Bool.eq_false_iff.mpr fun succeeded => Bool.eq_false_iff.mp failed
      (solve_success_of_success_filter planned dropped nonneg succeeded)
    refine ⟨failed', same, entities, ?_, ?_⟩
    · rw [solve_conflicts, failed', solve_conflicts, failed, entities, planned,
        worst_filter dropped nonneg]
    · rw [solve_shortfall, failed', solve_shortfall, failed, residual, same]
      rfl
  case skipped =>
    rw [solve_diagnostics, solve_diagnostics]
    exact typed.skipped_relieved unmeasured
  case unsupported =>
    rw [solve_diagnostics, solve_diagnostics]
    exact typed.unsupported_relieved ids

/-- Without constraints that have no formula, a sketch is solved in the same steps, but against a
greater residual: as it is with them at a tolerance that is less in proportion. -/
theorem IsTyped.exists_isRelievedTo (typed : s.IsTyped cap tolerance damping)
    (nonneg : 0 ≤ tolerance) (unmeasured : s.AreUnmeasured ids) :
    ∃ s' solution solution' strict, s.removeConstraints ids = .ok s' ∧
      s.solve = ⟨s, .ok solution⟩ ∧ s'.solve = ⟨s', .ok solution'⟩ ∧
      (s.withTolerance (tolerance * √(s'.plan.length / s.plan.length))).solve =
        ⟨s.withTolerance (tolerance * √(s'.plan.length / s.plan.length)), .ok strict⟩ ∧
      s.IsRelievedTo tolerance damping ids solution solution' strict :=
  ⟨_, _, _, _, removeConstraints_eq_ok s ids, typed.solve_eq, (typed.relieved ids).solve_eq,
    (typed.withTolerance _).solve_eq, typed.isRelievedTo nonneg unmeasured⟩

lemma areUnmeasured_apart (cap : ℤ) (tolerance : ℝ) :
    (apart cap tolerance).AreUnmeasured ["stay"] := by
  intro id there
  rw [List.mem_singleton] at there
  refine ⟨demanding "stay" .fixed ["A"], ?_, there.symm, rfl, ?_, rfl⟩
  · simp [apart, Table.values, Table.entries_ofList]
  · simp [apart, Table.get?, Table.entries_ofList, demanding]

theorem apart_exists_isRelievedTo :
    ∃ s' solution solution' strict, (apart 7 0.5).removeConstraints ["stay"] = .ok s' ∧
      (apart 7 0.5).solve = ⟨apart 7 0.5, .ok solution⟩ ∧ s'.solve = ⟨s', .ok solution'⟩ ∧
      ((apart 7 0.5).withTolerance (0.5 * √(s'.plan.length / (apart 7 0.5).plan.length))).solve =
        ⟨(apart 7 0.5).withTolerance (0.5 * √(s'.plan.length / (apart 7 0.5).plan.length)),
          .ok strict⟩ ∧
      (apart 7 0.5).IsRelievedTo 0.5 1 ["stay"] solution solution' strict :=
  (isTyped_apart 7 0.5).exists_isRelievedTo (by norm_num) (areUnmeasured_apart 7 0.5)

lemma get?_apart (cap : ℤ) (tolerance : ℝ) (id : String) :
    (apart cap tolerance).entities.get? id =
      if id = "A" then some (pointAt "A" 0 0)
      else if id = "B" then some (pointAt "B" 1 0) else none := by
  have entries : (apart cap tolerance).entities.entries =
      [("A", pointAt "A" 0 0), ("B", pointAt "B" 1 0)] := Table.entries_ofList (by simp)
  rw [Table.get?, entries]
  by_cases first : id = "A"
  · simp [first]
  · by_cases second : id = "B"
    · simp [second]
    · simp [first, second, Ne.symm first, Ne.symm second]

lemma plan_apart (cap : ℤ) (tolerance : ℝ) : (apart cap tolerance).plan =
      [demanding "meet" .coincident ["A", "B"], demanding "stay" .fixed ["A"]] := by
  have constraints : (apart cap tolerance).constraints.values =
      [demanding "meet" .coincident ["A", "B"], demanding "stay" .fixed ["A"],
        demanding "level" .horizontal ["C"]] := by
    simp [apart, Table.values, Table.entries_ofList]
  have active (id : String) (relation : Relation) (names : List String) :
    (demanding id relation names).isActive = true := rfl
  have resolvable (id : String) (relation : Relation) (names : List String) :
      (demanding id relation names).isResolvable (snapshot (apart cap tolerance).entities) =
        names.all fun name => ((apart cap tolerance).entities.get? name).isSome := rfl
  rw [plan, Gradient.plan, constraints]
  simp [active, resolvable, get?_apart]

lemma meet_apart (cap : ℤ) (tolerance : ℝ) : (demanding "meet" .coincident ["A", "B"]).residual
      (snapshot (apart cap tolerance).entities) = .measured 1 := by
  have resolved : (demanding "meet" .coincident ["A", "B"]).resolve
      (snapshot (apart cap tolerance).entities) = [pointAt "A" 0 0, pointAt "B" 1 0] := by
    simp [demanding, Constraint.resolve, snapshot, get?_apart]
  have distance : (⟨0, 0, 0⟩ : Vector3 ℝ).distance ⟨1, 0, 0⟩ = 1 := by
    simp [Vector3.distance, Vector3.norm, Vector3.sub, Vector3.joint, Vector3.map,
      Scalar.IsPlain.after_eq, Vector3.dot, Scalar.greater, Scalar.sqrt]
  rw [Constraint.residual, resolved]
  exact congrArg Residual.measured distance

/-- Two points that are apart can count as together, for a constraint without a formula that takes
part in the mean. -/
theorem not_success_of_relieved :
    ∃ s' solution solution', (apart 0 0.9).removeConstraints ["stay"] = .ok s' ∧
      (apart 0 0.9).solve = ⟨apart 0 0.9, .ok solution⟩ ∧ s'.solve = ⟨s', .ok solution'⟩ ∧
      solution.success = true ∧ solution'.success = false := by
  have typed := isTyped_apart 0 0.9
  refine ⟨_, _, _, removeConstraints_eq_ok _ _, typed.solve_eq, (typed.relieved _).solve_eq, ?_, ?_⟩
  · have mean : totalResidual (apart 0 0.9).plan (apart 0 0.9).entities = .measured √(1 / 2) := by
      have values : ((apart 0 0.9).plan.map fun c => c.residual (snapshot (apart 0 0.9).entities)) =
          [1, 0].map .measured := by
        rw [plan_apart, List.map_cons, meet_apart]
        rfl
      rw [totalResidual, values, Residual.rootMeanSquare_measured]
      norm_num
    rw [solve_success, solve_entities_of_cap_eq_zero rfl, isSettled_iff]
    refine .inr ⟨_, mean, ?_⟩
    rw [Real.sqrt_le_iff]
    norm_num
  · have planned : ((apart 0 0.9).relieved ["stay"]).plan =
        [demanding "meet" .coincident ["A", "B"]] := by
      rw [typed.plan_relieved, plan_apart]
      simp [demanding]
    have mean : totalResidual ((apart 0 0.9).relieved ["stay"]).plan (apart 0 0.9).entities =
        .measured 1 := by
      rw [planned, totalResidual, List.map_cons, meet_apart]
      have := Residual.rootMeanSquare_measured [1]
      simpa using this
    rw [solve_success, solve_entities_of_cap_eq_zero rfl, Bool.eq_false_iff, ne_eq, isSettled_iff]
    rintro (nothing | ⟨r, residual, small⟩)
    · have absurdity := planned.symm.trans nothing
      cases absurdity
    · cases mean.symm.trans residual
      norm_num at small

end Sketch

end Drafting
