import Drafting.Proofs.Gradient.Step
import Drafting.Proofs.Sketch.Splitting
import Drafting.Proofs.Sketch.Soundness
import Mathlib.Order.SuccPred.Archimedean

/-!
# What a failed solve reports

A solve that fails reports the last state of its run, after all the steps that it may make, which is
the best of them only if no step was a step too far (`Sketch.IsTyped.exists_reportsLast`). Steps are
of a fixed size, so a residual that is smaller than they are can grow
(`Sketch.residual_lt_of_overshooting`); no record is kept of what it was. The best state is what a
solve with fewer steps would have reported.
-/

namespace Drafting

open Drafting.Gradient

variable {ν : Type} [Name ν]

/-- The residual of a sketch after a number of steps. -/
noncomputable def Sketch.residualAfter (s : Sketch ν ℝ ℝ) (damping : ℝ) (count : ℕ) : WithTop ℝ :=
  (totalResidual s.plan (entitiesAfter damping s.plan s.entities count)).toExtended

/-- A solution that is the last state of a run that reaches no tolerance. -/
structure Sketch.ReportsLast [Named ν ℝ] (s : Sketch ν ℝ ℝ) (cap : ℤ) (tolerance damping : ℝ)
    (solution : Solution ν ℝ) : Prop where
  /-- All steps are made that may be made. -/
  exhausted : (solution.iterations : ℤ) = max 0 cap
  /-- The entities are those that the last of them leads to. -/
  last : solution.entities = entitiesAfter damping s.plan s.entities solution.iterations
  /-- The residual is theirs. -/
  residual : solution.residual.toExtended = s.residualAfter damping solution.iterations
  /-- The solution says that it fell short with these. -/
  shortfall : solution.shortfall = some ⟨tolerance, solution.iterations, solution.residual⟩
  /-- No state of the run is within the tolerance. -/
  short : ∀ count ≤ solution.iterations, tolerance < s.residualAfter damping count
  /-- There is a best state, which is what a solve with as many steps reports. -/
  best : ∃ count ≤ solution.iterations,
    (∀ other ≤ solution.iterations, s.residualAfter damping count ≤ s.residualAfter damping other) ∧
    ∃ earlier, (s.withCap count).solve = ⟨s.withCap count, .ok earlier⟩ ∧
      earlier.success = false ∧
      earlier.entities = entitiesAfter damping s.plan s.entities count ∧
      earlier.residual.toExtended = s.residualAfter damping count
  /-- The last state is the best one, if no step makes the residual greater. -/
  descending : (∀ count < solution.iterations,
      s.residualAfter damping (count + 1) ≤ s.residualAfter damping count) →
    ∀ count ≤ solution.iterations, solution.residual.toExtended ≤ s.residualAfter damping count

namespace Sketch

variable {s : Sketch ν ℝ ℝ} {cap : ℤ} {tolerance damping : ℝ}

/-- A state is not settled if there is something planned and its residual is over the tolerance. -/
lemma isSettled_eq_false_iff {count : ℕ} :
    isSettled tolerance s.plan (entitiesAfter damping s.plan s.entities count) = false ↔
      s.plan ≠ [] ∧ tolerance < s.residualAfter damping count := by
  rw [← Bool.not_eq_true, isSettled_iff, not_or, residualAfter]
  refine and_congr_right fun _ => ?_
  cases totalResidual s.plan (entitiesAfter damping s.plan s.entities count) with
  | infeasible => simp [Residual.toExtended]
  | measured r => simp [Residual.toExtended]

lemma toExtended_solve_residual (settings : Settings ℝ) :
    (Gradient.solve settings s.entities s.constraints.values).residual.toExtended =
      s.residualAfter settings.damping
        (Gradient.solve settings s.entities s.constraints.values).iterations := by
  rw [solve_residual, solve_entities]
  rfl

/-- No state of a run that fails is within the tolerance, the last one included. -/
lemma lt_residualAfter_of_failure {settings : Settings ℝ} (failed :
      (Gradient.solve settings s.entities s.constraints.values).success = false) {count : ℕ}
    (inside : count ≤ (Gradient.solve settings s.entities s.constraints.values).iterations) :
    s.plan ≠ [] ∧ settings.tolerance < s.residualAfter settings.damping count := by
  rw [← isSettled_eq_false_iff]
  rcases inside.lt_or_eq with early | rfl
  · exact not_isSettled_of_lt early
  · rw [solve_success, solve_entities] at failed
    exact failed

variable [LawfulName ν] [Named ν ℝ]

/-- If no state of a run of some steps is within the tolerance, a solve with as many steps reports
the last of them. -/
lemma IsTyped.exists_failure (typed : s.IsTyped cap tolerance damping) (planned : s.plan ≠ [])
    {count : ℕ} (short : ∀ earlier ≤ count, tolerance < s.residualAfter damping earlier) :
    ∃ solution, (s.withCap count).solve = ⟨s.withCap count, .ok solution⟩ ∧
      solution.success = false ∧
      solution.entities = entitiesAfter damping s.plan s.entities count ∧
      solution.residual.toExtended = s.residualAfter damping count := by
  have solved : (s.withCap count).solve = ⟨s.withCap count,
      .ok (Gradient.solve ⟨count, tolerance, damping⟩ s.entities s.constraints.values)⟩ :=
    (typed.withCap count).solve_eq
  have failed : (Gradient.solve ⟨count, tolerance, damping⟩ s.entities
      s.constraints.values).success = false := by
    rw [solve_success, solve_entities]
    exact isSettled_eq_false_iff.mpr ⟨planned, short _ solve_iterations_le⟩
  refine ⟨_, solved, failed, ?_, ?_⟩
  · rw [solve_entities, solve_iterations_of_failure failed]
    rfl
  · rw [toExtended_solve_residual, solve_iterations_of_failure failed]

/-- A solve of a typed sketch that fails reports the last state of its run. -/
theorem IsTyped.exists_reportsLast (typed : s.IsTyped cap tolerance damping) :
    ∃ solution, s.solve = ⟨s, .ok solution⟩ ∧
      (solution.success = false → s.ReportsLast cap tolerance damping solution) := by
  refine ⟨_, typed.solve_eq, fun failed => ?_⟩
  have solved := typed.isSolvedBy_solve
  have residual := s.toExtended_solve_residual ⟨cap.toNat, tolerance, damping⟩
  have short (count : ℕ) (inside : count ≤ _) := s.lt_residualAfter_of_failure failed inside
  constructor
  case exhausted => exact solved.exhausted failed
  case last => exact solved.reached
  case residual => exact residual
  case shortfall => rw [solve_shortfall, failed]; rfl
  case short => exact fun count inside => (short count inside).2
  case best =>
    obtain ⟨best, inside, least⟩ := (Finset.Iic _).exists_min_image (s.residualAfter damping)
      ⟨0, Finset.mem_Iic.mpr (Nat.zero_le _)⟩
    rw [Finset.mem_Iic] at inside
    -- no state up to this one is within the tolerance, so a solve with a smaller cap gets here too
    refine ⟨best, inside, fun other there => least other (Finset.mem_Iic.mpr there), ?_⟩
    exact typed.exists_failure (short best inside).1 fun earlier before =>
      (short earlier (before.trans inside)).2
  case descending =>
    intro steps count inside
    have antitone : AntitoneOn (s.residualAfter damping) (Set.Iic _) :=
      antitoneOn_of_succ_le Set.ordConnected_Iic fun k _ _ next => steps k next
    rw [residual]
    exact antitone inside Set.self_mem_Iic inside

/-! ### A step too far -/

/-- A line of a length that is nowhere. -/
noncomputable def lineOf (id : String) (length : ℝ) : Entity String ℝ where
  id
  kind := .line
  position := none
  direction := none
  radius := none
  normal := none
  parameters := .ofList [("length", length)]
  carried := by
    intro name there
    rw [List.mem_singleton.mp there]
    rfl

/-- One line should be as long as the other. -/
def matched : Constraint String ℝ := demanding "same" .equal ["l1", "l2"]

/-- Two lines that should be as long as each other, and nearly are; one step is made, which goes
twice as far as they are apart for each of them. -/
noncomputable def overshooting : Sketch String ℝ ℝ where
  options := ⟨.int 1, .real 0.0001, .real 1, .gradientDescent, .flag false⟩
  entities := .ofList [("l1", lineOf "l1" 0), ("l2", lineOf "l2" 0.005)]
  constraints := .ofList [("same", matched)]

lemma isTyped_overshooting : overshooting.IsTyped 1 0.0001 1 where
  cap := rfl
  tolerance := .real 0.0001
  damping := .real 1
  verbose := ⟨false, rfl⟩
  active := by simp [overshooting, Table.values, Table.entries_ofList, matched, demanding]
  constraint_id := by simp [overshooting, Table.entries_ofList, matched, demanding]

lemma plan_overshooting : overshooting.plan = [matched] := by
  have constraints : overshooting.constraints.values = [matched] := by
    simp [overshooting, Table.values, Table.entries_ofList]
  have active : matched.isActive = true := rfl
  have resolvable : matched.isResolvable (snapshot overshooting.entities) = true := by
    simp [matched, demanding, Constraint.isResolvable, snapshot, overshooting, Table.get?,
      Table.entries_ofList]
  rw [plan, Gradient.plan, constraints]
  simp [active, resolvable]

/-- Entities among which the two lines have given lengths. -/
structure AreLines (entities : Snapshot String ℝ) (m n : ℝ) : Prop where
  first : ∃ a, entities "l1" = some a ∧ a.kind = .line ∧ a.value? (.parameter "length") = some m
  second : ∃ b, entities "l2" = some b ∧ b.kind = .line ∧ b.value? (.parameter "length") = some n

lemma AreLines.residual_eq {entities : Snapshot String ℝ} {m n : ℝ}
    (lines : AreLines entities m n) : matched.residual entities = .measured |m - n| := by
  obtain ⟨⟨a, first, line, length⟩, b, second, line', length'⟩ := lines
  have resolved : matched.resolve entities = [a, b] := by
    simp [matched, demanding, Constraint.resolve, first, second]
  have measured : Measure.equal [a, b] = some |m - n| := by
    have m' : a.parameters.get? (Name.ofText "length") = some m := length
    have n' : b.parameters.get? (Name.ofText "length") = some n := length'
    simp only [Measure.equal, line, line', and_self, if_true, m', n']
    rfl
  rw [Constraint.residual, resolved]
  exact congrArg (fun x => Residual.ofOption (x.map Scalar.settle)) measured

/-- What the constraint comes to when one of the lines is made longer. -/
lemma AreLines.residual_replace {entities : Snapshot String ℝ} {m n : ℝ}
    (lines : AreLines entities m n) (delta : ℝ) :
    (∀ a, entities "l1" = some a →
      matched.residual (entities.replace "l1" (a.nudge (.parameter "length") delta)) =
        .measured |m + delta - n|) ∧
    ∀ b, entities "l2" = some b →
      matched.residual (entities.replace "l2" (b.nudge (.parameter "length") delta)) =
        .measured |m - (n + delta)| := by
  obtain ⟨⟨a, first, line, length⟩, b, second, line', length'⟩ := lines
  have nudged {e : Entity String ℝ} {x : ℝ} (line : e.kind = .line)
      (length : e.value? (.parameter "length") = some x) :
      (e.nudge (.parameter "length") delta).kind = .line ∧
        (e.nudge (.parameter "length") delta).value? (.parameter "length") = some (x + delta) := by
    refine ⟨(e.isFramedBy_nudge _ delta).kind.trans line, ?_⟩
    rw [Entity.value?_nudge, length]
    simp
  constructor
  · intro a' there
    cases first.symm.trans there
    exact AreLines.residual_eq ⟨⟨_, rfl, nudged line length⟩, b, second, line', length'⟩
  · intro b' there
    cases second.symm.trans there
    exact AreLines.residual_eq ⟨⟨a, first, line, length⟩, _, rfl, nudged line' length'⟩

/-- What a step makes of the lengths. -/
lemma AreLines.descend {entities : Table String (Entity String ℝ)} {m n : ℝ}
    (lines : AreLines (snapshot entities) m n) :
    AreLines (snapshot (Gradient.descend 1 [matched] entities))
      (m - 0.01 * 1 * ((|m + 1e-5 - n| - |m - n|) / 1e-5))
      (n - 0.01 * 1 * ((|m - (n + 1e-5)| - |m - n|) / 1e-5)) := by
  have base := lines.residual_eq
  have nudged := lines.residual_replace 1e-5
  obtain ⟨⟨a, first, line, length⟩, b, second, line', length'⟩ := lines
  have pull {id : String} {e : Entity String ℝ} {x : ℝ} (named : id ∈ matched.entities)
      (after : matched.residual ((snapshot entities).replace id
        (e.nudge (.parameter "length") 1e-5)) = .measured x) :
      quotients [matched] (snapshot entities) id e (.parameter "length") =
        (x - |m - n|) / 1e-5 := by
    have finite (y : ℝ) : (Residual.measured y).finite? = some y := rfl
    have only : [matched].filter (fun c => c.entities.contains id) = [matched] := by simp [named]
    rw [quotients, only, List.map_singleton, List.sum_singleton, quotient, base, after, finite,
      finite]
  constructor
  · obtain ⟨a', there, framed, moved⟩ := exists_get?_descend first 1 [matched]
    refine ⟨a', there, framed.kind.trans line, ?_⟩
    rw [moved, length, Option.map_some, pull (by simp [matched, demanding]) (nudged.1 a first)]
  · obtain ⟨b', there, framed, moved⟩ := exists_get?_descend second 1 [matched]
    refine ⟨b', there, framed.kind.trans line', ?_⟩
    rw [moved, length', Option.map_some, pull (by simp [matched, demanding]) (nudged.2 b second)]

lemma areLines_overshooting : AreLines (snapshot overshooting.entities) 0 0.005 where
  first := ⟨lineOf "l1" 0, by simp [overshooting, snapshot, Table.get?, Table.entries_ofList], rfl,
    rfl⟩
  second := ⟨lineOf "l2" 0.005,
    by simp [overshooting, snapshot, Table.get?, Table.entries_ofList], rfl, rfl⟩

lemma AreLines.totalResidual_eq {entities : Table String (Entity String ℝ)} {m n : ℝ}
    (lines : AreLines (snapshot entities) m n) :
    totalResidual [matched] entities = .measured |m - n| := by
  rw [totalResidual, List.map_singleton, lines.residual_eq,
    Residual.rootMeanSquare_singleton (abs_nonneg _)]

lemma residualAfter_overshooting :
    overshooting.residualAfter 1 0 = (0.005 : ℝ) ∧
      overshooting.residualAfter 1 1 = (0.015 : ℝ) := by
  have start := areLines_overshooting
  have moved := start.descend
  have apart : |(0 : ℝ) - 0.005| = 0.005 := by norm_num [abs_of_neg]
  have first : |(0 : ℝ) + 1e-5 - 0.005| = 0.00499 := by norm_num [abs_of_neg]
  have second : |(0 : ℝ) - (0.005 + 1e-5)| = 0.00501 := by norm_num [abs_of_neg]
  have further : |(0 : ℝ) - 0.01 * 1 * ((0.00499 - 0.005) / 1e-5) -
      (0.005 - 0.01 * 1 * ((0.00501 - 0.005) / 1e-5))| = 0.015 := by norm_num
  rw [first, second, apart] at moved
  rw [residualAfter, residualAfter, plan_overshooting]
  constructor
  · exact congrArg Residual.toExtended (start.totalResidual_eq.trans (by rw [apart]))
  · exact congrArg Residual.toExtended (moved.totalResidual_eq.trans (by rw [further]))

lemma exists_failure_overshooting :
    ∃ solution, overshooting.solve = ⟨overshooting, .ok solution⟩ ∧ solution.success = false ∧
      solution.residual.toExtended = (0.015 : ℝ) := by
  obtain ⟨before, after⟩ := residualAfter_overshooting
  have planned : overshooting.plan ≠ [] := by simp [plan_overshooting]
  have short : ∀ count ≤ 1, (0.0001 : ℝ) < overshooting.residualAfter 1 count := by
    intro count inside
    obtain rfl | rfl := Nat.le_one_iff_eq_zero_or_eq_one.mp inside
    · rw [before]
      exact WithTop.coe_lt_coe.mpr (by norm_num)
    · rw [after]
      exact WithTop.coe_lt_coe.mpr (by norm_num)
  obtain ⟨solution, solved, failed, -, residual⟩ :=
    isTyped_overshooting.exists_failure planned short
  exact ⟨solution, solved, failed, residual.trans after⟩

/-- A solve can fail with a residual that is greater than the one that it starts with. -/
theorem residual_lt_of_overshooting :
    ∃ solution, overshooting.solve = ⟨overshooting, .ok solution⟩ ∧ solution.success = false ∧
      overshooting.residualAfter 1 0 < solution.residual.toExtended := by
  obtain ⟨solution, solved, failed, residual⟩ := exists_failure_overshooting
  refine ⟨solution, solved, failed, ?_⟩
  rw [residual, residualAfter_overshooting.1]
  exact WithTop.coe_lt_coe.mpr (by norm_num)

theorem overshooting_exists_reportsLast : overshooting.IsTyped 1 0.0001 1 ∧
    ∃ solution, overshooting.solve = ⟨overshooting, .ok solution⟩ ∧ solution.success = false ∧
      overshooting.ReportsLast 1 0.0001 1 solution := by
  obtain ⟨solution, solved, failed, -⟩ := exists_failure_overshooting
  obtain ⟨solution', solved', reports⟩ := isTyped_overshooting.exists_reportsLast
  obtain rfl : solution = solution' := by simpa [solved] using solved'
  exact ⟨isTyped_overshooting, solution, solved, failed, reports failed⟩

end Sketch

end Drafting
