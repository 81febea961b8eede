import Drafting.Proofs.Gradient.Conflicts
import Drafting.Proofs.Sketch.Soundness

/-!
# Conflicts of a failed solve

A solve that fails names at most five planned constraints as conflicts: the first ones of a ranking
of those whose residuals, on the entities of the solution, exceed ten times the tolerance
(`Sketch.exists_namesWorst`). This holds of whatever a sketch is made of, of doubles with their
infinities and undefined results as well as of reals.
-/

namespace Drafting

open Drafting.Gradient

variable {ν α : Type} [Name ν] [Scalar α]

namespace Sketch

/-- A failed solution of a sketch that names the first of a ranking of the planned constraints whose
residuals, on the entities of the solution, exceed ten times a tolerance. -/
structure NamesWorst (s : Sketch ν α α) (tolerance : α) (solution : Solution ν α)
    (ranking : List (Constraint ν α × ℕ)) : Prop where
  /-- All of them are ranked, and no others, by residual and then by place. -/
  ranked : IsRanking (fun c => c.residual (snapshot solution.entities))
    (exceeding (tolerance * 10.0) s.plan (snapshot solution.entities)) ranking
  /-- Five are named, or fewer if there are not as many. -/
  named : solution.conflicts = some ((ranking.take 5).map fun entry => entry.1.id)
  /-- Those with infinite residuals come first. -/
  infinite : ranking.Pairwise fun a b =>
    (b.1.residual (snapshot solution.entities)).finite? = none →
      (a.1.residual (snapshot solution.entities)).finite? = none
  /-- None has an undefined residual. -/
  defined : ∀ entry ∈ ranking, (entry.1.residual (snapshot solution.entities)).IsDefined
  active : ∀ entry ∈ ranking, entry.1 ∈ s.constraints.values ∧ entry.1.isActive = true
  resolvable : ∀ entry ∈ ranking, ∀ name ∈ entry.1.entities, s.entities.get? name ≠ none
  supported : 0 ≤ tolerance → ∀ entry ∈ ranking, entry.1.relation.isMeasured = true
  /-- Where one is left out, five are named whose residuals are not less. -/
  leftOut : ∀ entry ∈ ranking, entry ∉ ranking.take 5 → (ranking.take 5).length = 5 ∧
    ∀ listed ∈ ranking.take 5, (listed.1.residual (snapshot solution.entities)).isLess
      (entry.1.residual (snapshot solution.entities)) = false

variable {s : Sketch ν α α} {solution : Solution ν α}

/-- Whatever the options are, a solve that fails has something to solve for and names the worst of
it. -/
lemma exists_conflicts_eq [Named ν α] (solved : s.solve.result = .ok solution)
    (failed : solution.success = false) : ∃ tolerance,
      s.options.tolerance.bound = .ok tolerance ∧
        solution.conflicts = some (worst tolerance s.plan solution.entities) := by
  obtain ⟨settings, bound, rfl⟩ := exists_eq_solve solved
  have planned : s.plan ≠ [] := by
    intro nothing
    rw [solve_eq_trivial nothing] at failed
    cases failed
  refine ⟨settings.tolerance, bound planned, ?_⟩
  rw [solve_conflicts, failed]
  rfl

variable [Scalar.IsPlain α] [Scalar.IsOrdered α]

/-- A solve that fails names the worst of the planned constraints as conflicts: the first five of
those whose residuals on the entities of the solution exceed ten times the tolerance, in descending
order, and of those with equal residuals the ones that were inserted first. -/
theorem exists_namesWorst [Named ν α] (solved : s.solve.result = .ok solution)
    (failed : solution.success = false) : ∃ tolerance ranking,
      s.options.tolerance.bound = .ok tolerance ∧ s.NamesWorst tolerance solution ranking := by
  obtain ⟨tolerance, bound, conflicts⟩ := exists_conflicts_eq solved failed
  obtain ⟨ranking, ranked, head⟩ := exists_isRanking_worst tolerance s.plan solution.entities
  have exceeds : ∀ entry ∈ ranking, (entry.1.residual (snapshot solution.entities)).exceeds
      (tolerance * conflictFactor) = true :=
    fun entry there => (List.mem_filter.mp (ranked.mem_of_mem there)).2
  have planned : ∀ entry ∈ ranking, entry.1 ∈ s.plan :=
    fun entry there => List.mem_of_mem_filter (ranked.mem_of_mem there)
  refine ⟨tolerance, ranking, bound, ?_⟩
  constructor
  case ranked => exact ranked
  case named => rw [conflicts, head]; rfl
  case infinite =>
    refine ranked.descending.imp_of_mem fun {a b} _ there precedes infinite => ?_
    exact Residual.finite?_eq_none_of_not_isLess (exceeds b there) infinite
      precedes.isLess_eq_false
  case defined => exact fun entry there => Residual.isDefined_of_exceeds (exceeds entry there)
  case active =>
    intro entry there
    obtain ⟨stored, active, -⟩ := mem_plan.mp (planned entry there)
    exact ⟨stored, active⟩
  case resolvable => exact fun entry there => (mem_plan.mp (planned entry there)).2.2
  case supported =>
    exact fun nonneg entry there => isMeasured_of_exceeds nonneg (exceeds entry there)
  case leftOut => exact fun entry there leftOut => ranked.of_not_mem_take there leftOut

/-- An entity that has a position at most. -/
def bare (id : String) (kind : Entity.Kind) (position : Option (Vector3 Float)) :
    Entity String Float where
  id
  kind
  position
  direction := none
  radius := none
  normal := none
  parameters := .empty
  carried := nofun

/-- A sketch of doubles whose constraints are not met: distances that are off by four or by five, a
point that is nowhere and a line without a direction; and one that has no formula. -/
def crowded : Sketch String Float Float where
  options := ⟨.int 0, .real 0.001, .real 1, .gradientDescent, .flag false⟩
  entities := .ofList [("A", bare "A" .point (some ⟨0, 0, 0⟩)),
    ("B", bare "B" .point (some ⟨3, 4, 0⟩)), ("N", bare "N" .point (some ⟨0.0 / 0.0, 0, 0⟩)),
    ("L", bare "L" .line none)]
  constraints := .ofList [
    ("one", ⟨"one", .distance, ["A", "B"], some 1, .int 0, .flag true⟩),
    ("join", ⟨"join", .coincident, ["A", "B"], none, .int 0, .flag true⟩),
    ("lost", ⟨"lost", .coincident, ["A", "N"], none, .int 0, .flag true⟩),
    ("nine", ⟨"nine", .distance, ["A", "B"], some 9, .int 0, .flag true⟩),
    ("level", ⟨"level", .horizontal, ["L"], none, .int 0, .flag true⟩),
    ("stay", ⟨"stay", .fixed, ["A"], none, .int 0, .flag true⟩),
    ("same", ⟨"same", .coincident, ["B", "A"], none, .int 0, .flag true⟩),
    ("again", ⟨"again", .distance, ["B", "A"], some 1, .int 0, .flag true⟩)]

lemma isTyped_crowded : crowded.IsTyped 0 0.001 1 where
  cap := rfl
  tolerance := .real 0.001
  damping := .real 1
  verbose := ⟨false, rfl⟩
  active := by simp [crowded, Table.values, Table.entries_ofList]
  constraint_id := by simp [crowded, Table.entries_ofList]

/-- Six constraints of the crowded sketch exceed the bound, of which five are named. -/
theorem crowded_exists_namesWorst : ∃ solution, crowded.solve.result = .ok solution ∧
    solution.success = false ∧
    (exceeding (0.001 * 10.0) crowded.plan (snapshot solution.entities)).map Constraint.id =
      ["one", "join", "nine", "level", "same", "again"] ∧
    ∃ tolerance ranking, crowded.options.tolerance.bound = .ok tolerance ∧
      crowded.NamesWorst tolerance solution ranking := by
  have solved : crowded.solve.result = .ok (Gradient.solve ⟨0, 0.001, 1⟩ crowded.entities
      crowded.constraints.values) := by
    rw [isTyped_crowded.solve_eq]
    rfl
  have failed : (Gradient.solve ⟨0, 0.001, 1⟩ crowded.entities
      crowded.constraints.values).success = false := by decide +kernel
  exact ⟨_, solved, failed, by decide +kernel, exists_namesWorst solved failed⟩

end Sketch

end Drafting
