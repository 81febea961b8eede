import Drafting.Proofs.Gradient.Translation
import Drafting.Proofs.Sketch.Soundness

/-!
# Solving translated sketches

In exact arithmetic it does not matter where in space a sketch lies. A solve of a sketch all of
whose positions have been moved by one vector comes to the same fault, or to the same solution with
its positions moved by that vector (`Sketch.translated_solve`).
-/

namespace Drafting.Sketch

open Drafting.Gradient

variable {ν : Type} [Name ν]

/-- The sketch with a vector added to every position. -/
noncomputable def translated (v : Vector3 ℝ) (s : Sketch ν ℝ ℝ) : Sketch ν ℝ ℝ :=
  { s with entities := Gradient.translated v s.entities }

variable [LawfulName ν] (v : Vector3 ℝ) (s : Sketch ν ℝ ℝ)

lemma plan_translated : (s.translated v).plan = s.plan :=
  Gradient.plan_congr (.of_eq (Gradient.keys_translated v s.entities)) s.constraints.values

lemma diagnose_translated : (s.translated v).diagnose = s.diagnose :=
  Gradient.diagnose_congr (.of_eq (Gradient.keys_translated v s.entities)) s.constraints.values

lemma requireMeasurable_translated : (s.translated v).requireMeasurable = s.requireMeasurable := by
  rw [requireMeasurable, requireMeasurable, measureFault?_eq_none, measureFault?_eq_none,
    plan_translated]
  rfl

/-- Whether a step is made does not depend on where a sketch lies. -/
lemma limits_translated :
    ((s.translated v).limits : Except (Fault ℝ) (ℕ × ℝ × Bool)) = s.limits := by
  have start : Iterate.of s.plan (s.translated v).entities =
      (Iterate.of s.plan s.entities).translated v := Iterate.of_translated v s.plan s.entities
  rw [limits, limits, plan_translated, start]
  rfl

omit [LawfulName ν] in
lemma conclude_translated (run : Except (Fault ℝ) (Solution ν ℝ)) :
    (s.translated v).conclude (run.map fun solution => solution.translated v) =
      (s.conclude run).map fun solution => solution.translated v := by
  cases run with
  | error fault => rfl
  | ok solution =>
    have reportable : (s.translated v).requireReportable (solution.translated v) =
        s.requireReportable solution := rfl
    simp only [conclude, Except.map, bind, Except.bind, reportable]
    cases s.requireReportable solution <;> rfl

variable [Named ν ℝ]

lemma settings_translated : (s.translated v).settings = s.settings := by
  simp only [settings, limits_translated, stepFault?_eq_none]
  rfl

lemma descend_translated : ((s.translated v).descend : Except (Fault ℝ) (Solution ν ℝ)) =
    s.descend.map fun solution => solution.translated v := by
  rw [descend, descend, requireMeasurable_translated, plan_translated, settings_translated,
    diagnose_translated]
  cases s.requireMeasurable with
  | error fault => rfl
  | ok _ =>
    cases s.plan.isEmpty with
    | true => rfl
    | false =>
      cases s.settings with
      | error fault => rfl
      | ok settings =>
        exact congrArg Except.ok (solve_translated v settings s.entities s.constraints.values)

/-- Adding a vector to the position of every entity that has one changes nothing about a solve but
that it is added to the positions in the sketch that is left and in the solution. Whether there is a
solution, how many steps it takes, its residual, what it says and its entities are the same
otherwise. -/
theorem translated_solve :
    (s.translated v).solve = ⟨s.solve.sketch.translated v,
      s.solve.result.map fun solution => solution.translated v⟩ := by
  have left : (s.translated v).worn = s.worn.translated v := by
    rw [worn_eq_self, worn_eq_self]
  rw [solve, left, descend_translated, conclude_translated]
  rfl

theorem apart_translated_solve : ∃ solution, (apart 7 0.5).solve.result = .ok solution ∧
    ((apart 7 0.5).translated ⟨3, -2, 1⟩).solve =
      ⟨(apart 7 0.5).translated ⟨3, -2, 1⟩, .ok (solution.translated ⟨3, -2, 1⟩)⟩ := by
  have solved := (isTyped_apart 7 0.5).solve_eq
  refine ⟨_, congrArg Attempt.result solved, ?_⟩
  rw [translated_solve, solved]
  rfl

end Drafting.Sketch
