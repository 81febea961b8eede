import Drafting.Proofs.Gradient.Displacement
import Drafting.Proofs.Sketch.Soundness

/-!
# How far a solve moves things

In exact arithmetic, and with directions of unit length, no step of a solve moves a coordinate or a
parameter of an entity by more than a hundredth of the damping for each planned constraint that
names the entity, so a whole solve moves it by no more than that for each step that it may make
(`Sketch.IsTyped.exists_isSlow`). How large the residuals are, and what a step does to them, plays
no part.
-/

namespace Drafting

open Drafting.Gradient

namespace Sketch

/-- A solution to which the numbers of a sketch get slowly. -/
structure IsSlow (s : Sketch String ℝ ℝ) (cap : ℤ) (damping : ℝ) (solution : Solution String ℝ) :
    Prop where
  /-- The entities are those that the steps lead to. -/
  reached : solution.entities = entitiesAfter damping s.plan s.entities solution.iterations
  /-- No step moves a number further than the constraints that name its entity allow for. -/
  step : ∀ count < solution.iterations,
    MovesWithin (fun id => 0.01 * |damping| * naming s.plan id)
      (entitiesAfter damping s.plan s.entities count)
      (entitiesAfter damping s.plan s.entities (count + 1))
  /-- All steps move it no further than as many times that as there may be steps. -/
  whole : MovesWithin (fun id => (max 0 cap : ℤ) * (0.01 * |damping| * naming s.plan id))
    s.entities solution.entities

variable {s : Sketch String ℝ ℝ} {cap : ℤ} {tolerance damping : ℝ}

/-- Solving a typed sketch whose directions are of unit length moves things slowly. -/
theorem IsTyped.exists_isSlow (typed : s.IsTyped cap tolerance damping)
    (unit : ∀ id e, s.entities.get? id = some e → e.HasUnitDirection) :
    ∃ solution, s.solve = ⟨s, .ok solution⟩ ∧ s.IsSlow cap damping solution := by
  refine ⟨_, typed.solve_eq, ?_⟩
  have reached : (Gradient.solve ⟨cap.toNat, tolerance, damping⟩ s.entities
      s.constraints.values).entities = entitiesAfter damping s.plan s.entities
        (Gradient.solve ⟨cap.toNat, tolerance, damping⟩ s.entities
          s.constraints.values).iterations := solve_entities
  constructor
  case reached => exact reached
  case step => exact fun count _ => movesWithin_entitiesAfter_succ unit damping s.plan count
  case whole =>
    rw [reached]
    refine (movesWithin_entitiesAfter unit damping s.plan _).mono fun id => ?_
    have few : (Gradient.solve ⟨cap.toNat, tolerance, damping⟩ s.entities
        s.constraints.values).iterations ≤ max 0 cap := by
      rw [max_comm, ← Int.toNat_eq_max]
      exact Int.ofNat_le.mpr solve_iterations_le
    refine mul_le_mul_of_nonneg_right ?_ (by positivity)
    exact_mod_cast few

/-- A circle that should touch a line, which rises by four for every three that it runs, and another
line that should be as long; steps lead away from what is asked for. -/
noncomputable def leaning : Sketch String ℝ ℝ where
  options := ⟨.int 3, .real 0.001, .real (-0.5), .gradientDescent, .flag false⟩
  entities := .ofList [
    ("C", ⟨"C", .circle, some ⟨1, 0, 0⟩, none, some 1, none, .empty, nofun⟩),
    ("L", ⟨"L", .line, some ⟨0, 0, 0⟩, some ⟨0.6, 0.8, 0⟩, none, none, .ofList [("length", 0.5)],
      by decide⟩),
    ("M", ⟨"M", .line, none, none, none, none, .ofList [("length", 1)], by decide⟩)]
  constraints := .ofList [("touch", demanding "touch" .tangent ["C", "L"]),
    ("same", demanding "same" .equal ["L", "M"])]

lemma isTyped_leaning : leaning.IsTyped 3 0.001 (-0.5) where
  cap := rfl
  tolerance := .real 0.001
  damping := .real (-0.5)
  verbose := ⟨false, rfl⟩
  active := by simp [leaning, Table.values, Table.entries_ofList, demanding]
  constraint_id := by simp [leaning, Table.entries_ofList, demanding]

lemma hasUnitDirection_leaning (id : String) (e : Entity String ℝ)
    (there : leaning.entities.get? id = some e) : e.HasUnitDirection := by
  have member := Table.mem_of_get? there
  rw [leaning, Table.entries_ofList (by simp)] at member
  intro u direction
  have only : u = ⟨0.6, 0.8, 0⟩ := by
    simp only [List.mem_cons, Prod.mk.injEq, List.not_mem_nil, or_false] at member
    obtain ⟨-, rfl⟩ | ⟨-, rfl⟩ | ⟨-, rfl⟩ := member
    · cases direction
    · exact (Option.some.inj direction).symm
    · cases direction
  have square : (⟨0.6, 0.8, 0⟩ : Vector3 ℝ).dot ⟨0.6, 0.8, 0⟩ = 1 := by norm_num [Vector3.dot]
  rw [only, Vector3.norm, square, Scalar.greater_eq_max, max_eq_left zero_le_one]
  exact Real.sqrt_one

theorem leaning_exists_isSlow : leaning.IsTyped 3 0.001 (-0.5) ∧
    (∀ id e, leaning.entities.get? id = some e → e.HasUnitDirection) ∧
    ∃ solution, leaning.solve = ⟨leaning, .ok solution⟩ ∧ leaning.IsSlow 3 (-0.5) solution :=
  ⟨isTyped_leaning, hasUnitDirection_leaning,
    isTyped_leaning.exists_isSlow hasUnitDirection_leaning⟩

end Sketch

end Drafting
