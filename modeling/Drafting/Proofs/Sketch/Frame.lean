import Drafting.Proofs.Doubles
import Drafting.Proofs.Sketch.Soundness

/-!
# What solving leaves alone

Solving a typed sketch, in doubles as well as in exact arithmetic, gives entities with the ids of
the sketch, in their order, and with the frames that they have there
(`Sketch.IsTyped.exists_isKeptBy`). An entity moves only if a constraint that names it is measured
on the way. With a damping that is not positive, a zero can lose its negative sign where nothing
else changes, since steps add zeros of both signs.
-/

namespace Drafting

open Drafting.Gradient

variable {α : Type} [Scalar α] [Scalar.IsPlain α]

namespace Sketch

/-- A constraint that is measured within a number of steps: it is active, the entities that it names
are there, it has a formula, and what it comes to is finite before one of the steps. -/
structure IsMeasuredWithin (s : Sketch String α α) (damping : α) (steps : ℕ)
    (c : Constraint String α) : Prop where
  there : c ∈ s.constraints.values
  active : c.isActive = true
  resolvable : ∀ id ∈ c.entities, s.entities.get? id ≠ none
  supported : c.relation.isMeasured = true
  finite : ∃ count < steps,
    (c.residual (snapshot (entitiesAfter damping s.plan s.entities count))).finite? ≠ none

/-- A solution that keeps of a sketch what a solve with a damping may not change. -/
structure IsKeptBy (s : Sketch String α α) (damping : α) (solution : Solution String α) : Prop where
  /-- The ids are those of the sketch, in their order. -/
  ids : solution.entities.keys = s.entities.keys
  /-- Of each entity only the position and the parameters change, in value. -/
  framed : ∀ id e, s.entities.get? id = some e →
    ∃ e', solution.entities.get? id = some e' ∧ e'.IsFramedBy e
  /-- An entity that no measured constraint names does not change. -/
  unmoved : ∀ id e, s.entities.get? id = some e →
    (∀ c, s.IsMeasuredWithin damping solution.iterations c → id ∉ c.entities) →
    ∃ e', solution.entities.get? id = some e' ∧ e'.IsLike e ∧ (0 < damping → e' = e)
  /-- Entities are built anew, in every trial and in every step, without an error. -/
  rebuilt : ∀ count < solution.iterations, ∀ id e,
    (entitiesAfter damping s.plan s.entities count).get? id = some e →
    (∀ t ∈ survey s.plan (entitiesAfter damping s.plan s.entities count), t.entity = id →
      e.rebuiltWith t.moved.position t.moved.parameters.entries = .ok t.moved) ∧
    ∃ e', (entitiesAfter damping s.plan s.entities (count + 1)).get? id = some e' ∧
      e.rebuiltWith e'.position e'.parameters.entries = .ok e'
  /-- The entities of the solution are those that its steps lead to. -/
  reached : solution.entities = entitiesAfter damping s.plan s.entities solution.iterations

variable {s : Sketch String α α} {cap : ℤ} {tolerance damping : α}

lemma isKeptBy_solve [Scalar.IsLevel α] (finite : Scalar.isFinite damping = true)
    (s : Sketch String α α) (cap : ℕ) (tolerance : α) :
    s.IsKeptBy damping (Gradient.solve ⟨cap, tolerance, damping⟩ s.entities s.constraints.values)
    where
  reached := solve_entities
  ids := by rw [solve_entities, keys_entitiesAfter]
  framed id e there := by
    rw [solve_entities]
    exact exists_isFramedBy_entitiesAfter _ _ _ there
  unmoved id e there unmeasured := by
    rw [solve_entities]
    refine exists_like_of_unmoved finite (fun k inside c planned supported named => ?_) there
    obtain ⟨there, active, resolvable⟩ := mem_plan.mp planned
    by_contra finite
    exact unmeasured c ⟨there, active, resolvable, supported, k, inside, finite⟩ named
  rebuilt count inside id e there := by
    constructor
    · rintro t made rfl
      obtain ⟨e', there', framed⟩ := exists_isFramedBy_moved made
      rw [there, Option.some.injEq] at there'
      exact (there' ▸ framed).rebuilt_eq_ok
    · rw [get?_entitiesAfter_succ, there]
      exact ⟨_, rfl, (isFramedBy_applySlopes ..).rebuilt_eq_ok⟩

/-- Solving a typed sketch with a finite damping leaves the sketch as it is and keeps the frames of
its entities, and all of those that nothing pulls at. -/
theorem IsTyped.exists_isKeptBy [Scalar.IsLevel α] (typed : s.IsTyped cap tolerance damping)
    (finite : Scalar.isFinite damping = true) :
    ∃ solution, s.solve = ⟨s, .ok solution⟩ ∧ s.IsKeptBy damping solution :=
  ⟨_, typed.solve_eq, isKeptBy_solve finite s cap.toNat tolerance⟩

/-- A sketch of doubles: two points that should coincide, and a line that should stay where it
is. -/
def joined : Sketch String Float Float where
  options := ⟨.int 9, .real 0.001, .real 0.8, .gradientDescent, .flag true⟩
  entities := .ofList [
    ("A", ⟨"A", .point, some ⟨0, 0, 0⟩, none, none, none, .empty, nofun⟩),
    ("B", ⟨"B", .point, some ⟨3, 1, 0⟩, none, none, none, .empty, nofun⟩),
    ("L", ⟨"L", .line, some ⟨0, -1, 0⟩, some ⟨1, 0, 0⟩, none, none, .ofList [("length", 2)],
      by decide⟩)]
  constraints := .ofList [
    ("meet", ⟨"meet", .coincident, ["A", "B"], none, .int 0, .flag true⟩),
    ("stay", ⟨"stay", .fixed, ["L"], none, .int 0, .flag true⟩)]

lemma isTyped_joined : joined.IsTyped 9 0.001 0.8 where
  cap := rfl
  tolerance := .real 0.001
  damping := .real 0.8
  verbose := ⟨true, rfl⟩
  active := by simp [joined, Table.values, Table.entries_ofList]
  constraint_id := by simp [joined, Table.entries_ofList]

theorem joined_exists_isKeptBy : joined.IsTyped 9 0.001 0.8 ∧
    Scalar.isFinite (0.8 : Float) = true ∧
    ∃ solution, joined.solve = ⟨joined, .ok solution⟩ ∧ joined.IsKeptBy 0.8 solution :=
  ⟨isTyped_joined, by decide +kernel, isTyped_joined.exists_isKeptBy (by decide +kernel)⟩

end Sketch

end Drafting
