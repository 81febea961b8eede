import Drafting.Proofs.Gradient.Guarded
import Drafting.Proofs.Sketch.Reachable
import Drafting.Proofs.Sketch.Soundness

/-!
# Solving without a fault

Solving a sketch whose options and constraints are typed always comes to a solution, whatever its
entities are: fields may be absent, numbers infinite or undefined, kinds and numbers of entities
other than a relation asks for, and ids may be repeated or stand for nothing
(`Sketch.exists_isSafeWith`). At no iteration is there anything that could fail: each id that is
looked up is found, each entity that is built anew passes the checks, and each root and each arc
cosine is taken within its domain.
-/

namespace Drafting

open Drafting.Gradient

variable {α : Type} [Scalar α]

/-- Options of the types that they are declared with, where a mark or an integer may stand for a
real. -/
structure DescentOptions.IsTyped (options : DescentOptions α) : Prop where
  cap : ∃ n, options.maxIterations = .int n
  tolerance : ∃ x, options.tolerance.CountsAs x
  damping : ∃ x, options.damping.CountsAs x
  verbose : ∃ b, options.verbose = .flag b

namespace Gradient

/-- That an iteration from given entities does nothing that could fail. -/
structure IsSafeAt (damping : α) (plan : List (Constraint String α))
    (entities : Table String (Entity String α)) : Prop where
  /-- Every id that a planned constraint names is found. -/
  found : ∀ c ∈ plan, ∀ id ∈ c.entities, ∃ e, entities.get? id = some e
  /-- Every constraint is measured within the domains of roots and arc cosines. -/
  measured : ∀ c ∈ plan,
    c.residual (snapshot entities).guarded = (c.residual (snapshot entities)).guarded
  /-- So is it in every trial, for which an entity is found and built anew without an error. -/
  tried : ∀ c ∈ plan, ∀ t ∈ trialsOf entities c, ∃ e, entities.get? t.entity = some e ∧
    e.rebuiltWith t.moved.position t.moved.parameters.entries = .ok t.moved ∧
    c.residual ((snapshot entities).replace t.entity t.moved).guarded = t.residual.guarded
  /-- The step builds every entity anew without an error. -/
  moved : ∀ id e, entities.get? id = some e → ∃ e',
    (descend damping plan entities).get? id = some e' ∧
    e.rebuiltWith e'.position e'.parameters.entries = .ok e'
  /-- The root of the mean square is taken within its domain. -/
  averaged : totalResidual plan (guarded entities) = (totalResidual plan entities).guarded

variable [Scalar.IsPlain α] [Scalar.HasDomains α]

/-- An iteration is safe as long as the entities that the plan names are there. -/
lemma isSafeAt_of_found {plan : List (Constraint String α)}
    {entities : Table String (Entity String α)} (damping : α)
    (found : ∀ c ∈ plan, ∀ id ∈ c.entities, ∃ e, entities.get? id = some e) :
    IsSafeAt damping plan entities where
  found := found
  measured c _ := c.residual_guarded (snapshot entities)
  tried c _ t made := by
    obtain ⟨base, -, id, -, e, there, freedom, -, made⟩ := mem_trialsOf.mp made
    rw [trial, there, Option.map_some, Option.some.injEq] at made
    rw [← made]
    exact ⟨e, there, (e.isFramedBy_nudge freedom nudgeSize).rebuilt_eq_ok, c.residual_guarded _⟩
  moved id e there := by
    rw [descend_eq_mapValues, Table.get?_mapValues, there]
    exact ⟨_, rfl, (isFramedBy_applySlopes ..).rebuilt_eq_ok⟩
  averaged := totalResidual_guarded plan entities

end Gradient

namespace Sketch

/-- That the descent for a sketch does nothing that could fail, however many steps it makes. -/
structure IsSafeWith (s : Sketch String α α) (settings : Settings α) : Prop where
  /-- It copies the entities that it starts from without an error. -/
  copied : ∀ id e, s.entities.get? id = some e →
    e.rebuiltWith e.position e.parameters.entries = .ok e
  /-- No iteration fails, whichever the descent gets to. -/
  iterations : ∀ count, IsSafeAt settings.damping s.plan
    (entitiesAfter settings.damping s.plan s.entities count)
  /-- The descent comes to the same where leaving a domain would show. -/
  guarded : Gradient.solve settings.guarded (guarded s.entities) s.constraints.values =
    (Gradient.solve settings s.entities s.constraints.values).guarded

variable [Scalar.IsPlain α] [Scalar.HasDomains α]

lemma isSafeWith (s : Sketch String α α) (settings : Settings α) : s.IsSafeWith settings where
  copied _ e _ := (Entity.IsFramedBy.refl e).rebuilt_eq_ok
  guarded := solve_guarded settings s.entities s.constraints.values
  iterations count := by
    refine isSafeAt_of_found _ fun c planned id named => ?_
    have there := Option.isSome_iff_ne_none.mpr ((mem_plan.mp planned).2.2 id named)
    -- no step takes an id away
    rw [Table.isSome_get?_iff, ← keys_entitiesAfter settings.damping s.plan s.entities count,
      ← Table.isSome_get?_iff] at there
    exact Option.isSome_iff_exists.mp there

omit [Scalar.IsPlain α] [Scalar.HasDomains α] in
lemma isSolvable_of_isTyped {s : Sketch String α α} (options : s.options.IsTyped)
    (active : ∀ c ∈ s.constraints.values, ∃ b, c.active = .flag b) : s.IsSolvable where
  cap := by
    obtain ⟨n, cap⟩ := options.cap
    exact ⟨_, by rw [cap]; rfl⟩
  bound := by
    obtain ⟨x, counts⟩ := options.tolerance
    exact counts.exists_bound
  tolerance := by
    obtain ⟨x, counts⟩ := options.tolerance
    exact ⟨x, counts.factor_eq_ok⟩
  damping := by
    obtain ⟨x, counts⟩ := options.damping
    exact ⟨x, counts.factor_eq_ok⟩
  verbose := by
    obtain ⟨b, verbose⟩ := options.verbose
    exact ⟨b, by rw [verbose]; rfl⟩
  active := active
  named c _ := Name.requireAll_eq_ok c.entities

/-- Solving a sketch never fails if its options are typed and its constraints active or not, as
those of all sketches are that operations lead to (`Reachable.isStored`). It leaves the sketch as it
is and comes to the solution of a descent that does nothing that could fail. -/
theorem exists_isSafeWith {s : Sketch String α α} (options : s.options.IsTyped)
    (active : ∀ c ∈ s.constraints.values, ∃ b, c.active = .flag b) :
    ∃ settings, s.solve = ⟨s, .ok (Gradient.solve settings s.entities s.constraints.values)⟩ ∧
      s.IsSafeWith settings := by
  obtain ⟨solution, solved⟩ := (isSolvable_of_isTyped options active).exists_solve
  obtain ⟨settings, -, rfl⟩ := exists_eq_solve solved
  refine ⟨settings, ?_, s.isSafeWith settings⟩
  have left : s.solve.sketch = s := s.worn_eq_self
  calc s.solve = ⟨s.solve.sketch, s.solve.result⟩ := rfl
    _ = ⟨s, .ok (Gradient.solve settings s.entities s.constraints.values)⟩ := by rw [left, solved]

/-- A sketch of doubles with undefined and infinite components, a direction that has no unit length,
a negative radius, and constraints that name entities of other kinds than they are between, one
entity twice, or one that is not there. -/
def spoilt : Sketch String Float Float where
  options := ⟨.int 3, .real 0.001, .real 1, .gradientDescent, .flag false⟩
  entities := .ofList [
    ("A", ⟨"A", .arc, some ⟨0.0 / 0.0, 1, 0⟩, none, none, none, .empty, nofun⟩),
    ("L", ⟨"L", .line, some ⟨1, 1, 0⟩, some ⟨2, 1.0 / 0.0, 0⟩, none, none, .empty, nofun⟩),
    ("C", ⟨"C", .circle, none, none, some (-1), none, .empty, nofun⟩)]
  constraints := .ofList [
    ("off", ⟨"off", .distance, ["A", "L"], none, .int 0, .flag true⟩),
    ("turn", ⟨"turn", .angle, ["L", "L"], some 1, .int 0, .flag true⟩),
    ("touch", ⟨"touch", .tangent, ["L", "C", "A"], none, .int 0, .flag true⟩),
    ("odd", ⟨"odd", .unknown, ["A", "Z"], none, .int 0, .flag true⟩)]

theorem spoilt_exists_isSafeWith : spoilt.options.IsTyped ∧
    (∀ c ∈ spoilt.constraints.values, ∃ b, c.active = .flag b) ∧
    ∃ settings, spoilt.solve =
      ⟨spoilt, .ok (Gradient.solve settings spoilt.entities spoilt.constraints.values)⟩ ∧
      spoilt.IsSafeWith settings := by
  have options : spoilt.options.IsTyped :=
    ⟨⟨3, rfl⟩, ⟨0.001, .real _⟩, ⟨1, .real _⟩, ⟨false, rfl⟩⟩
  have active : ∀ c ∈ spoilt.constraints.values, ∃ b, c.active = .flag b := by
    simp [spoilt, Table.values, Table.entries_ofList]
  exact ⟨options, active, exists_isSafeWith options active⟩

end Sketch

end Drafting
