import Drafting.Proofs.Gradient.Survey
import Drafting.Proofs.Meaning

/-!
# What a residual takes into account

A residual is made of the entities that its constraint names and that are there. It is the same for
all snapshots in which these are the same, whatever else they hold (`Constraint.residual_congr`). In
exact arithmetic it is never less than zero (`Measure.formula_nonneg`), it is zero where a relation
has no formula, and it is the same in either order of two entities whose order is of no account for
the relation (`Measure.formula_swap`). As entities that are not there are left out, two names can be
exchanged even where others that lead nowhere come before or between them
(`Constraint.residual_swap`).
-/

namespace Drafting

/-! ### Lookups -/

section

variable {β γ δ : Type}

/-- Two lookups can be made in either order, if it is of no account for what is made of them. -/
lemma Option.bind_swap {f : β → β → Option γ} (either : ∀ x y, f x y = f y x) (o o' : Option β) :
    (o.bind fun x => o'.bind fun y => f x y) = o'.bind fun x => o.bind fun y => f x y := by
  rw [Option.bind_comm]
  simp only [either]

/-- What is made of two lookups is made of what they have found. -/
lemma Option.exists_of_bind_bind {o : Option β} {o' : Option γ} {f : β → γ → δ} {x : δ}
    (found : (o.bind fun y => o'.bind fun z => some (f y z)) = some x) : ∃ y z, f y z = x := by
  obtain ⟨y, -, found⟩ := Option.bind_eq_some_iff.mp found
  obtain ⟨z, -, found⟩ := Option.bind_eq_some_iff.mp found
  exact ⟨y, z, Option.some.inj found⟩

end

lemma Vector3.dot_comm (u v : Vector3 ℝ) : u.dot v = v.dot u := by
  rw [← inner_toSpace, ← inner_toSpace, real_inner_comm]

lemma Vector3.distance_comm (p q : Vector3 ℝ) : p.distance q = q.distance p := by
  rw [distance_eq_dist, distance_eq_dist, dist_comm]

variable {ν : Type} [Name ν]

/-- That the order of two entities is of no account for a relation. For a distance they have to be
points. -/
inductive Relation.IsMutual {τ : Type} (a b : Entity ν τ) : Relation → Prop
  | coincident : IsMutual a b .coincident
  | parallel : IsMutual a b .parallel
  | perpendicular : IsMutual a b .perpendicular
  | angle : IsMutual a b .angle
  | equal : IsMutual a b .equal
  | distance : a.kind = .point → b.kind = .point → IsMutual a b .distance

/-! ### Formulas -/

namespace Measure

/-- Two entities whose order is of no account for a relation can be taken in either. -/
lemma formula_swap {relation : Relation} {a b : Entity ν ℝ} (either : relation.IsMutual a b)
    (target : ℝ) (rest rest' : List (Entity ν ℝ)) :
    formula relation target (a :: b :: rest) = formula relation target (b :: a :: rest') := by
  have apart (m n : ℝ) : some (Scalar.abs (m - n)) = some (Scalar.abs (n - m)) :=
    congrArg some (abs_sub_comm m n)
  cases either with
  | coincident =>
    exact Option.bind_swap (fun p q => congrArg some (p.distance_comm q)) a.position b.position
  | parallel | perpendicular | angle =>
    refine Option.bind_swap (fun u v => ?_) a.direction b.direction
    rw [u.dot_comm v]
  | distance first second =>
    simp only [formula, distance, first, second, and_self, if_true]
    refine Option.bind_swap (fun p q => ?_) a.position b.position
    rw [p.distance_comm q]
  | equal =>
    simp only [formula, equal]
    by_cases lines : a.kind = .line ∧ b.kind = .line
    · rw [if_pos lines, if_pos lines.symm]
      exact Option.bind_swap apart _ _
    · rw [if_neg lines, if_neg (mt And.symm lines)]
      by_cases round : a.kind.isRound = true ∧ b.kind.isRound = true
      · rw [if_pos round, if_pos round.symm]
        exact Option.bind_swap apart _ _
      · rw [if_neg round, if_neg (mt And.symm round)]

/-- A formula gives no number below zero. -/
lemma formula_nonneg {relation : Relation} {target x : ℝ} {entities : List (Entity ν ℝ)}
    (found : formula relation target entities = some x) : 0 ≤ x := by
  cases measured : relation.isMeasured with
  | false =>
    cases relation with
    | concentric | symmetric | fixed | unknown => exact (Option.some.inj found).le
    | _ => cases measured
  | true =>
    have pair := exists_pair measured found
    have single := exists_single measured found
    cases relation with
    | coincident =>
      obtain ⟨a, b, rest, rfl⟩ := pair rfl
      obtain ⟨p, q, rfl⟩ := Option.exists_of_bind_bind found
      exact Real.sqrt_nonneg _
    | parallel | perpendicular | angle =>
      obtain ⟨a, b, rest, rfl⟩ := pair rfl
      obtain ⟨u, v, rfl⟩ := Option.exists_of_bind_bind found
      exact abs_nonneg _
    | horizontal | vertical =>
      obtain ⟨a, rest, rfl⟩ := single
      obtain ⟨u, -, made⟩ := Option.bind_eq_some_iff.mp found
      cases made
      exact abs_nonneg _
    | radius =>
      obtain ⟨a, rest, rfl⟩ := single
      obtain ⟨-, found⟩ := Option.ite_none_right_eq_some.mp found
      obtain ⟨r, -, made⟩ := Option.bind_eq_some_iff.mp found
      cases made
      exact abs_nonneg _
    | tangent =>
      obtain ⟨a, b, rest, rfl⟩ := pair rfl
      obtain ⟨-, found⟩ := Option.ite_none_right_eq_some.mp found
      obtain ⟨r, -, found⟩ := Option.bind_eq_some_iff.mp found
      obtain ⟨centre, -, found⟩ := Option.bind_eq_some_iff.mp found
      obtain ⟨anchor, u, rfl⟩ := Option.exists_of_bind_bind found
      exact abs_nonneg _
    | distance =>
      obtain ⟨a, b, rest, rfl⟩ := pair rfl
      rw [formula, distance] at found
      split at found
      · obtain ⟨p, q, rfl⟩ := Option.exists_of_bind_bind found
        exact abs_nonneg _
      · obtain ⟨-, found⟩ := Option.ite_none_right_eq_some.mp found
        obtain ⟨p, -, found⟩ := Option.bind_eq_some_iff.mp found
        obtain ⟨anchor, u, rfl⟩ := Option.exists_of_bind_bind found
        exact abs_nonneg _
    | equal =>
      obtain ⟨a, b, rest, rfl⟩ := pair rfl
      rw [formula, equal] at found
      split at found
      · obtain ⟨m, n, rfl⟩ := Option.exists_of_bind_bind found
        exact abs_nonneg _
      · obtain ⟨-, found⟩ := Option.ite_none_right_eq_some.mp found
        obtain ⟨r, s, rfl⟩ := Option.exists_of_bind_bind found
        exact abs_nonneg _
    | concentric | symmetric | fixed | unknown => cases measured

end Measure

/-! ### Residuals -/

namespace Constraint

section

variable {τ α : Type} [Scalar τ] [Scalar α] [Component τ α]

/-- A residual is told by the entities that a constraint names and that are there. -/
lemma residual_congr_of_formula {c c' : Constraint ν α} {entities entities' : Snapshot ν τ}
    (same : Measure.formula c.relation (Component.ofReal c.target) (c.resolve entities) =
      Measure.formula c'.relation (Component.ofReal c'.target) (c'.resolve entities')) :
    c.residual entities = c'.residual entities' := by
  rw [residual, residual, same]

/-- Snapshots in which a constraint finds the same give the same residual. -/
lemma residual_congr {c : Constraint ν α} {entities entities' : Snapshot ν τ}
    (agree : ∀ id ∈ c.entities, entities id = entities' id) :
    c.residual entities = c.residual entities' := by
  have resolved : c.resolve entities = c.resolve entities' := List.filterMap_congr agree
  exact residual_congr_of_formula (by rw [resolved])

end

/-- The constraint with other names. -/
def withNames {α : Type} (c : Constraint ν α) (names : List ν) : Constraint ν α :=
  { c with entities := names }

/-- Names that lead nowhere are left out, and the others lead to entities in their order. -/
lemma filterMap_of_absent {τ : Type} {entities : Snapshot ν τ} {before between : List ν}
    (absent : ∀ id ∈ before ++ between, entities id = none) (i j : ν) (after : List ν) :
    (before ++ i :: (between ++ j :: after)).filterMap entities =
      (entities i).toList ++ ((entities j).toList ++ after.filterMap entities) := by
  obtain ⟨first, second⟩ := List.forall_mem_append.mp absent
  have single (id : ν) (names : List ν) :
      (id :: names).filterMap entities = (entities id).toList ++ names.filterMap entities := by
    rw [List.filterMap_cons]
    cases entities id <;> rfl
  rw [List.filterMap_append, List.filterMap_eq_nil_iff.mpr first, List.nil_append, single,
    List.filterMap_append, List.filterMap_eq_nil_iff.mpr second, List.nil_append, single]

/-- Two names can be exchanged, if the order of what they lead to is of no account. -/
lemma residual_swap {c : Constraint ν ℝ} {entities : Snapshot ν ℝ} {before between after : List ν}
    {i j : ν} (absent : ∀ id ∈ before ++ between, entities id = none)
    (either : ∀ a ∈ entities i, ∀ b ∈ entities j, c.relation.IsMutual a b) :
    (c.withNames (before ++ j :: (between ++ i :: after))).residual entities =
      (c.withNames (before ++ i :: (between ++ j :: after))).residual entities := by
  apply residual_congr_of_formula
  show Measure.formula c.relation _ ((before ++ j :: (between ++ i :: after)).filterMap entities) =
    Measure.formula c.relation _ ((before ++ i :: (between ++ j :: after)).filterMap entities)
  rw [filterMap_of_absent absent, filterMap_of_absent absent]
  -- with one of them missing there is no order to speak of
  cases first : entities i with
  | none => rfl
  | some a =>
    cases second : entities j with
    | none => rfl
    | some b => exact (Measure.formula_swap (either a first b second) _ _ _).symm

/-- That a residual is a fair measure of what is in a snapshot. -/
structure IsFairOn (c : Constraint ν ℝ) (entities : Snapshot ν ℝ) : Prop where
  /-- It is never less than zero. -/
  nonneg : 0 ≤ (c.residual entities).toExtended
  /-- It is zero where the relation cannot be measured. -/
  unmeasured : c.relation.isMeasured = false → c.residual entities = .measured 0
  /-- It stays the same when the names of two entities are exchanged whose order is of no account
  for the relation, and names between and before them that lead nowhere make no difference. -/
  swapped : ∀ before i between j after, c.entities = before ++ i :: (between ++ j :: after) →
    (∀ id ∈ before ++ between, entities id = none) →
    (∀ a ∈ entities i, ∀ b ∈ entities j, c.relation.IsMutual a b) →
    (c.withNames (before ++ j :: (between ++ i :: after))).residual entities = c.residual entities

/-- A residual takes nothing into account but the entities that its constraint names, whatever the
numbers are that it is measured in, and in exact arithmetic it is fair. -/
theorem residual_eq_and_isFairOn :
    (∀ {τ α : Type} [Scalar τ] [Scalar α] [Component τ α] (c : Constraint ν α)
      (entities entities' : Snapshot ν τ), (∀ id ∈ c.entities, entities id = entities' id) →
        c.residual entities = c.residual entities') ∧
    ∀ (c : Constraint ν ℝ) (entities : Snapshot ν ℝ), c.IsFairOn entities := by
  refine ⟨fun c entities entities' agree => residual_congr agree, fun c entities => ?_⟩
  constructor
  case nonneg =>
    cases residual : c.residual entities with
    | infeasible => exact le_top
    | measured x =>
      have found := residual_eq_measured_iff.mp residual
      exact WithTop.coe_nonneg.mpr (Measure.formula_nonneg found)
  case unmeasured => exact fun unmeasured => Gradient.residual_of_unmeasured unmeasured entities
  case swapped =>
    intro before i between j after named absent either
    have whole : c.withNames (before ++ i :: (between ++ j :: after)) = c := by
      rw [withNames, ← named]
    rw [residual_swap absent either, whole]

/-- Two points, and others as given. -/
noncomputable def pointsAnd (others : List (String × Entity String ℝ)) : Snapshot String ℝ :=
  (Table.ofList (("a", Entity.bare "a" .point (some ⟨0, 0, 0⟩) none none) ::
    ("b", Entity.bare "b" .point (some ⟨1, 1, 0⟩) none none) :: others)).get?

/-- That two points should be one apart, with a name before and one between them that lead
nowhere. -/
def spaced : Constraint String ℝ :=
  ⟨"apart", .distance, ["gone", "a", "lost", "b"], some 1, .int 0, .flag true⟩

/-- A third point changes nothing, nor does it matter in which order the two are named. -/
theorem spaced_residual_eq_and_isFairOn :
    (∀ id ∈ spaced.entities, pointsAnd [] id =
      pointsAnd [("c", Entity.bare "c" .point none none none)] id) ∧
    spaced.residual (pointsAnd []) =
      spaced.residual (pointsAnd [("c", Entity.bare "c" .point none none none)]) ∧
    (∀ id ∈ ["gone"] ++ ["lost"], pointsAnd [] id = none) ∧
    (∀ a ∈ pointsAnd [] "a", ∀ b ∈ pointsAnd [] "b", spaced.relation.IsMutual a b) ∧
    (spaced.withNames ["gone", "b", "lost", "a"]).residual (pointsAnd []) =
      spaced.residual (pointsAnd []) := by
  have agree : ∀ id ∈ spaced.entities, pointsAnd [] id =
      pointsAnd [("c", Entity.bare "c" .point none none none)] id := by
    simp only [spaced, List.forall_mem_cons]
    exact ⟨rfl, rfl, rfl, rfl, List.forall_mem_nil _⟩
  have absent : ∀ id ∈ ["gone"] ++ ["lost"], pointsAnd [] id = none :=
    List.forall_mem_cons.mpr ⟨rfl, List.forall_mem_singleton.mpr rfl⟩
  have either : ∀ a ∈ pointsAnd [] "a", ∀ b ∈ pointsAnd [] "b",
      spaced.relation.IsMutual a b := by
    intro a first b second
    cases first
    cases second
    exact .distance rfl rfl
  obtain ⟨isLocal, isFair⟩ := residual_eq_and_isFairOn (ν := String)
  exact ⟨agree, isLocal spaced _ _ agree, absent, either,
    (isFair spaced (pointsAnd [])).swapped ["gone"] "a" ["lost"] "b" [] rfl absent either⟩

end Constraint

end Drafting
