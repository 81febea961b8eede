import Drafting.Proofs.Table
import Drafting.Residual.Measure
import Drafting.Validation
import Mathlib.Data.List.Basic

/-!
# What validation accepts

Validation and measuring look at the same entities in two ways: a check of the fields that a
relation needs, and a formula that fails where one of them is missing. Both agree on every relation
and every list of entities of the right length (`checkFields_eq_ok`). With the bookkeeping of ids
around them, a sketch is accepted if and only if its ids are distinct and each of its constraints
can be measured in full (`check_eq_ok_iff`).
-/

namespace Drafting

/-- A constraint that is measured in full on a snapshot: its relation has a formula, it names as
many entities as the relation is between, all of them are there, a target is given where one is
driven for, and the measurement does not fail for want of data. -/
structure Constraint.IsEvaluable {ν τ α : Type} [Name ν] [Scalar α] [Scalar τ] [Component τ α]
    (c : Constraint ν α) (entities : Snapshot ν τ) : Prop where
  measured : c.relation.isMeasured = true
  arity : c.relation.arity? = some c.entities.length
  resolvable : ∀ id ∈ c.entities, (entities id).isSome = true
  target : c.relation = .distance ∨ c.relation = .angle ∨ c.relation = .radius →
    c.value.isSome = true
  feasible : c.residual entities ≠ .infeasible

/-- The snapshot of a list of entities, by id. -/
def byId {ν τ : Type} [Name ν] (entities : List (Entity ν τ)) : Snapshot ν τ :=
  (Table.ofList (entities.map fun e => (e.id, e))).get?

/-- A residual is infeasible if and only if the formula gives no number. -/
lemma Constraint.residual_eq_infeasible {ν τ α : Type} [Name ν] [Scalar α] [Scalar τ]
    [Component τ α] (c : Constraint ν α) (entities : Snapshot ν τ) :
    c.residual entities = .infeasible ↔
      Measure.formula c.relation (Component.ofReal c.target) (c.resolve entities) = none := by
  rw [Constraint.residual]
  cases Measure.formula c.relation (Component.ofReal c.target) (c.resolve entities) with
  | none => simp [Residual.ofOption]
  | some r => simp [Residual.ofOption]

namespace Validation

variable {ν τ α : Type}

lemma require_eq_ok {condition : Bool} {complaint : Complaint ν} :
    require condition complaint = .ok () ↔ condition = true := by
  cases condition <;> simp [require]

variable [Name ν]

lemma requireEach_eq_ok {entities : List (Entity ν τ)} {test : Entity ν τ → Bool}
    {complaint : Entity ν τ → Complaint ν} :
    requireEach entities test complaint = .ok () ↔ ∀ e ∈ entities, test e = true := by
  induction entities with
  | nil => simp [requireEach]
  | cons e rest ih =>
    rw [requireEach, Except.bind_unit_eq_ok, require_eq_ok, ih, List.forall_mem_cons]

/-! ### Ids -/

section

variable [LawfulName ν]

lemma requireUsable_eq_ok {names : List ν} : requireUsable names = .ok () := by
  have none_found : names.findSome? Name.obstacle? = none := by
    rw [List.findSome?_eq_none_iff]
    exact fun name _ => LawfulName.obstacle?_eq_none name
  rw [requireUsable, none_found]

/-- Entities pass after some ids if their own ids are distinct and none of them was seen. -/
lemma checkEntities_eq_ok {seen : List ν} {entities : List (Entity ν τ)} :
    checkEntities seen entities = .ok () ↔
      (entities.map Entity.id).Nodup ∧ ∀ e ∈ entities, e.id ∉ seen := by
  induction entities generalizing seen with
  | nil => simp [checkEntities]
  | cons e rest ih =>
    rw [checkEntities, Except.bind_unit_eq_ok, List.map_cons, List.nodup_cons, List.forall_mem_cons]
    by_cases there : e.id ∈ seen
    · simp [there]
    · have unseen : seen.any (· == e.id) = false := by rw [List.any_beq']; simpa using there
      simp only [requireUsable_eq_ok, unseen, Bool.false_eq_true, if_false, true_and, ih,
        List.mem_cons, not_or, List.mem_map, not_exists, not_and]
      grind

/-- Where ids are distinct, looking an entity up in a list is looking it up in the table by id. -/
lemma find?_eq_byId {entities : List (Entity ν τ)} (distinct : (entities.map Entity.id).Nodup) :
    find? entities = byId entities := by
  funext id
  have entries : (Table.ofList (entities.map fun e => (e.id, e))).entries =
      entities.map fun e => (e.id, e) := by
    apply Table.entries_ofList
    rwa [List.map_map]
  rw [byId, Table.get?, entries, List.find?_map, Option.map_map, find?]
  exact Option.map_id'.symm

end

variable [Scalar τ]

/-! ### Checks of fields and formulas -/

/-- Relations between directions need nothing but directions. -/
lemma formula_isSome_of_needsDirections {relation : Relation} (target : τ)
    {entities : List (Entity ν τ)} (directed : needsDirections relation = true)
    (arity : relation.arity? = some entities.length) :
    (Measure.formula relation target entities).isSome = true ↔
      ∀ e ∈ entities, e.direction.isSome = true := by
  cases relation with
  | parallel | perpendicular | angle =>
    obtain ⟨a, b, rfl⟩ := List.length_eq_two.mp (Option.some.inj arity).symm
    cases ha : a.direction <;> cases hb : b.direction <;>
      simp [Measure.formula, Measure.parallel, Measure.perpendicular, Measure.angle, ha, hb]
  | horizontal | vertical =>
    obtain ⟨a, rfl⟩ := List.length_eq_one_iff.mp (Option.some.inj arity).symm
    cases ha : a.direction <;> simp [Measure.formula, Measure.horizontal, Measure.vertical, ha]
  | _ => simp [needsDirections] at directed

section

variable (target : τ) (a b : Entity ν τ)

lemma checkCoincident_eq_ok :
    requireEach [a, b] (fun e => e.position.isSome) (fun e => .noPosition e.id) = .ok () ↔
      (Measure.coincident [a, b]).isSome = true := by
  rw [requireEach_eq_ok]
  cases ha : a.position <;> cases hb : b.position <;> simp [Measure.coincident, ha, hb]

lemma checkTangent_eq_ok :
    checkTangent [a, b] = .ok () ↔ (Measure.tangent [a, b]).isSome = true := by
  by_cases kinds : a.kind = .circle ∧ b.kind = .line
  · cases hr : a.properRadius? <;> cases hp : a.position <;> cases hq : b.position <;>
      cases hd : b.direction <;>
      simp [checkTangent, Measure.tangent, Except.bind_unit_eq_ok, require_eq_ok, kinds, hr, hp, hq,
        hd]
  · simp [checkTangent, Measure.tangent, Except.bind_unit_eq_ok, require_eq_ok, kinds]

lemma checkDistance_eq_ok :
    checkDistance [a, b] = .ok () ↔ (Measure.distance target [a, b]).isSome = true := by
  cases hp : a.position <;> cases hq : b.position <;> cases hd : b.direction <;>
    cases ha : a.kind <;> cases hb : b.kind <;>
    simp [checkDistance, Measure.distance, Except.bind_unit_eq_ok, require_eq_ok, hp, hq, hd, ha,
      hb]

lemma checkRadius_eq_ok :
    checkRadius [a] = .ok () ↔ (Measure.radius target [a]).isSome = true := by
  cases hk : a.kind.isRound <;> cases hr : a.properRadius? <;>
    simp [checkRadius, Measure.radius, require_eq_ok, hk, hr]

lemma checkEqual_eq_ok :
    checkEqual [a, b] = .ok () ↔ (Measure.equal [a, b]).isSome = true := by
  by_cases lines : a.kind = .line ∧ b.kind = .line
  · cases hm : a.parameters.get? (Name.ofText "length") <;>
      cases hn : b.parameters.get? (Name.ofText "length") <;>
      simp [checkEqual, Measure.equal, require_eq_ok, hasLength, Table.contains, lines, hm, hn]
  · cases ha : a.kind.isRound <;> cases hb : b.kind.isRound <;> cases hr : a.properRadius? <;>
      cases hs : b.properRadius? <;>
      simp [checkEqual, Measure.equal, Except.bind_unit_eq_ok, require_eq_ok, lines, ha, hb, hr, hs]

end

/-- The fields of the right number of entities pass if and only if a needed target is given and the
formula of the relation gives a number. -/
lemma checkFields_eq_ok (c : Constraint ν α) (target : τ) {entities : List (Entity ν τ)}
    (measured : c.relation.isMeasured = true) (arity : c.relation.arity? = some entities.length) :
    checkFields c entities = .ok () ↔
      (needsTarget c.relation = true → c.value.isSome = true) ∧
        (Measure.formula c.relation target entities).isSome = true := by
  obtain ⟨_, relation, _, value, _, _⟩ := c
  cases relation with
  | coincident =>
    obtain ⟨a, b, rfl⟩ := List.length_eq_two.mp (Option.some.inj arity).symm
    simpa [checkFields, needsTarget, needsDirections, Measure.formula] using
      checkCoincident_eq_ok a b
  | tangent =>
    obtain ⟨a, b, rfl⟩ := List.length_eq_two.mp (Option.some.inj arity).symm
    simpa [checkFields, needsTarget, needsDirections, Measure.formula] using checkTangent_eq_ok a b
  | equal =>
    obtain ⟨a, b, rfl⟩ := List.length_eq_two.mp (Option.some.inj arity).symm
    simpa [checkFields, needsTarget, needsDirections, Measure.formula] using checkEqual_eq_ok a b
  | distance =>
    obtain ⟨a, b, rfl⟩ := List.length_eq_two.mp (Option.some.inj arity).symm
    simp only [checkFields, needsTarget, needsDirections, if_true, Bool.false_eq_true, if_false,
      Except.bind_unit_eq_ok, require_eq_ok, checkDistance_eq_ok target, forall_const]
    rfl
  | radius =>
    obtain ⟨a, rfl⟩ := List.length_eq_one_iff.mp (Option.some.inj arity).symm
    simp only [checkFields, needsTarget, needsDirections, if_true, Bool.false_eq_true, if_false,
      Except.bind_unit_eq_ok, require_eq_ok, checkRadius_eq_ok target, forall_const]
    rfl
  | angle =>
    rw [formula_isSome_of_needsDirections target rfl arity]
    simp only [checkFields, needsTarget, needsDirections, if_true, Except.bind_unit_eq_ok,
      require_eq_ok, requireEach_eq_ok, forall_const]
  | parallel | perpendicular | horizontal | vertical =>
    rw [formula_isSome_of_needsDirections target rfl arity]
    simp [checkFields, needsTarget, needsDirections, requireEach_eq_ok]
  | concentric | symmetric | fixed | unknown => simp [Relation.isMeasured] at measured

/-! ### Checks of constraints -/

/-- A relation with a formula is between a definite number of entities. -/
lemma arity?_of_isMeasured {relation : Relation} (measured : relation.isMeasured = true) :
    relation.arity? = some (relation.arity?.getD 0) := by
  cases relation <;> first | rfl | simp [Relation.isMeasured] at measured

/-- Where every name is found, as many entities are found as there are names. -/
lemma length_filterMap_of_isSome {κ β : Type} {f : κ → Option β} {names : List κ}
    (found : ∀ name ∈ names, (f name).isSome = true) :
    (names.filterMap f).length = names.length := by
  induction names with
  | nil => rfl
  | cons name rest ih =>
    obtain ⟨there, others⟩ := List.forall_mem_cons.mp found
    obtain ⟨x, hx⟩ := Option.isSome_iff_exists.mp there
    rw [List.filterMap_cons_some hx, List.length_cons, List.length_cons, ih others]

/-- The checks that a constraint has to pass, one after the other. -/
lemma checkConstraint_eq_ok_iff_tests (entities : List (Entity ν τ)) (c : Constraint ν α) :
    checkConstraint entities c = .ok () ↔
      c.relation ≠ .unknown ∧ c.relation.isMeasured = true ∧
        c.entities.length = c.relation.arity?.getD 0 ∧
        (∀ id ∈ c.entities, (find? entities id).isSome = true) ∧
        checkFields c (c.entities.filterMap (find? entities)) = .ok () := by
  simp only [checkConstraint, Except.bind_unit_eq_ok, require_eq_ok, bne_iff_ne, beq_iff_eq,
    List.isEmpty_iff, List.filter_eq_nil_iff, Option.isNone_iff_eq_none,
    ← Option.ne_none_iff_isSome]

section

variable [Scalar α] [Component τ α]

/-- A constraint is measured in full if and only if the fields of the entities that it names
pass. -/
lemma isEvaluable_iff {c : Constraint ν α} {entities : Snapshot ν τ} :
    c.IsEvaluable entities ↔ c.relation.isMeasured = true ∧
      c.relation.arity? = some c.entities.length ∧
      (∀ id ∈ c.entities, (entities id).isSome = true) ∧
      checkFields c (c.resolve entities) = .ok () := by
  constructor
  · intro evaluable
    refine ⟨evaluable.measured, evaluable.arity, evaluable.resolvable, ?_⟩
    have found := length_filterMap_of_isSome evaluable.resolvable
    refine (checkFields_eq_ok c (Component.ofReal c.target) evaluable.measured
      (found ▸ evaluable.arity)).mpr ⟨fun needed => ?_, ?_⟩
    · apply evaluable.target
      cases h : c.relation <;> simp [h, needsTarget] at needed ⊢
    · have feasible := evaluable.feasible
      rw [ne_eq, Constraint.residual_eq_infeasible] at feasible
      exact Option.ne_none_iff_isSome.mp feasible
  · rintro ⟨measured, arity, resolvable, fields⟩
    have found := length_filterMap_of_isSome resolvable
    obtain ⟨target, formula⟩ :=
      (checkFields_eq_ok c (Component.ofReal c.target) measured (found ▸ arity)).mp fields
    refine ⟨measured, arity, resolvable, ?_, ?_⟩
    · rintro (h | h | h) <;> exact target (by rw [h]; rfl)
    · rw [ne_eq, Constraint.residual_eq_infeasible]
      exact Option.ne_none_iff_isSome.mpr formula

/-- A constraint passes if and only if it is measured in full on the entities. -/
lemma checkConstraint_eq_ok (entities : List (Entity ν τ)) (c : Constraint ν α) :
    checkConstraint entities c = .ok () ↔ c.IsEvaluable (find? entities) := by
  rw [checkConstraint_eq_ok_iff_tests, isEvaluable_iff]
  constructor
  · rintro ⟨-, measured, count, resolvable, fields⟩
    exact ⟨measured, count ▸ arity?_of_isMeasured measured, resolvable, fields⟩
  · rintro ⟨measured, arity, resolvable, fields⟩
    refine ⟨?_, measured, by rw [arity]; rfl, resolvable, fields⟩
    intro unknown
    rw [unknown] at measured
    cases measured

end

/-! ### Whole sketches -/

/-- Constraints pass after some ids if their own ids are distinct, none of them was seen, and each
of them passes. -/
lemma checkConstraints_eq_ok [LawfulName ν] {entities : List (Entity ν τ)} {seen : List ν}
    {constraints : List (Constraint ν α)} :
    checkConstraints entities seen constraints = .ok () ↔
      (constraints.map Constraint.id).Nodup ∧ (∀ c ∈ constraints, c.id ∉ seen) ∧
        ∀ c ∈ constraints, checkConstraint entities c = .ok () := by
  induction constraints generalizing seen with
  | nil => simp [checkConstraints]
  | cons c rest ih =>
    rw [checkConstraints, Except.bind_unit_eq_ok, List.map_cons, List.nodup_cons,
      List.forall_mem_cons, List.forall_mem_cons]
    by_cases there : c.id ∈ seen
    · simp [there]
    · have unseen : seen.any (· == c.id) = false := by rw [List.any_beq']; simpa using there
      simp only [requireUsable_eq_ok, unseen, Bool.false_eq_true, if_false, true_and]
      cases checkConstraint entities c with
      | error complaint =>
        simp [throw, throwThe, MonadExceptOf.throw, bind, Except.bind]
      | ok _ =>
        simp only [bind, Except.bind, ite_self, ih, List.mem_cons, not_or, List.mem_map,
          not_exists, not_and]
        grind

variable [Scalar α] [Component τ α]

/-- Validation accepts a sketch if and only if the ids of its entities are distinct, those of its
constraints are, and each constraint, active or not, is measured in full on the entities by id. -/
theorem check_eq_ok_iff (entities : List (Entity String τ))
    (constraints : List (Constraint String α)) :
    check entities constraints = .ok () ↔
      (entities.map Entity.id).Nodup ∧ (constraints.map Constraint.id).Nodup ∧
        ∀ c ∈ constraints, c.IsEvaluable (byId entities) := by
  rw [check, Except.bind_unit_eq_ok, checkEntities_eq_ok, checkConstraints_eq_ok]
  simp only [List.not_mem_nil, not_false_iff, implies_true, and_true, true_and,
    checkConstraint_eq_ok]
  constructor
  · rintro ⟨entityIds, constraintIds, evaluable⟩
    rw [find?_eq_byId entityIds] at evaluable
    exact ⟨entityIds, constraintIds, evaluable⟩
  · rintro ⟨entityIds, constraintIds, evaluable⟩
    rw [find?_eq_byId entityIds]
    exact ⟨entityIds, constraintIds, evaluable⟩

end Validation

end Drafting
