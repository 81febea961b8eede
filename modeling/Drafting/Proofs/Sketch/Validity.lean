import Drafting.Proofs.Sketch.History
import Drafting.Proofs.Validation

/-!
# Validity in use

What validation asks of entities is there to stay: solves and commits keep the frame of an entity,
and a move gives it a position at most. So once a sketch has passed validation it passes again after
whatever is done with it that adds nothing, and each of its solves measures every constraint in
full, at every step and with every nudge (`History.isSolid_run`).
-/

namespace Drafting

open Drafting.Gradient

variable {ν τ α : Type} [Name ν]

/-! ### Entities that have what others have -/

/-- An entity that has all that validation can find in another. -/
structure Entity.Covers (e' e : Entity ν τ) : Prop where
  kind : e'.kind = e.kind
  position : e.position.isSome = true → e'.position.isSome = true
  direction : e'.direction = e.direction
  radius : e'.radius = e.radius
  names : e'.parameters.keys = e.parameters.keys

namespace Entity

lemma Covers.refl (e : Entity ν τ) : e.Covers e := ⟨rfl, fun there => there, rfl, rfl, rfl⟩

lemma Covers.trans {e₁ e₂ e₃ : Entity ν τ} (h : e₁.Covers e₂) (h' : e₂.Covers e₃) :
    e₁.Covers e₃ where
  kind := h.kind.trans h'.kind
  position there := h.position (h'.position there)
  direction := h.direction.trans h'.direction
  radius := h.radius.trans h'.radius
  names := h.names.trans h'.names

lemma IsFramedBy.covers {e' e : Entity ν τ} (framed : e'.IsFramedBy e) : e'.Covers e where
  kind := framed.kind
  position there := framed.position.trans there
  direction := framed.direction
  radius := framed.radius
  names := framed.names

lemma covers_moveTo (e : Entity ν τ) (p : Vector3 τ) : (e.moveTo (some p)).Covers e :=
  ⟨rfl, fun _ => rfl, rfl, rfl, rfl⟩

variable {e' e : Entity ν τ} (covers : e'.Covers e)

include covers

lemma Covers.hasLength [LawfulName ν] (has : Validation.hasLength e = true) :
    Validation.hasLength e' = true := by
  rw [Validation.hasLength, Table.contains, Table.isSome_get?_iff] at has ⊢
  rwa [covers.names]

lemma Covers.properRadius? [Scalar τ] : e'.properRadius? = e.properRadius? := by
  rw [Entity.properRadius?, Entity.properRadius?, covers.radius]

end Entity

/-! ### Checks of fields -/

namespace Validation

open Entity

section

variable {xs ys : List (Entity ν τ)}

lemma requireEach_of_covers (covers : List.Forall₂ Covers ys xs) {test : Entity ν τ → Bool}
    (lasts : ∀ {e' e : Entity ν τ}, e'.Covers e → test e = true → test e' = true)
    {complaint : Entity ν τ → Complaint ν} (ok : requireEach xs test complaint = .ok ()) :
    requireEach ys test complaint = .ok () := by
  rw [requireEach_eq_ok] at ok ⊢
  intro e' there
  obtain ⟨e, before, covers⟩ := covers.flip.exists_of_mem_right there
  exact lasts covers (ok e before)

end

lemma exists_pair {R : Entity ν τ → Entity ν τ → Prop} {ys : List (Entity ν τ)} {a b : Entity ν τ}
    (all : List.Forall₂ R ys [a, b]) : ∃ a' b', R a' a ∧ R b' b ∧ ys = [a', b'] := by
  obtain ⟨a', _, first, others, rfl⟩ := List.forall₂_cons_right_iff.mp all
  obtain ⟨b', _, second, none, rfl⟩ := List.forall₂_cons_right_iff.mp others
  obtain rfl := List.forall₂_nil_right_iff.mp none
  exact ⟨a', b', first, second, rfl⟩

variable [Scalar τ]

section

variable {a' a b' b : Entity ν τ} (first : a'.Covers a) (second : b'.Covers b)

include first second

omit [Scalar τ] in
lemma checkDistance_of_covers (ok : checkDistance [a, b] = .ok ()) :
    checkDistance [a', b'] = .ok () := by
  simp only [checkDistance, Except.bind_unit_eq_ok, require_eq_ok, Bool.and_eq_true] at ok ⊢
  obtain ⟨kinds, ⟨position, position'⟩, direction⟩ := ok
  rw [first.kind, second.kind, second.direction]
  refine ⟨kinds, ⟨first.position position, second.position position'⟩, ?_⟩
  split
  · next line =>
    rw [if_pos line, require_eq_ok] at direction
    rwa [require_eq_ok]
  · rfl

lemma checkTangent_of_covers (ok : checkTangent [a, b] = .ok ()) :
    checkTangent [a', b'] = .ok () := by
  simp only [checkTangent, Except.bind_unit_eq_ok, require_eq_ok, Bool.and_eq_true] at ok ⊢
  obtain ⟨kinds, ⟨radius, centre⟩, anchor, direction⟩ := ok
  rw [first.kind, second.kind, first.properRadius?, second.direction]
  exact ⟨kinds, ⟨radius, first.position centre⟩, second.position anchor, direction⟩

lemma checkEqual_of_covers [LawfulName ν] (ok : checkEqual [a, b] = .ok ()) :
    checkEqual [a', b'] = .ok () := by
  rw [checkEqual, first.kind, second.kind]
  rw [checkEqual] at ok
  split
  · next lines =>
    rw [if_pos lines, require_eq_ok, Bool.and_eq_true] at ok
    rw [require_eq_ok, Bool.and_eq_true]
    exact ⟨first.hasLength ok.1, second.hasLength ok.2⟩
  · next curved =>
    rw [if_neg curved] at ok
    simpa only [Except.bind_unit_eq_ok, require_eq_ok, first.properRadius?,
      second.properRadius?] using ok

omit second in
lemma checkRadius_of_covers (ok : checkRadius [a] = .ok ()) : checkRadius [a'] = .ok () := by
  simpa only [checkRadius, require_eq_ok, first.kind, first.properRadius?] using ok

end

/-- Entities that have what others have pass wherever these pass. -/
lemma checkFields_of_covers [LawfulName ν] {c : Constraint ν α} {xs ys : List (Entity ν τ)}
    (measured : c.relation.isMeasured = true) (arity : c.relation.arity? = some xs.length)
    (covers : List.Forall₂ Covers ys xs) (ok : checkFields c xs = .ok ()) :
    checkFields c ys = .ok () := by
  have directed : requireEach xs (fun e => e.direction.isSome) (fun e => .noDirection e.id) =
      .ok () → requireEach ys (fun e => e.direction.isSome) (fun e => .noDirection e.id) = .ok () :=
    requireEach_of_covers covers fun covers there => covers.direction ▸ there
  obtain ⟨_, relation, _, value, _, _⟩ := c
  cases relation with
  | parallel | perpendicular | horizontal | vertical => exact directed ok
  | angle =>
    obtain ⟨target, ok⟩ := Except.bind_unit_eq_ok.mp ok
    exact Except.bind_unit_eq_ok.mpr ⟨target, directed ok⟩
  | coincident => exact requireEach_of_covers covers Covers.position ok
  | distance =>
    obtain ⟨a, b, rfl⟩ := List.length_eq_two.mp (Option.some.inj arity).symm
    obtain ⟨a', b', first, second, rfl⟩ := exists_pair covers
    obtain ⟨target, ok⟩ := Except.bind_unit_eq_ok.mp ok
    exact Except.bind_unit_eq_ok.mpr ⟨target, checkDistance_of_covers first second ok⟩
  | tangent =>
    obtain ⟨a, b, rfl⟩ := List.length_eq_two.mp (Option.some.inj arity).symm
    obtain ⟨a', b', first, second, rfl⟩ := exists_pair covers
    exact checkTangent_of_covers first second ok
  | radius =>
    obtain ⟨a, rfl⟩ := List.length_eq_one_iff.mp (Option.some.inj arity).symm
    obtain ⟨a', ys, first, others, rfl⟩ := List.forall₂_cons_right_iff.mp covers
    obtain rfl := List.forall₂_nil_right_iff.mp others
    obtain ⟨target, ok⟩ := Except.bind_unit_eq_ok.mp ok
    exact Except.bind_unit_eq_ok.mpr ⟨target, checkRadius_of_covers first ok⟩
  | equal =>
    obtain ⟨a, b, rfl⟩ := List.length_eq_two.mp (Option.some.inj arity).symm
    obtain ⟨a', b', first, second, rfl⟩ := exists_pair covers
    exact checkEqual_of_covers first second ok
  | concentric | symmetric | fixed | unknown => cases measured

end Validation

/-- A constraint that is measured in full on some entities is so on entities that have what these
have. -/
lemma Constraint.IsEvaluable.of_covers [LawfulName ν] [Scalar τ] [Scalar α] [Component τ α]
    {c : Constraint ν α} {entities entities' : Snapshot ν τ} (evaluable : c.IsEvaluable entities)
    (covers : ∀ id ∈ c.entities, ∀ e, entities id = some e →
      ∃ e', entities' id = some e' ∧ e'.Covers e) : c.IsEvaluable entities' := by
  obtain ⟨measured, arity, resolvable, fields⟩ := Validation.isEvaluable_iff.mp evaluable
  have found : ∀ id ∈ c.entities, ∃ e' e, entities' id = some e' ∧ entities id = some e ∧
      e'.Covers e := by
    intro id named
    obtain ⟨e, there⟩ := Option.isSome_iff_exists.mp (resolvable id named)
    obtain ⟨e', there', covers⟩ := covers id named e there
    exact ⟨e', e, there', there, covers⟩
  have resolved : List.Forall₂ Entity.Covers (c.resolve entities') (c.resolve entities) := by
    rw [Constraint.resolve, Constraint.resolve]
    generalize c.entities = ids at found
    induction ids with
    | nil => exact .nil
    | cons id rest ih =>
      obtain ⟨⟨e', e, there', there, covers⟩, others⟩ := List.forall_mem_cons.mp found
      rw [List.filterMap_cons_some there', List.filterMap_cons_some there]
      exact .cons covers (ih others)
  have count : (c.resolve entities).length = c.entities.length :=
    Validation.length_filterMap_of_isSome resolvable
  refine Validation.isEvaluable_iff.mpr ⟨measured, arity, fun id named => ?_,
    Validation.checkFields_of_covers measured (count ▸ arity) resolved fields⟩
  obtain ⟨e', -, there', -⟩ := found id named
  exact Option.isSome_iff_exists.mpr ⟨e', there'⟩

/-! ### Sketches that pass -/

namespace Sketch

variable {α : Type} [Scalar α] {s t : Sketch String α α} {E : Entity String α → Prop}
  {C : Constraint String α → Prop}

/-- What a sketch holds under its own ids passes if every constraint is measured in full. -/
lemma ConsistsOf.check_eq_ok (consists : s.ConsistsOf E C) :
    Validation.check s.entities.values s.constraints.values = .ok () ↔
      ∀ c ∈ s.constraints.values, c.IsEvaluable (snapshot s.entities) := by
  have entityIds : s.entities.values.map Entity.id = s.entities.keys := by
    rw [Table.values, List.map_map]
    exact List.map_congr_left fun entry there => (consists.entities entry there).1
  have constraintIds : s.constraints.values.map Constraint.id = s.constraints.keys := by
    rw [Table.values, List.map_map]
    exact List.map_congr_left fun entry there => (consists.constraints entry there).1
  have looked : Validation.find? s.entities.values = snapshot s.entities := by
    funext id
    rw [Validation.find?, Table.values, List.find?_map, snapshot, Table.get?]
    refine congrArg _ (List.find?_congr fun entry there => ?_)
    rw [Function.comp_apply, (consists.entities entry there).1]
  rw [Validation.check, Except.bind_unit_eq_ok, Validation.checkEntities_eq_ok,
    Validation.checkConstraints_eq_ok, entityIds, constraintIds]
  simp only [Table.nodup_keys, List.not_mem_nil, not_false_iff, implies_true, true_and,
    Validation.checkConstraint_eq_ok, looked]

/-- That an entity has what the one with its id in a sketch has. -/
def HasEntity (s : Sketch String α α) (e : Entity String α) : Prop :=
  ∃ e₀, s.entities.get? e.id = some e₀ ∧ e.Covers e₀

/-- That a constraint is one of a sketch, but for being active. -/
def HasConstraint (s : Sketch String α α) (c : Constraint String α) : Prop :=
  ∃ c₀ ∈ s.constraints.values, c = { c₀ with active := c.active }

lemma areLasting_has (s : Sketch String α α) : AreLasting s.HasEntity s.HasConstraint := by
  refine .of_framed ?framed ?moved ?switched
  case framed =>
    rintro e' e framed ⟨e₀, there, covers⟩
    exact ⟨e₀, framed.id ▸ there, framed.covers.trans covers⟩
  case moved =>
    rintro e p ⟨e₀, there, covers⟩
    exact ⟨e₀, there, (e.covers_moveTo p).trans covers⟩
  case switched =>
    rintro c b ⟨c₀, there, same⟩
    exact ⟨c₀, there, by rw [same]⟩

omit [Scalar α] in
lemma ConsistsOf.has (consists : s.ConsistsOf E C) : s.ConsistsOf s.HasEntity s.HasConstraint where
  entities entry there := by
    have own := (consists.entities entry there).1
    exact ⟨own, entry.2, own.symm ▸ Table.get?_of_mem there, .refl _⟩
  constraints entry there :=
    ⟨(consists.constraints entry there).1, entry.2, List.mem_map_of_mem there, rfl⟩

/-- Where a sketch holds what another does, and all that its constraints name, they are measured in
full if those of the other are. -/
lemma ConsistsOf.isEvaluable (consists : t.ConsistsOf s.HasEntity s.HasConstraint)
    (present : t.NamesPresent)
    (evaluable : ∀ c ∈ s.constraints.values, c.IsEvaluable (snapshot s.entities)) :
    ∀ c ∈ t.constraints.values, c.IsEvaluable (snapshot t.entities) := by
  intro c there
  obtain ⟨entry, member, rfl⟩ := List.mem_map.mp there
  obtain ⟨-, c₀, before, same⟩ := consists.constraints entry member
  have names : entry.2.entities = c₀.entities := by rw [same]
  have kept : c₀.IsEvaluable (snapshot t.entities) := by
    refine (evaluable c₀ before).of_covers fun id named e found => ?_
    have known := Table.isSome_get?_iff.mpr (present _ there id (names ▸ named))
    obtain ⟨e', found'⟩ := Option.isSome_iff_exists.mp known
    obtain ⟨own, e₀, found₀, covers⟩ := consists.entities _ (Table.mem_of_get? found')
    have id_eq : e'.id = id := own
    rw [id_eq] at found₀
    exact ⟨e', found', Option.some.inj (found₀.symm.trans found) ▸ covers⟩
  rw [same]
  exact ⟨kept.measured, kept.arity, kept.resolvable, kept.target, kept.feasible⟩

/-- A sketch that passes validation and whose solves take account of every active constraint and
measure it in full, at each step and with each nudge. -/
structure IsSolid (s : Sketch String α α) : Prop where
  valid : Validation.check s.entities.values s.constraints.values = .ok ()
  clean : ∀ solution, s.solve.result = .ok solution → solution.diagnostics.isClean = true
  measured : ∀ damping count, ∀ c ∈ s.plan,
    c.residual (snapshot (entitiesAfter damping s.plan s.entities count)) ≠ .infeasible
  tried : ∀ damping count, ∀ t ∈ survey s.plan (entitiesAfter damping s.plan s.entities count),
    t.residual ≠ .infeasible

variable [Scalar.IsPlain α]

lemma ConsistsOf.isSolid (consists : s.ConsistsOf E C)
    (evaluable : ∀ c ∈ s.constraints.values, c.IsEvaluable (snapshot s.entities)) : s.IsSolid := by
  have planned {c : Constraint String α} (there : c ∈ s.plan) (damping : α) (count : ℕ) :
      c.IsEvaluable (snapshot (entitiesAfter damping s.plan s.entities count)) := by
    refine (evaluable c (mem_plan.mp there).1).of_covers fun id _ e found => ?_
    obtain ⟨e', found', framed⟩ := exists_isFramedBy_entitiesAfter damping s.plan count found
    exact ⟨e', found', framed.covers⟩
  constructor
  case valid => exact consists.check_eq_ok.mpr evaluable
  case clean =>
    intro solution solved
    have present : s.NamesPresent := fun c there id named =>
      Table.isSome_get?_iff.mp ((evaluable c there).resolvable id named)
    have unsupported : s.plan.filter (fun c => !c.relation.isMeasured) = [] := by
      rw [List.filter_eq_nil_iff]
      intro c there
      rw [(evaluable c (mem_plan.mp there).1).measured]
      exact Bool.false_ne_true
    rw [diagnostics_of_solve solved, Diagnostics.isClean, present.skipped_eq_nil, diagnose,
      Gradient.diagnose, ← plan, unsupported]
    rfl
  case measured => exact fun damping count c there => (planned there damping count).feasible
  case tried =>
    intro damping count t made
    rw [survey_eq_flatMap, List.mem_flatMap] at made
    obtain ⟨c, there, made⟩ := made
    obtain ⟨base, -, id, -, e, found, freedom, -, made⟩ := mem_trialsOf.mp made
    rw [trial, found, Option.map_some, Option.some.injEq] at made
    rw [← made]
    refine ((planned there damping count).of_covers fun name _ e' found' => ?_).feasible
    rw [Snapshot.replace]
    split
    · next same =>
      have same : e' = e := Option.some.inj ((eq_of_beq same ▸ found').symm.trans found)
      exact ⟨_, rfl, same ▸ (e.isFramedBy_nudge freedom nudgeSize).covers⟩
    · exact ⟨e', found', .refl e'⟩

/-! ### Use -/

/-- That an operation adds nothing. -/
def Operation.IsUse (op : Operation α) : Prop := op.Adds (fun _ => False) fun _ => False

namespace History

omit [Scalar.IsPlain α] in
lemma permits_of_isUse {h : History α} {operations : List (Operation α)}
    (uses : ∀ op ∈ operations, op.IsUse) : h.Permits operations := by
  induction operations generalizing h with
  | nil => exact trivial
  | cons op rest ih =>
    obtain ⟨first, others⟩ := List.forall_mem_cons.mp uses
    exact ⟨first.mono (fun _ => False.elim) fun _ => False.elim, ih others⟩

/-- In whatever state a sketch passes validation, it passes after any use of it, and all of its
solves measure every constraint; they come to solutions, if the sketch is typed. -/
theorem isSolid_run {options : DescentOptions α} {before uses : List (Operation α)}
    (valid : Validation.check ((start options).run before).sketch.entities.values
      ((start options).run before).sketch.constraints.values = .ok ())
    (used : ∀ op ∈ uses, op.IsUse) :
    let s := ((start options).run before).sketch
    let t := ((History.mk s []).run uses).sketch
    t.IsSolid ∧ ∀ cap tolerance damping, s.IsTyped cap tolerance damping →
      ∃ solution, t.solve = ⟨t, .ok solution⟩ := by
  intro s t
  have own : s.ConsistsOf (fun _ => True) fun _ => True :=
    ((consistsOf_start options).run areLasting_anything fun op _ => adds_anything op).sketch
  have evaluable := own.check_eq_ok.mp valid
  have reached : t.ConsistsOf s.HasEntity s.HasConstraint := by
    have start : (History.mk s []).ConsistsOf s.HasEntity s.HasConstraint :=
      ⟨own.has, List.forall_mem_nil _⟩
    exact (start.run (areLasting_has s) fun op there =>
      (used op there).mono (fun _ => False.elim) fun _ => False.elim).sketch
  have present : t.NamesPresent := by
    refine namesPresent_run (h := ⟨s, []⟩) ⟨own, List.forall_mem_nil _⟩ (fun c there id named => ?_)
      (permits_of_isUse used)
    exact Table.isSome_get?_iff.mp ((evaluable c there).resolvable id named)
  refine ⟨reached.isSolid (reached.isEvaluable present evaluable),
    fun cap tolerance damping typed => ?_⟩
  have flags : (History.mk s []).ConsistsOf (fun _ => True) fun c => ∃ b, c.active = .flag b := by
    refine ⟨⟨own.entities, fun entry there => ?_⟩, List.forall_mem_nil _⟩
    exact ⟨typed.constraint_id entry there, typed.active _ (List.mem_map_of_mem there)⟩
  have typed' := isTyped_run (h := ⟨s, []⟩) typed flags fun op there =>
    (used op there).mono (fun _ => False.elim) fun _ => False.elim
  exact ⟨_, typed'.solve_eq⟩

theorem entering_isSolid_run :
    let options : DescentOptions ℝ := ⟨.int 7, .real 0.5, .real 1, .gradientDescent, .flag false⟩
    let before : List (Operation ℝ) := [.addEntity (pointAt "A" 0 0), .addEntity (pointAt "B" 1 0),
      .addConstraint (demanding "meet" .coincident ["A", "B"])]
    let uses : List (Operation ℝ) := [.solve, .moveEntity "A" (.list [.int 2, .int 3]),
      .setActive "level" (.flag false), .commit 0, .removeEntity "B", .solve, .commit 0, .commit 1]
    let s := ((start options).run before).sketch
    let t := ((History.mk s []).run uses).sketch
    Validation.check s.entities.values s.constraints.values = .ok () ∧ (∀ op ∈ uses, op.IsUse) ∧
      t.IsSolid ∧ ∃ solution, t.solve = ⟨t, .ok solution⟩ := by
  intro options before uses s t
  have valid : Validation.check s.entities.values s.constraints.values = .ok () := rfl
  have used : ∀ op ∈ uses, op.IsUse := by simp [uses, Operation.IsUse, Operation.Adds]
  obtain ⟨solid, solved⟩ := isSolid_run valid used
  refine ⟨valid, used, solid, solved 7 0.5 1 ⟨rfl, .real _, .real _, ⟨false, rfl⟩, ?_, ?_⟩⟩
  · exact List.forall_mem_singleton.mpr ⟨true, rfl⟩
  · exact List.forall_mem_singleton.mpr rfl

end History

end Sketch

end Drafting
