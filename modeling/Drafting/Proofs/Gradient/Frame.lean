import Drafting.Proofs.Entity
import Drafting.Proofs.Gradient.Run
import Drafting.Proofs.Gradient.Survey

/-!
# What a descent leaves alone

A step changes the freedoms of entities and nothing else: the ids stay as they are and in their
order (`keys_entitiesAfter`), and so does the frame of each entity (`isFramedBy_applySlopes`). An
entity that only constraints without a number name stays altogether as it is (`isLike_applySlopes`,
`applySlopes_eq_self`). What each step keeps of an entity is kept by any number of steps
(`exists_get?_entitiesAfter`).
-/

namespace Drafting

/-! ### Steps against no slope -/

/-- Scalars that stay where they are in a step against no slope, but for the sign of a zero; in a
step with a positive damping they keep this as well. -/
class Scalar.IsLevel (α : Type) [Scalar α] : Prop where
  slope_eq_zero : ((0 : α) - 0) / Gradient.nudgeSize = 0
  zero_add_zero : (0 : α) + 0 = 0
  add_zero_same (a : α) : Same (a + 0) a
  add_level_same (a damping : α) : isFinite damping = true →
    Same (a + -0 * (damping * Gradient.stepScale)) a
  add_level_eq (a damping : α) : isFinite damping = true → 0 < damping →
    a + -0 * (damping * Gradient.stepScale) = a

instance : Scalar.IsLevel ℝ where
  slope_eq_zero := by simp
  zero_add_zero := by simp
  add_zero_same a := .inl (add_zero a)
  add_level_same a damping _ := .inl (by simp)
  add_level_eq a damping _ _ := by simp

variable {ν τ α : Type} [Name ν]

namespace Gradient

section

variable {σ : Type} [Scalar α] [LawfulName ν] {entities : Table ν (Entity ν τ)}
  {entities' : Table ν (Entity ν σ)} (same : entities.keys.Perm entities'.keys)

include same

omit [Scalar α] in
/-- Whether the entities that a constraint names are there depends on the ids of the entities only,
in any order. -/
lemma isResolvable_congr (c : Constraint ν α) :
    c.isResolvable (snapshot entities) = c.isResolvable (snapshot entities') := by
  have present (id : ν) : (entities.get? id).isSome = (entities'.get? id).isSome := by
    rw [Bool.eq_iff_iff, Table.isSome_get?_iff, Table.isSome_get?_iff, same.mem_iff]
  simp only [Constraint.isResolvable, snapshot, present]

/-- So does what is planned. -/
lemma plan_congr (constraints : List (Constraint ν α)) :
    plan entities constraints = plan entities' constraints := by
  simp only [plan, isResolvable_congr same]

/-- So does what is not taken into account. -/
lemma diagnose_congr (constraints : List (Constraint ν α)) :
    diagnose entities constraints = diagnose entities' constraints := by
  simp only [diagnose, unresolved, plan_congr same, isResolvable_congr same]

end

/-! ### Steps of an entity -/

section

variable [Scalar τ]

/-- A step keeps the id, whatever the parameters are called. -/
lemma id_applySlopes (damping : τ) (e : Entity ν τ) (own : List (Slope ν τ)) :
    (applySlopes damping e own).id = e.id := by
  have worded (e : Entity ν τ) (name : ν) : (applyWordless damping own e name).id = e.id := by
    rw [applyWordless]
    split
    · rw [Entity.setParameter]
      split <;> rfl
    · rfl
  have all (names : List ν) (e : Entity ν τ) :
      (names.foldl (applyWordless damping own) e).id = e.id := by
    induction names generalizing e with
    | nil => rfl
    | cons name rest ih => exact (ih _).trans (worded e name)
  rw [applySlopes]
  split
  · rfl
  · exact all _ _

/-- A step adds to each component of the position, and to each parameter with slopes along it. -/
lemma applySlopes_eq (damping : τ) (e : Entity String τ) {own : List (Slope String τ)}
    (pulled : own ≠ []) :
    applySlopes damping e own =
      (e.moveTo (e.position.map fun p => p.add
        ⟨(change? damping own (.position .x)).getD 0, (change? damping own (.position .y)).getD 0,
          (change? damping own (.position .z)).getD 0⟩)).mapParameters fun name v =>
        ((change? damping own (.parameter name)).map (v + ·)).getD v := by
  have texts : wordless e = [] := by simp [wordless, Name.text?]
  rw [applySlopes, List.isEmpty_eq_false_iff.mpr pulled, texts, List.foldl_nil]
  refine congrArg (Entity.mapParameters _) ?_
  funext name v
  cases change : change? damping own (.parameter name) with
  | none => simp only [Name.text?, Option.map_none, Option.getD_none]
  | some delta => simp only [Name.text?, Option.map_some, Option.getD_some]

/-- A step of an entity keeps the frame. -/
lemma isFramedBy_applySlopes (damping : τ) (e : Entity String τ) (own : List (Slope String τ)) :
    (applySlopes damping e own).IsFramedBy e := by
  by_cases pulled : own = []
  · rw [pulled]
    exact .refl e
  · rw [applySlopes_eq damping e pulled]
    exact (Entity.isFramedBy_mapParameters _ _).trans (Entity.isFramedBy_moveTo e _)

variable [Scalar.IsLevel τ]

lemma sum_of_level {xs : List τ} (level : ∀ x ∈ xs, x = 0) : Scalar.sum xs = 0 := by
  have fold : ∀ ys : List τ, (∀ y ∈ ys, y = 0) → ys.foldl (· + ·) 0 = 0 := by
    intro ys
    induction ys with
    | nil => exact fun _ => rfl
    | cons y rest ih =>
      intro level
      obtain ⟨rfl, others⟩ := List.forall_mem_cons.mp level
      rw [List.foldl_cons, Scalar.IsLevel.zero_add_zero]
      exact ih others
  exact fold xs level

/-- Without a slope that is not zero, there is no change along a freedom, or one by zero. -/
lemma change?_of_level {own : List (Slope ν τ)} (level : ∀ s ∈ own, s.slope = 0) (damping : τ)
    (freedom : Freedom ν) : change? damping own freedom = none ∨
      change? damping own freedom = some (-0 * (damping * stepScale)) := by
  rw [change?]
  cases along : own.filter fun s => s.freedom == freedom with
  | nil => exact .inl rfl
  | cons s rest =>
    have flat : Scalar.sum ((s :: rest).map Slope.slope) = 0 := by
      refine sum_of_level fun x there => ?_
      obtain ⟨s', member, rfl⟩ := List.mem_map.mp there
      rw [← along] at member
      exact level s' (List.mem_of_mem_filter member)
    refine .inr ?_
    dsimp only
    rw [flat]

section

variable {own : List (Slope String τ)} {damping : τ} (level : ∀ s ∈ own, s.slope = 0)
  (finite : Scalar.isFinite damping = true) (e : Entity String τ)

include level finite

/-- A step without slopes other than zero changes no more than the signs of zeros. -/
lemma isLike_applySlopes : (applySlopes damping e own).IsLike e := by
  have moved (freedom : Freedom String) (a : τ) :
      Scalar.Same (a + (change? damping own freedom).getD 0) a := by
    obtain none | change := change?_of_level level damping freedom
    · rw [none]
      exact Scalar.IsLevel.add_zero_same a
    · rw [change]
      exact Scalar.IsLevel.add_level_same a damping finite
  have changed (freedom : Freedom String) (a : τ) :
      Scalar.Same (((change? damping own freedom).map (a + ·)).getD a) a := by
    obtain none | change := change?_of_level level damping freedom
    · rw [none]
      exact .refl a
    · rw [change]
      exact Scalar.IsLevel.add_level_same a damping finite
  refine ⟨isFramedBy_applySlopes damping e own, fun freedom => ?_⟩
  by_cases pulled : own = []
  · rw [pulled]
    exact (Entity.IsLike.refl e).value? freedom
  rw [applySlopes_eq damping e pulled]
  cases freedom with
  | position axis =>
    simp only [Entity.value?, Entity.mapParameters, Entity.moveTo, Option.map_map]
    cases e.position with
    | none => exact .none
    | some p => cases axis <;> exact .some (moved _ _)
  | parameter name =>
    simp only [Entity.value?, Entity.mapParameters, Entity.moveTo, Table.get?_mapValues]
    cases e.parameters.get? name with
    | none => exact .none
    | some v => exact .some (changed _ v)

/-- Nor does it change these, if the damping is positive and there is a slope along every freedom,
or none at all. -/
lemma applySlopes_eq_self (pos : 0 < damping)
    (complete : own ≠ [] → ∀ freedom ∈ e.freedoms, ∃ s ∈ own, s.freedom == freedom) :
    applySlopes damping e own = e := by
  by_cases pulled : own = []
  · rw [pulled]
    rfl
  have still (freedom : Freedom String) (free : freedom ∈ e.freedoms) (a : τ) :
      ∃ delta, change? damping own freedom = some delta ∧ a + delta = a := by
    refine ⟨_, (change?_of_level level damping freedom).resolve_left fun none => ?_,
      Scalar.IsLevel.add_level_eq a damping finite pos⟩
    obtain ⟨s, member, along⟩ := complete pulled freedom free
    have there : s ∈ own.filter fun s => s.freedom == freedom := List.mem_filter.mpr ⟨member, along⟩
    rw [change?] at none
    split at none
    · next nothing =>
      rw [nothing] at there
      cases there
    · cases none
  have position : (e.position.map fun p => p.add ⟨(change? damping own (.position .x)).getD 0,
      (change? damping own (.position .y)).getD 0,
      (change? damping own (.position .z)).getD 0⟩) = e.position := by
    cases there : e.position with
    | none => rfl
    | some p =>
      have free (axis : Axis) : Freedom.position axis ∈ e.freedoms := by
        cases axis <;> simp [Entity.freedoms, there, Axis.all]
      obtain ⟨x, byX, sameX⟩ := still (.position .x) (free .x) p.x
      obtain ⟨y, byY, sameY⟩ := still (.position .y) (free .y) p.y
      obtain ⟨z, byZ, sameZ⟩ := still (.position .z) (free .z) p.z
      simp only [byX, byY, byZ, Option.getD_some, Option.map_some, Vector3.add, sameX, sameY, sameZ]
  rw [applySlopes_eq damping e pulled, position]
  refine Entity.mapParameters_eq_self e fun name named v => ?_
  have free : Freedom.parameter name ∈ e.freedoms :=
    List.mem_append_right _ (List.mem_map_of_mem named)
  obtain ⟨delta, change, same⟩ := still (.parameter name) free v
  rw [change]
  exact same

end

end

/-! ### Steps of all entities -/

variable [Scalar τ] [Scalar.IsPlain τ] [Scalar α] [Component τ α]

lemma keys_descend (damping : τ) (plan : List (Constraint ν α)) (entities : Table ν (Entity ν τ)) :
    (descend damping plan entities).keys = entities.keys := by
  rw [descend_eq_mapValues, Table.keys_mapValues]

/-- No number of steps adds, drops or moves an id. -/
lemma keys_entitiesAfter (damping : τ) (plan : List (Constraint ν α))
    (entities : Table ν (Entity ν τ)) (count : ℕ) :
    (entitiesAfter damping plan entities count).keys = entities.keys := by
  induction count with
  | zero => rfl
  | succ n ih => rw [entitiesAfter_succ, keys_descend, ih]

/-- A trial keeps the frame of the entity that it moves. -/
lemma exists_isFramedBy_moved {plan : List (Constraint ν α)} {entities : Table ν (Entity ν τ)}
    {t : Trial ν τ} (made : t ∈ survey plan entities) :
    ∃ e, entities.get? t.entity = some e ∧ t.moved.IsFramedBy e := by
  rw [survey_eq_flatMap, List.mem_flatMap] at made
  obtain ⟨c, -, made⟩ := made
  obtain ⟨base, -, id, -, e, there, freedom, -, made⟩ := mem_trialsOf.mp made
  rw [trial, there, Option.map_some, Option.some.injEq] at made
  rw [← made]
  exact ⟨e, there, e.isFramedBy_nudge freedom nudgeSize⟩

variable [LawfulName ν]

lemma plan_entitiesAfter (damping : τ) (plan : List (Constraint ν α))
    (entities : Table ν (Entity ν τ)) (count : ℕ) (constraints : List (Constraint ν α)) :
    Gradient.plan (entitiesAfter damping plan entities count) constraints =
      Gradient.plan entities constraints :=
  plan_congr (.of_eq (keys_entitiesAfter damping plan entities count)) constraints

/-- The slopes that a survey finds along the freedoms of one entity. -/
def slopesOf (plan : List (Constraint ν α)) (entities : Table ν (Entity ν τ)) (id : ν) :
    List (Slope ν τ) :=
  (slopes plan entities).filter fun s => s.entity == id

lemma get?_entitiesAfter_succ (damping : τ) (plan : List (Constraint ν α))
    (entities : Table ν (Entity ν τ)) (count : ℕ) (id : ν) :
    (entitiesAfter damping plan entities (count + 1)).get? id =
      ((entitiesAfter damping plan entities count).get? id).map fun e =>
        applySlopes damping e (slopesOf plan (entitiesAfter damping plan entities count) id) := by
  rw [entitiesAfter_succ, descend_eq_mapValues, Table.get?_mapValues]
  rfl

/-- What every step of a run keeps of an entity, the run keeps of it. -/
lemma exists_get?_entitiesAfter {damping : τ} {plan : List (Constraint ν α)}
    {entities : Table ν (Entity ν τ)} {count : ℕ} {id : ν} {e : Entity ν τ}
    {Keeps : Entity ν τ → Entity ν τ → Prop} (refl : ∀ e, Keeps e e)
    (trans : ∀ {e₁ e₂ e₃}, Keeps e₁ e₂ → Keeps e₂ e₃ → Keeps e₁ e₃)
    (step : ∀ k < count, ∀ e, (entitiesAfter damping plan entities k).get? id = some e →
      Keeps (applySlopes damping e (slopesOf plan (entitiesAfter damping plan entities k) id)) e)
    (there : entities.get? id = some e) :
    ∃ e', (entitiesAfter damping plan entities count).get? id = some e' ∧ Keeps e' e := by
  induction count with
  | zero => exact ⟨e, there, refl e⟩
  | succ n ih =>
    obtain ⟨e', reached, kept⟩ := ih fun k earlier => step k (Nat.lt_succ_of_lt earlier)
    refine ⟨_, ?_, trans (step n (Nat.lt_succ_self n) e' reached) kept⟩
    rw [get?_entitiesAfter_succ, reached]
    rfl

/-- A run keeps the frame of an entity. -/
lemma exists_isFramedBy_entitiesAfter (damping : τ) (plan : List (Constraint String α))
    (count : ℕ) {entities : Table String (Entity String τ)} {id : String} {e : Entity String τ}
    (there : entities.get? id = some e) :
    ∃ e', (entitiesAfter damping plan entities count).get? id = some e' ∧ e'.IsFramedBy e :=
  exists_get?_entitiesAfter .refl .trans (fun _ _ _ _ => isFramedBy_applySlopes ..) there

/-- A run neither brings entities in nor takes them out. -/
lemma rel_get?_entitiesAfter (damping : τ) (plan : List (Constraint String α))
    (entities : Table String (Entity String τ)) (count : ℕ) (id : String) :
    Option.Rel Entity.IsFramedBy ((entitiesAfter damping plan entities count).get? id)
      (entities.get? id) := by
  cases there : entities.get? id with
  | some e =>
    obtain ⟨e', there', framed⟩ := exists_isFramedBy_entitiesAfter damping plan count there
    rw [there']
    exact .some framed
  | none =>
    have absent : ((entitiesAfter damping plan entities count).get? id).isSome =
        (entities.get? id).isSome := by
      rw [Bool.eq_iff_iff, Table.isSome_get?_iff, Table.isSome_get?_iff, keys_entitiesAfter]
    rw [there, Option.isSome_none, Option.isSome_eq_false_iff, Option.isNone_iff_eq_none] at absent
    rw [absent]
    exact .none

/-! ### Entities that nothing pulls at -/

/-- The slopes along the freedoms of an entity come of the constraints that name it. -/
lemma mem_slopesOf {plan : List (Constraint ν α)} {entities : Table ν (Entity ν τ)} {id : ν}
    {s : Slope ν τ} : s ∈ slopesOf plan entities id ↔
      ∃ c ∈ plan, ∃ base, (c.residual (snapshot entities)).finite? = some base ∧
        id ∈ c.entities ∧ ∃ e, entities.get? id = some e ∧ ∃ freedom ∈ e.freedoms, ∃ nudged,
          (c.residual ((snapshot entities).replace id (e.nudge freedom nudgeSize))).finite? =
            some nudged ∧ ⟨id, freedom, (nudged - base) / nudgeSize⟩ = s := by
  rw [slopesOf, List.mem_filter, mem_slopes, beq_iff_eq]
  constructor
  · rintro ⟨⟨c, planned, found⟩, rfl⟩
    obtain ⟨base, before, id, named, e, there, freedom, free, nudged, after, rfl⟩ :=
      mem_filterMap_slope?.mp found
    exact ⟨c, planned, base, before, List.mem_eraseDups.mp named, e, there, freedom, free, nudged,
      after, rfl⟩
  · rintro ⟨c, planned, base, before, named, e, there, freedom, free, nudged, after, rfl⟩
    exact ⟨⟨c, planned, mem_filterMap_slope?.mpr ⟨base, before, id, List.mem_eraseDups.mpr named, e,
      there, freedom, free, nudged, after, rfl⟩⟩, rfl⟩

section

variable {plan : List (Constraint ν α)} {entities : Table ν (Entity ν τ)} {id : ν}
  (unmoved : ∀ c ∈ plan, c.relation.isMeasured = true → id ∈ c.entities →
    (c.residual (snapshot entities)).finite? = none)

include unmoved

/-- Constraints that name an entity and are no number pull at nothing. -/
lemma slope_of_unmoved [Scalar.IsLevel τ] : ∀ s ∈ slopesOf plan entities id, s.slope = 0 := by
  intro s found
  obtain ⟨c, planned, base, before, named, e, -, freedom, -, nudged, after, rfl⟩ :=
    mem_slopesOf.mp found
  cases measured : c.relation.isMeasured with
  | true =>
    rw [unmoved c planned measured named] at before
    cases before
  | false =>
    rw [residual_of_unmeasured measured] at before after
    rw [Residual.eq_of_finite? before, Residual.eq_of_finite? after]
    exact Scalar.IsLevel.slope_eq_zero

/-- They do so along every freedom, if along any. -/
lemma exists_slope_of_unmoved {e : Entity ν τ} (there : entities.get? id = some e)
    (pulled : slopesOf plan entities id ≠ []) :
    ∀ freedom ∈ e.freedoms, ∃ s ∈ slopesOf plan entities id, s.freedom == freedom := by
  intro freedom free
  obtain ⟨s, found⟩ := List.exists_mem_of_ne_nil _ pulled
  obtain ⟨c, planned, base, before, named, -⟩ := mem_slopesOf.mp found
  have unmeasured : c.relation.isMeasured = false := by
    rw [← Bool.not_eq_true]
    intro measured
    rw [unmoved c planned measured named] at before
    cases before
  have after := before
  rw [residual_of_unmeasured unmeasured] at after
  refine ⟨⟨id, freedom, (base - base) / nudgeSize⟩, mem_slopesOf.mpr ⟨c, planned, base, before,
    named, e, there, freedom, free, base, ?_, rfl⟩, ?_⟩
  · rw [residual_of_unmeasured unmeasured]
    exact after
  · cases freedom with
    | position axis => exact decide_eq_true rfl
    | parameter name => exact beq_self_eq_true name

end

/-- An entity that only constraints without a number name is the same after any number of steps. -/
lemma exists_like_of_unmoved {plan : List (Constraint String α)}
    {entities : Table String (Entity String τ)} [Scalar.IsLevel τ] {damping : τ} {count : ℕ}
    {id : String} {e : Entity String τ} (finite : Scalar.isFinite damping = true)
    (unmoved : ∀ k < count, ∀ c ∈ plan, c.relation.isMeasured = true → id ∈ c.entities →
      (c.residual (snapshot (entitiesAfter damping plan entities k))).finite? = none)
    (there : entities.get? id = some e) :
    ∃ e', (entitiesAfter damping plan entities count).get? id = some e' ∧ e'.IsLike e ∧
      (0 < damping → e' = e) := by
  have level (k : ℕ) (inside : k < count) := slope_of_unmoved (unmoved k inside)
  obtain ⟨e', reached, like⟩ := exists_get?_entitiesAfter .refl .trans
    (fun k inside e _ => isLike_applySlopes (level k inside) finite e) there
  refine ⟨e', reached, like, fun pos => ?_⟩
  obtain ⟨_, reached', same⟩ := exists_get?_entitiesAfter Eq.refl Eq.trans
    (fun k inside e here => applySlopes_eq_self (level k inside) finite e pos
      (exists_slope_of_unmoved (unmoved k inside) here)) there
  rw [reached, Option.some.injEq] at reached'
  rw [reached', same]

end Gradient

end Drafting
