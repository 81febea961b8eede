import Drafting.Gradient.Solution
import Drafting.Proofs.Exact
import Drafting.Proofs.Table

/-!
# Surveys of plain numbers

Trials are made one after the other because a trial can change numbers in place. Plain numbers are
not changed, so every trial sees the same entities: a survey is the list of all trials on them
(`survey_eq_flatMap`), and a step moves just these entities (`descend_eq_mapValues`).
-/

namespace Drafting

/-- Changing the value of a name to itself changes nothing. -/
lemma Table.modify_eq_self {κ ν : Type} [BEq κ] (t : Table κ ν) (key : κ) {f : ν → ν}
    (still : ∀ v, f v = v) : t.modify key f = t := by
  refine mapValues_eq_self fun k _ v => ?_
  rw [still, ite_self]

variable {ν τ α : Type} [Name ν]

namespace Gradient

/-! ### Trials in turn -/

/-- Trials that leave the entities as they are leave them so together. -/
lemma leftBy_eq_self {entities : Table ν (Entity ν τ)} {trials : List (Trial ν τ)}
    (kept : ∀ t ∈ trials, t.left = entities) : leftBy entities trials = entities := by
  rw [leftBy]
  cases h : trials.getLast? with
  | none => rfl
  | some t => exact kept t (List.mem_of_getLast? h)

/-- Trials that leave the entities as they are can be made side by side. -/
lemma inTurn_eq_flatMap {β : Type} {trials : Table ν (Entity ν τ) → β → List (Trial ν τ)}
    {entities : Table ν (Entity ν τ)} (kept : ∀ x, ∀ t ∈ trials entities x, t.left = entities)
    (xs : List β) : inTurn trials entities xs = xs.flatMap (trials entities) := by
  induction xs with
  | nil => rfl
  | cons x rest ih => rw [inTurn, leftBy_eq_self (kept x), ih, List.flatMap_cons]

lemma left_of_mem_inTurn {β : Type} {trials : Table ν (Entity ν τ) → β → List (Trial ν τ)}
    {entities : Table ν (Entity ν τ)} (kept : ∀ x, ∀ t ∈ trials entities x, t.left = entities)
    (xs : List β) : ∀ t ∈ inTurn trials entities xs, t.left = entities := by
  intro t made
  rw [inTurn_eq_flatMap kept] at made
  obtain ⟨x, -, made⟩ := List.mem_flatMap.mp made
  exact kept x t made

variable [Scalar τ] [Scalar.IsPlain τ]

/-- A nudge leaves an entity of plain numbers as it is. -/
lemma wear_eq_self (e : Entity ν τ) (freedom : Freedom ν) (delta : τ) :
    e.wear freedom delta = e := by
  cases freedom with
  | parameter name => rfl
  | position axis =>
    have still (p : Vector3 τ) : p.wear axis delta = p := by
      cases axis <;> simp [Vector3.wear, Scalar.IsPlain.wear_eq]
    simp [Entity.wear, Entity.moveTo, still]

variable [Scalar α] [Component τ α]

/-! ### Surveys -/

/-- A constraint without a formula is satisfied by all entities. -/
lemma residual_of_unmeasured {c : Constraint ν α} (unmeasured : c.relation.isMeasured = false)
    (entities : Snapshot ν τ) : c.residual entities = .measured 0 := by
  have satisfied (found : List (Entity ν τ)) :
      Measure.formula c.relation (Component.ofReal c.target) found = some 0 := by
    generalize c.relation = relation at unmeasured
    cases relation <;> first | rfl | cases unmeasured
  rw [Constraint.residual, satisfied, Option.map_some, Scalar.IsPlain.settle_eq]
  rfl

lemma trial_left {c : Constraint ν α} {base : τ} {id : ν} {entities : Table ν (Entity ν τ)}
    {freedom : Freedom ν} {t : Trial ν τ} (made : trial c base id entities freedom = some t) :
    t.left = entities := by
  rw [trial, Option.map_eq_some_iff] at made
  obtain ⟨e, -, rfl⟩ := made
  exact Table.modify_eq_self entities id fun e => wear_eq_self e freedom nudgeSize

lemma trialsAt_left (c : Constraint ν α) (base : τ) (entities : Table ν (Entity ν τ)) (id : ν) :
    ∀ t ∈ trialsAt c base entities id, t.left = entities := by
  refine left_of_mem_inTurn (fun freedom t made => ?_) _
  exact trial_left (Option.mem_toList.mp made)

lemma trialsOf_left (entities : Table ν (Entity ν τ)) (c : Constraint ν α) :
    ∀ t ∈ trialsOf entities c, t.left = entities := by
  rw [trialsOf]
  cases (c.residual (snapshot entities)).finite? with
  | none => simp
  | some base => exact left_of_mem_inTurn (trialsAt_left c base entities) _

/-- A trial is made of a constraint that is a number, along a freedom of an entity that it names. -/
lemma mem_trialsOf {entities : Table ν (Entity ν τ)} {c : Constraint ν α} {t : Trial ν τ} :
    t ∈ trialsOf entities c ↔ ∃ base, (c.residual (snapshot entities)).finite? = some base ∧
      ∃ id ∈ c.entities.eraseDups, ∃ e, entities.get? id = some e ∧
        ∃ freedom ∈ e.freedoms, trial c base id entities freedom = some t := by
  have kept (base : τ) (id : ν) (freedom : Freedom ν) :
      ∀ t ∈ (trial c base id entities freedom).toList, t.left = entities :=
    fun t made => trial_left (Option.mem_toList.mp made)
  rw [trialsOf]
  cases (c.residual (snapshot entities)).finite? with
  | none => simp
  | some base =>
    simp only [inTurn_eq_flatMap (trialsAt_left c base entities), List.mem_flatMap,
      Option.some.injEq, exists_eq_left']
    refine exists_congr fun id => and_congr_right fun _ => ?_
    rw [trialsAt, inTurn_eq_flatMap (kept base id), List.mem_flatMap]
    cases entities.get? id with
    | none => simp
    | some e => simp only [Option.map_some, Option.getD_some, Option.mem_toList,
        Option.some.injEq, exists_eq_left']

/-- A survey consists of the trials of each planned constraint on the same entities. -/
lemma survey_eq_flatMap (plan : List (Constraint ν α)) (entities : Table ν (Entity ν τ)) :
    survey plan entities = plan.flatMap (trialsOf entities) :=
  inTurn_eq_flatMap (trialsOf_left entities) plan

lemma survey_left (plan : List (Constraint ν α)) (entities : Table ν (Entity ν τ)) :
    ∀ t ∈ survey plan entities, t.left = entities :=
  left_of_mem_inTurn (trialsOf_left entities) plan

/-- The slopes that a survey finds. -/
def slopes (plan : List (Constraint ν α)) (entities : Table ν (Entity ν τ)) : List (Slope ν τ) :=
  (survey plan entities).filterMap Trial.slope?

lemma mem_slopes {plan : List (Constraint ν α)} {entities : Table ν (Entity ν τ)}
    {s : Slope ν τ} : s ∈ slopes plan entities ↔
      ∃ c ∈ plan, s ∈ (trialsOf entities c).filterMap Trial.slope? := by
  rw [slopes, survey_eq_flatMap, List.filterMap_flatMap, List.mem_flatMap]

/-- A slope is found where a constraint is a number, before an entity that it names is nudged and
after. -/
lemma mem_filterMap_slope? {c : Constraint ν α} {entities : Table ν (Entity ν τ)} {s : Slope ν τ} :
    s ∈ (trialsOf entities c).filterMap Trial.slope? ↔
      ∃ base, (c.residual (snapshot entities)).finite? = some base ∧
        ∃ id ∈ c.entities.eraseDups, ∃ e, entities.get? id = some e ∧
          ∃ freedom ∈ e.freedoms, ∃ nudged,
            (c.residual ((snapshot entities).replace id (e.nudge freedom nudgeSize))).finite? =
              some nudged ∧ ⟨id, freedom, (nudged - base) / nudgeSize⟩ = s := by
  rw [List.mem_filterMap]
  constructor
  · rintro ⟨t, made, slope⟩
    obtain ⟨base, before, id, named, e, there, freedom, free, made⟩ := mem_trialsOf.mp made
    rw [trial, there, Option.map_some, Option.some.injEq] at made
    rw [← made, Trial.slope?, Option.map_eq_some_iff] at slope
    obtain ⟨nudged, after, rfl⟩ := slope
    exact ⟨base, before, id, named, e, there, freedom, free, nudged, after, rfl⟩
  · rintro ⟨base, before, id, named, e, there, freedom, free, nudged, after, rfl⟩
    obtain ⟨t, made⟩ : ∃ t, trial c base id entities freedom = some t := by
      rw [trial, there]
      exact ⟨_, rfl⟩
    refine ⟨t, mem_trialsOf.mpr ⟨base, before, id, named, e, there, freedom, free, made⟩, ?_⟩
    rw [trial, there, Option.map_some, Option.some.injEq] at made
    rw [← made, Trial.slope?, after]
    rfl

/-- The slopes that are found for a constraint, given where entities are found. -/
def slopesFor (entities : Snapshot ν τ) (c : Constraint ν α) : List (Slope ν τ) :=
  match (c.residual entities).finite? with
  | some base =>
    c.entities.eraseDups.flatMap fun id =>
      match entities id with
      | some e =>
        e.freedoms.filterMap fun freedom =>
          (c.residual (entities.replace id (e.nudge freedom nudgeSize))).finite?.map fun nudged =>
            ⟨id, freedom, (nudged - base) / nudgeSize⟩
      | none => []
  | none => []

lemma filterMap_slope?_trialsOf (entities : Table ν (Entity ν τ)) (c : Constraint ν α) :
    (trialsOf entities c).filterMap Trial.slope? = slopesFor (snapshot entities) c := by
  have kept (base : τ) (id : ν) (freedom : Freedom ν) :
      ∀ t ∈ (trial c base id entities freedom).toList, t.left = entities :=
    fun t made => trial_left (Option.mem_toList.mp made)
  rw [trialsOf, slopesFor]
  cases (c.residual (snapshot entities)).finite? with
  | none => rfl
  | some base =>
    simp only [inTurn_eq_flatMap (trialsAt_left c base entities), List.filterMap_flatMap]
    refine List.flatMap_congr fun id _ => ?_
    rw [trialsAt, inTurn_eq_flatMap (kept base id), List.filterMap_flatMap, snapshot]
    cases there : entities.get? id with
    | none => rfl
    | some e =>
      rw [Option.map_some, Option.getD_some]
      simp only [List.filterMap_eq_flatMap_toList]
      refine List.flatMap_congr fun freedom _ => ?_
      rw [trial, there, Option.map_some, Option.toList_some, List.flatMap_singleton]
      rfl

/-- What a survey finds depends on where entities are found, and not on their order. -/
lemma slopes_eq_flatMap (plan : List (Constraint ν α)) (entities : Table ν (Entity ν τ)) :
    slopes plan entities = plan.flatMap (slopesFor (snapshot entities)) := by
  rw [slopes, survey_eq_flatMap, List.filterMap_flatMap]
  exact List.flatMap_congr fun c _ => filterMap_slope?_trialsOf entities c

/-- A step moves each entity against the slopes along its own freedoms. -/
lemma descend_eq_mapValues (damping : τ) (plan : List (Constraint ν α))
    (entities : Table ν (Entity ν τ)) :
    descend damping plan entities = entities.mapValues fun id e =>
      applySlopes damping e ((slopes plan entities).filter fun s => s.entity == id) := by
  rw [descend, leftBy_eq_self (survey_left plan entities)]
  rfl

end Gradient

end Drafting
