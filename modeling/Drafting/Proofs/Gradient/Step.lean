import Drafting.Proofs.Gradient.Frame
import Mathlib.Algebra.BigOperators.Group.List.Basic

/-!
# Steps in exact arithmetic

In exact arithmetic a step is given by a formula: along each of its freedoms an entity moves against
the sum of the difference quotients of the constraints that name it (`isStep_descend`). Each
difference quotient is taken with that entity moved alone and all others as they are, and each
constraint counts once however often it names the entity (`pull_slopesFor`).
-/

namespace Drafting

variable {ν : Type} [Name ν]

namespace Gradient

/-! ### Pulls -/

/-- The sum of the slopes along one freedom of one entity. -/
def pull (slopes : List (Slope ν ℝ)) (id : ν) (freedom : Freedom ν) : ℝ :=
  (((slopes.filter fun s => s.entity == id).filter fun s => s.freedom == freedom).map
    Slope.slope).sum

lemma pull_append (slopes slopes' : List (Slope ν ℝ)) (id : ν) (freedom : Freedom ν) :
    pull (slopes ++ slopes') id freedom = pull slopes id freedom + pull slopes' id freedom := by
  simp [pull]

lemma pull_flatMap {β : Type} (xs : List β) (f : β → List (Slope ν ℝ)) (id : ν)
    (freedom : Freedom ν) :
    pull (xs.flatMap f) id freedom = (xs.map fun x => pull (f x) id freedom).sum := by
  induction xs with
  | nil => rfl
  | cons x rest ih => rw [List.flatMap_cons, pull_append, ih, List.map_cons, List.sum_cons]

/-- How the residual of a constraint changes along a freedom of an entity, with that entity moved
alone: the difference quotient, or zero unless the residual is finite before and after. -/
noncomputable def quotient (c : Constraint ν ℝ) (entities : Snapshot ν ℝ) (id : ν)
    (e : Entity ν ℝ) (freedom : Freedom ν) : ℝ :=
  match (c.residual entities).finite?,
      (c.residual (entities.replace id (e.nudge freedom 1e-5))).finite? with
  | some base, some nudged => (nudged - base) / 1e-5
  | _, _ => 0

/-- The sum of the difference quotients of the constraints of a plan that name an entity, along one
of its freedoms. -/
noncomputable def quotients (plan : List (Constraint ν ℝ)) (entities : Snapshot ν ℝ) (id : ν)
    (e : Entity ν ℝ) (freedom : Freedom ν) : ℝ :=
  ((plan.filter fun c => c.entities.contains id).map fun c =>
    quotient c entities id e freedom).sum

section

variable [LawfulName ν]

/-- Slopes along other freedoms, or of other entities, do not pull. -/
lemma pull_of_other {slopes : List (Slope ν ℝ)} {id : ν} {freedom : Freedom ν}
    (other : ∀ s ∈ slopes, s.entity = id → s.freedom ≠ freedom) : pull slopes id freedom = 0 := by
  have none : (slopes.filter fun s => s.entity == id).filter (fun s => s.freedom == freedom) =
      [] := by
    rw [List.filter_filter, List.filter_eq_nil_iff]
    intro s there
    rw [Bool.and_eq_true, beq_iff_eq, beq_iff_eq]
    exact fun ⟨along, own⟩ => other s there own along
  rw [pull, none]
  rfl

/-- Of slopes that are found for one thing after the other, only those for one of them pull. -/
lemma pull_flatMap_of_mem {β : Type} {xs : List β} {x : β} {f : β → List (Slope ν ℝ)} {id : ν}
    {freedom : Freedom ν} (distinct : xs.Nodup) (there : x ∈ xs)
    (other : ∀ y, y ≠ x → ∀ s ∈ f y, s.entity = id → s.freedom ≠ freedom) :
    pull (xs.flatMap f) id freedom = pull (f x) id freedom := by
  classical
  have single : (xs.map fun y => pull (f y) id freedom).sum =
      xs.count x • pull (f x) id freedom :=
    List.sum_map_eq_nsmul_single x _ fun y different _ => pull_of_other (other y different)
  rw [pull_flatMap, single, List.count_eq_one_of_mem distinct there, one_nsmul]

end

/-- The slopes that are found for a constraint along the freedoms of one entity. -/
noncomputable def slopesAt (entities : Snapshot ν ℝ) (c : Constraint ν ℝ) (base : ℝ) (id : ν) :
    List (Slope ν ℝ) :=
  match entities id with
  | some e =>
    e.freedoms.filterMap fun freedom =>
      (c.residual (entities.replace id (e.nudge freedom nudgeSize))).finite?.map fun nudged =>
        ⟨id, freedom, (nudged - base) / nudgeSize⟩
  | none => []

lemma slopesFor_of_finite {entities : Snapshot ν ℝ} {c : Constraint ν ℝ} {base : ℝ}
    (before : (c.residual entities).finite? = some base) :
    slopesFor entities c = c.entities.eraseDups.flatMap (slopesAt entities c base) := by
  rw [slopesFor, before]
  refine List.flatMap_congr fun id _ => ?_
  rw [slopesAt]
  cases entities id <;> rfl

lemma entity_of_mem_slopesAt {entities : Snapshot ν ℝ} {c : Constraint ν ℝ} {base : ℝ} {id : ν}
    {s : Slope ν ℝ} (found : s ∈ slopesAt entities c base id) : s.entity = id := by
  rw [slopesAt] at found
  split at found
  · obtain ⟨freedom, -, slope⟩ := List.mem_filterMap.mp found
    obtain ⟨nudged, -, rfl⟩ := Option.map_eq_some_iff.mp slope
    rfl
  · cases found

/-- Along a freedom of an entity there is one slope, or none if the residual is not finite with the
entity moved. -/
lemma pull_slopesAt [LawfulName ν] {entities : Snapshot ν ℝ} {c : Constraint ν ℝ} {base : ℝ}
    (before : (c.residual entities).finite? = some base) {id : ν} {e : Entity ν ℝ}
    (there : entities id = some e) {freedom : Freedom ν} (free : freedom ∈ e.freedoms) :
    pull (slopesAt entities c base id) id freedom = quotient c entities id e freedom := by
  have size : (nudgeSize : ℝ) = 1e-5 := rfl
  simp only [slopesAt, there, List.filterMap_eq_flatMap_toList]
  rw [pull_flatMap_of_mem e.nodup_freedoms free, quotient, before, size]
  · cases (c.residual (entities.replace id (e.nudge freedom 1e-5))).finite? with
    | none => rfl
    | some nudged => simp [pull]
  · intro other different s found _
    obtain ⟨nudged, -, rfl⟩ := Option.map_eq_some_iff.mp (Option.mem_toList.mp found)
    exact different

/-- What is found for a constraint pulls at an entity by one difference quotient, if the constraint
names the entity, and not at all otherwise. -/
lemma pull_slopesFor {entities : Snapshot String ℝ} {id : String} {e : Entity String ℝ}
    (there : entities id = some e) {freedom : Freedom String} (free : freedom ∈ e.freedoms)
    (c : Constraint String ℝ) :
    pull (slopesFor entities c) id freedom =
      if id ∈ c.entities then quotient c entities id e freedom else 0 := by
  cases before : (c.residual entities).finite? with
  | none =>
    rw [slopesFor, quotient, before]
    exact (ite_self 0).symm
  | some base =>
    rw [slopesFor_of_finite before]
    split
    · next named =>
      rw [pull_flatMap_of_mem (nodup_eraseDups _) (List.mem_eraseDups.mpr named),
        pull_slopesAt before there free]
      exact fun other different s found own =>
        absurd ((entity_of_mem_slopesAt found).symm.trans own) different
    · next unnamed =>
      refine pull_of_other fun s found own => ?_
      obtain ⟨other, named, found⟩ := List.mem_flatMap.mp found
      rw [entity_of_mem_slopesAt found] at own
      exact absurd (List.mem_eraseDups.mp named) (own ▸ unnamed)

/-- The slopes along a freedom of an entity add up to the difference quotients of the constraints
that name the entity. -/
lemma pull_slopes {entities : Table String (Entity String ℝ)} {id : String} {e : Entity String ℝ}
    (there : entities.get? id = some e) {freedom : Freedom String} (free : freedom ∈ e.freedoms)
    (plan : List (Constraint String ℝ)) :
    pull (slopes plan entities) id freedom = quotients plan (snapshot entities) id e freedom := by
  have share (c : Constraint String ℝ) : pull (slopesFor (snapshot entities) c) id freedom =
      if id ∈ c.entities then quotient c (snapshot entities) id e freedom else 0 :=
    pull_slopesFor there free c
  rw [slopes_eq_flatMap, pull_flatMap, quotients]
  calc (plan.map fun c => pull (slopesFor (snapshot entities) c) id freedom).sum
      = (plan.map fun c =>
          if id ∈ c.entities then quotient c (snapshot entities) id e freedom else 0).sum := by
        simp only [share]
    _ = _ := by
        rw [List.sum_map_ite]
        simp

/-! ### Steps -/

/-- The change along a freedom is what the slopes along it add up to, whether there are any or
not. -/
lemma getD_change? (damping : ℝ) (own : List (Slope ν ℝ)) (freedom : Freedom ν) :
    (change? damping own freedom).getD 0 =
      -((own.filter fun s => s.freedom == freedom).map Slope.slope).sum *
        (damping * stepScale) := by
  rw [change?]
  cases along : own.filter fun s => s.freedom == freedom with
  | nil => simp
  | cons s rest => simp [Scalar.sum, List.sum_eq_foldl]

/-- An entity with each freedom changed by a number of its own. -/
noncomputable def shiftedBy (e : Entity ν ℝ) (delta : Freedom ν → ℝ) : Entity ν ℝ :=
  (e.moveTo (e.position.map fun p =>
    p.add ⟨delta (.position .x), delta (.position .y), delta (.position .z)⟩)).mapParameters
      fun name v => v + delta (.parameter name)

lemma shiftedBy_zero (e : Entity ν ℝ) : shiftedBy e (fun _ => 0) = e := by
  have position : (e.position.map fun p => p.add ⟨0, 0, 0⟩) = e.position := by
    cases e.position <;> simp [Vector3.add]
  have parameters : (e.parameters.mapValues fun _ v => v + 0) = e.parameters := by
    simp [Table.mapValues]
  cases e
  simp_all [shiftedBy, Entity.moveTo, Entity.mapParameters]

/-- A step changes each freedom of an entity by what the slopes along it add up to. -/
lemma applySlopes_eq_shiftedBy (damping : ℝ) (e : Entity String ℝ) (own : List (Slope String ℝ)) :
    applySlopes damping e own =
      shiftedBy e fun freedom => (change? damping own freedom).getD 0 := by
  by_cases none : own = []
  -- without slopes an entity is left alone, which is what changes by zero come to
  · rw [none]
    exact (shiftedBy_zero e).symm
  · rw [applySlopes_eq damping e none]
    refine congrArg (Entity.mapParameters _) ?_
    funext name v
    dsimp only
    cases change? damping own (.parameter name) with
    | none => exact (add_zero v).symm
    | some delta => rfl

lemma value?_shiftedBy [LawfulName ν] (e : Entity ν ℝ) (delta : Freedom ν → ℝ)
    (freedom : Freedom ν) :
    (shiftedBy e delta).value? freedom = (e.value? freedom).map (· + delta freedom) := by
  cases freedom with
  | position axis =>
    rw [Entity.value?, Entity.value?, shiftedBy, Entity.mapParameters, Entity.moveTo]
    cases e.position with
    | none => rfl
    | some p => cases axis <;> rfl
  | parameter name => exact Table.get?_mapValues e.parameters _ name

/-- A step changes each number of an entity by the difference quotients along it, and keeps the rest
of the entity. -/
lemma exists_get?_descend {entities : Table String (Entity String ℝ)} {id : String}
    {e : Entity String ℝ} (there : entities.get? id = some e) (damping : ℝ)
    (plan : List (Constraint String ℝ)) :
    ∃ e', (descend damping plan entities).get? id = some e' ∧ e'.IsFramedBy e ∧
      ∀ freedom, e'.value? freedom = (e.value? freedom).map fun x =>
        x - 0.01 * damping * quotients plan (snapshot entities) id e freedom := by
  refine ⟨applySlopes damping e (slopesOf plan entities id), ?_, isFramedBy_applySlopes .., ?_⟩
  · rw [descend_eq_mapValues, Table.get?_mapValues, there]
    rfl
  · intro freedom
    rw [applySlopes_eq_shiftedBy, value?_shiftedBy]
    cases here : e.value? freedom with
    | none => rfl
    | some x =>
      have free : freedom ∈ e.freedoms := Entity.mem_freedoms_iff.mpr (by rw [here]; rfl)
      have scale : (stepScale : ℝ) = 0.01 := rfl
      have pulled := pull_slopes there free plan
      rw [pull] at pulled
      rw [getD_change?, slopesOf, pulled, scale, Option.map_some, Option.map_some]
      congr 1
      ring

/-- Entities that come of others by the formula for a step: the ids and their order are the same,
and so is each entity, except that every number of it is less by a hundredth of the damping times
the sum of the difference quotients along it. -/
structure IsStep (damping : ℝ) (plan : List (Constraint String ℝ))
    (entities entities' : Table String (Entity String ℝ)) : Prop where
  ids : entities'.keys = entities.keys
  moved : ∀ id e, entities.get? id = some e → ∃ e', entities'.get? id = some e' ∧
    e'.IsFramedBy e ∧ ∀ freedom, e'.value? freedom = (e.value? freedom).map fun x =>
      x - 0.01 * damping * quotients plan (snapshot entities) id e freedom

/-- A step goes by the formula. -/
theorem isStep_descend (damping : ℝ) (plan : List (Constraint String ℝ))
    (entities : Table String (Entity String ℝ)) :
    IsStep damping plan entities (descend damping plan entities) where
  ids := keys_descend damping plan entities
  moved _ _ there := exists_get?_descend there damping plan

end Gradient

end Drafting
