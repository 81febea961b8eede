import Drafting.Proofs.Gradient.Frame

/-!
# Translations

Constraints are measured on differences of positions, so in exact arithmetic a residual stays the
same if all positions are moved by one vector (`residual_translated`). So do the slopes that a step
goes against and the test for when to stop, and a descent from entities that have been translated
comes to the translation of what it would have come to (`solve_translated`).
-/

namespace Drafting

/-! ### Vectors -/

namespace Vector3

variable (p q v : Vector3 ℝ)

lemma add_add_comm : (p.add v).add q = (p.add q).add v := by
  simp only [add, add_right_comm]

lemma sub_add_add : (p.add v).sub (q.add v) = p.sub q := by
  simp only [sub, add, add_sub_add_right_eq_sub]

lemma distance_add_add : (p.add v).distance (q.add v) = p.distance q := by
  rw [distance, distance, sub_add_add]

lemma offLine_add_add (direction : Vector3 ℝ) :
    (p.add v).offLine (q.add v) direction = p.offLine q direction := by
  rw [offLine, offLine, sub_add_add]

lemma shift_add (axis : Axis) (delta : ℝ) :
    (p.add v).shift axis delta = (p.shift axis delta).add v := by
  cases axis <;> simp only [shift, add, Scalar.IsPlain.increase_eq, add_right_comm]

end Vector3

variable {ν : Type} [Name ν]

/-! ### Entities -/

namespace Entity

/-- The entity with a vector added to its position, if it has one. -/
noncomputable def translated (v : Vector3 ℝ) (e : Entity ν ℝ) : Entity ν ℝ :=
  e.moveTo (e.position.map fun p => p.add v)

variable (v : Vector3 ℝ) (e : Entity ν ℝ)

@[simp] lemma kind_translated : (e.translated v).kind = e.kind := rfl

@[simp] lemma position_translated :
    (e.translated v).position = e.position.map fun p => p.add v := rfl

@[simp] lemma direction_translated : (e.translated v).direction = e.direction := rfl

@[simp] lemma parameters_translated : (e.translated v).parameters = e.parameters := rfl

@[simp] lemma properRadius?_translated : (e.translated v).properRadius? = e.properRadius? := rfl

/-- A translation neither adds nor takes away a freedom. -/
@[simp] lemma freedoms_translated : (e.translated v).freedoms = e.freedoms := by
  simp only [freedoms, position_translated, parameters_translated, Option.isSome_map]

/-- It does not matter whether an entity is moved before or after it is translated. -/
lemma moveTo_map_translated {f : Vector3 ℝ → Vector3 ℝ}
    (commutes : ∀ p, f (p.add v) = (f p).add v) :
    (e.translated v).moveTo ((e.translated v).position.map f) =
      (e.moveTo (e.position.map f)).translated v := by
  have positions : (e.position.map fun p => p.add v).map f =
      (e.position.map f).map fun p => p.add v := by
    simp only [Option.map_map, Function.comp_def, commutes]
  rw [position_translated, positions]
  rfl

lemma mapParameters_translated (f : ν → ℝ → ℝ) :
    (e.translated v).mapParameters f = (e.mapParameters f).translated v := rfl

lemma nudge_translated (freedom : Freedom ν) (delta : ℝ) :
    (e.translated v).nudge freedom delta = (e.nudge freedom delta).translated v := by
  cases freedom with
  | position axis => exact moveTo_map_translated v e fun p => p.shift_add v axis delta
  | parameter name => rfl

lemma setParameter_translated (name : ν) (value : ℝ) :
    (e.translated v).setParameter name value = (e.setParameter name value).translated v := by
  by_cases carried : e.kind.carries name = true
  · rw [setParameter, setParameter, dif_pos carried, dif_pos (by exact carried)]
    rfl
  · rw [setParameter, setParameter, dif_neg carried, dif_neg (by exact carried)]

end Entity

/-! ### Measuring -/

namespace Measure

variable (v : Vector3 ℝ) (entities : List (Entity ν ℝ))

lemma coincident_translated :
    coincident (entities.map (Entity.translated v)) = coincident entities := by
  match entities with
  | [] | [_] => rfl
  | a :: b :: rest =>
    simp only [coincident, List.map_cons, Entity.position_translated]
    cases a.position <;> cases b.position <;>
      simp [Vector3.distance_add_add]

lemma tangent_translated : tangent (entities.map (Entity.translated v)) = tangent entities := by
  match entities with
  | [] | [_] => rfl
  | circle :: line :: rest =>
    simp only [tangent, List.map_cons, Entity.kind_translated, Entity.properRadius?_translated,
      Entity.direction_translated, Entity.position_translated]
    cases circle.position <;> cases line.position <;>
      simp [Vector3.offLine_add_add]

lemma distance_translated (target : ℝ) :
    distance target (entities.map (Entity.translated v)) = distance target entities := by
  match entities with
  | [] | [_] => rfl
  | a :: b :: rest =>
    simp only [distance, List.map_cons, Entity.kind_translated, Entity.direction_translated,
      Entity.position_translated]
    refine if_congr Iff.rfl ?_ (if_congr Iff.rfl ?_ rfl)
    · cases a.position <;> cases b.position <;> simp [Vector3.distance_add_add]
    · cases a.position <;> cases b.position <;> simp [Vector3.offLine_add_add]

/-- No formula tells whether the entities have been translated. -/
lemma formula_translated (relation : Relation) (target : ℝ) :
    formula relation target (entities.map (Entity.translated v)) =
      formula relation target entities := by
  cases relation with
  | coincident => exact coincident_translated v entities
  | tangent => exact tangent_translated v entities
  | distance => exact distance_translated v entities target
  | horizontal | vertical | radius => cases entities <;> rfl
  | parallel | perpendicular | angle | equal =>
    match entities with
    | [] | [_] | _ :: _ :: _ => rfl
  | concentric | symmetric | fixed | unknown => rfl

end Measure

namespace Snapshot

/-- The snapshot with every entity translated. -/
noncomputable def translated (v : Vector3 ℝ) (entities : Snapshot ν ℝ) : Snapshot ν ℝ :=
  fun id => (entities id).map (Entity.translated v)

lemma replace_translated (v : Vector3 ℝ) (entities : Snapshot ν ℝ) (id : ν) (e : Entity ν ℝ) :
    (entities.translated v).replace id (e.translated v) =
      (entities.replace id e).translated v := by
  funext name
  rw [replace, translated, translated, replace]
  split <;> rfl

end Snapshot

namespace Constraint

variable (v : Vector3 ℝ) (entities : Snapshot ν ℝ) (c : Constraint ν ℝ)

lemma resolve_translated :
    c.resolve (entities.translated v) = (c.resolve entities).map (Entity.translated v) := by
  rw [resolve, resolve, List.map_filterMap]
  rfl

/-- How far a constraint is from holding stays the same if all positions are moved alike. -/
lemma residual_translated : c.residual (entities.translated v) = c.residual entities := by
  rw [residual, residual, resolve_translated, Measure.formula_translated]

end Constraint

namespace Gradient

/-- The entities, each translated. -/
noncomputable def translated (v : Vector3 ℝ) (entities : Table ν (Entity ν ℝ)) :
    Table ν (Entity ν ℝ) :=
  entities.mapValues fun _ e => e.translated v

variable (v : Vector3 ℝ)

/-! ### Steps -/

/-- Translated entities have the same slopes. -/
lemma slopesFor_translated (entities : Snapshot ν ℝ) (c : Constraint ν ℝ) :
    slopesFor (entities.translated v) c = slopesFor entities c := by
  rw [slopesFor, slopesFor, c.residual_translated]
  cases (c.residual entities).finite? with
  | none => rfl
  | some base =>
    refine List.flatMap_congr fun id _ => ?_
    rw [Snapshot.translated]
    cases entities id with
    | none => rfl
    | some e =>
      have nudged (freedom : Freedom ν) :
          c.residual ((entities.translated v).replace id
            ((e.translated v).nudge freedom nudgeSize)) =
              c.residual (entities.replace id (e.nudge freedom nudgeSize)) := by
        rw [e.nudge_translated, entities.replace_translated, c.residual_translated]
      simp only [Option.map_some, Entity.freedoms_translated, nudged]

lemma applyWordless_translated (damping : ℝ) (own : List (Slope ν ℝ)) (e : Entity ν ℝ) (name : ν) :
    applyWordless damping own (e.translated v) name =
      (applyWordless damping own e name).translated v := by
  rw [applyWordless, applyWordless]
  cases change? damping own (.parameter name) with
  | none => rfl
  | some delta => exact e.setParameter_translated v _ _

/-- A step against the same slopes takes the translation of an entity to the translation of where it
takes the entity. -/
lemma applySlopes_translated (damping : ℝ) (e : Entity ν ℝ) (own : List (Slope ν ℝ)) :
    applySlopes damping (e.translated v) own = (applySlopes damping e own).translated v := by
  rw [applySlopes, applySlopes]
  split
  · rfl
  · dsimp only
    rw [Entity.moveTo_map_translated v e fun p => p.add_add_comm _ v,
      Entity.mapParameters_translated]
    exact List.foldl_hom (Entity.translated v) fun e name =>
      applyWordless_translated v damping own e name

variable [LawfulName ν]

lemma snapshot_translated (entities : Table ν (Entity ν ℝ)) :
    snapshot (translated v entities) = (snapshot entities).translated v :=
  funext (Table.get?_mapValues entities _)

lemma slopes_translated (plan : List (Constraint ν ℝ)) (entities : Table ν (Entity ν ℝ)) :
    slopes plan (translated v entities) = slopes plan entities := by
  rw [slopes_eq_flatMap, slopes_eq_flatMap, snapshot_translated]
  exact List.flatMap_congr fun c _ => slopesFor_translated v (snapshot entities) c

/-- A step takes translated entities to the translations of where it takes the entities. -/
lemma descend_translated (damping : ℝ) (plan : List (Constraint ν ℝ))
    (entities : Table ν (Entity ν ℝ)) :
    descend damping plan (translated v entities) =
      translated v (descend damping plan entities) := by
  rw [descend_eq_mapValues, descend_eq_mapValues, slopes_translated]
  simp only [translated, Table.mapValues_mapValues, applySlopes_translated]

lemma residuals_translated (plan : List (Constraint ν ℝ)) (entities : Table ν (Entity ν ℝ)) :
    (plan.map fun c => c.residual (snapshot (translated v entities))) =
      plan.map fun c => c.residual (snapshot entities) := by
  simp only [snapshot_translated, Constraint.residual_translated]

/-! ### Solves -/

omit [LawfulName ν] in
lemma keys_translated (entities : Table ν (Entity ν ℝ)) :
    (translated v entities).keys = entities.keys :=
  Table.keys_mapValues ..

/-- The iterate with its entities translated. -/
noncomputable def Iterate.translated (i : Iterate ν ℝ) : Iterate ν ℝ :=
  { i with entities := Gradient.translated v i.entities }

lemma Iterate.of_translated (plan : List (Constraint ν ℝ)) (entities : Table ν (Entity ν ℝ)) :
    Iterate.of plan (Gradient.translated v entities) = (Iterate.of plan entities).translated v := by
  rw [Iterate.of, totalResidual, residuals_translated]
  rfl

lemma Iterate.next_translated (damping : ℝ) (plan : List (Constraint ν ℝ)) (i : Iterate ν ℝ) :
    (i.translated v).next damping plan = (i.next damping plan).translated v := by
  have entities : (i.translated v).entities = Gradient.translated v i.entities := rfl
  rw [next, next, entities, descend_translated, of_translated]

lemma run_translated (settings : Settings ℝ) (plan : List (Constraint ν ℝ)) (start : Iterate ν ℝ) :
    run settings plan (start.translated v) =
      (run settings plan start).map (Iterate.translated v) :=
  Iteration.trail_map (fun _ => rfl) fun _ _ => Iterate.next_translated v settings.damping plan _

lemma worst_translated (tolerance : ℝ) (plan : List (Constraint ν ℝ))
    (entities : Table ν (Entity ν ℝ)) :
    worst tolerance plan (translated v entities) = worst tolerance plan entities := by
  simp only [worst, offenders, snapshot_translated, Constraint.residual_translated]

/-- The solution with its entities translated, and the same otherwise. -/
noncomputable def Solution.translated (solution : Solution ν ℝ) : Solution ν ℝ :=
  { solution with entities := Gradient.translated v solution.entities }

/-- A solve from translated entities comes to the translation of what a solve from the entities
comes to. -/
theorem solve_translated (settings : Settings ℝ) (entities : Table ν (Entity ν ℝ))
    (constraints : List (Constraint ν ℝ)) :
    solve settings (translated v entities) constraints =
      (solve settings entities constraints).translated v := by
  have keys := List.Perm.of_eq (keys_translated v entities)
  have planned := plan_congr keys constraints
  obtain nothing | some := eq_or_ne (plan entities constraints) []
  · rw [solve_eq_trivial (planned.trans nothing), solve_eq_trivial nothing, diagnose_congr keys]
    rfl
  · rw [solve_eq_ofRun (planned ▸ some), solve_eq_ofRun some, planned, diagnose_congr keys,
      Iterate.of_translated, run_translated]
    generalize plan entities constraints = plan
    generalize Iterate.of plan entities = start
    have final : Iteration.last (start.translated v)
        ((run settings plan start).map (Iterate.translated v)) =
          (Iteration.last start (run settings plan start)).translated v := List.getLastD_map
    have history : ((run settings plan start).map (Iterate.translated v)).map Iterate.residual =
        (run settings plan start).map Iterate.residual := by
      rw [List.map_map]
      rfl
    have offending := worst_translated v settings.tolerance plan
      (Iteration.last start (run settings plan start)).entities
    simp only [Solution.ofRun, final, history, List.length_map]
    simp only [Solution.translated, Iterate.translated, Iterate.isDone, offending]
    rfl

end Gradient

end Drafting
