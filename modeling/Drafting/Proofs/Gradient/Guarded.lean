import Drafting.Proofs.Gradient.Conflicts
import Drafting.Proofs.Gradient.Frame
import Drafting.Proofs.Guarded

/-!
# Descents in guarded arithmetic

A descent in guarded arithmetic comes to what it comes to with the numbers themselves
(`solve_guarded`), so in no measurement of any step is there a root of a number below zero or an arc
cosine of one that is not between minus one and one.
-/

namespace Drafting

open Guarded (inside)

variable {ν α : Type} [Name ν]

/-! ### Entities -/

namespace Entity

variable (e : Entity ν α)

lemma moveTo_guarded {f : Vector3 α → Vector3 α} {f' : Vector3 (Guarded α) → Vector3 (Guarded α)}
    (follows : ∀ p, f' (p.map inside) = (f p).map inside) :
    e.guarded.moveTo (e.guarded.position.map f') = (e.moveTo (e.position.map f)).guarded := by
  have positions : (e.position.map (Vector3.map inside)).map f' =
      (e.position.map f).map (Vector3.map inside) := by
    simp only [Option.map_map, Function.comp_def, follows]
  rw [position_guarded, positions]
  rfl

lemma mapParameters_guarded {f : ν → α → α} {f' : ν → Guarded α → Guarded α}
    (follows : ∀ name v, f' name (inside v) = inside (f name v)) :
    e.guarded.mapParameters f' = (e.mapParameters f).guarded := by
  have parameters : (e.parameters.mapValues fun _ => inside).mapValues f' =
      (e.parameters.mapValues f).mapValues fun _ => inside := by
    simp only [Table.mapValues_mapValues, follows]
  simp only [mapParameters, guarded, parameters]

lemma freedoms_guarded : e.guarded.freedoms = e.freedoms := by
  have names : e.guarded.parameters.keys = e.parameters.keys := Table.keys_mapValues _ _
  rw [freedoms, freedoms, position_guarded, Option.isSome_map, names]

variable [Scalar α] [Scalar.IsPlain α]

lemma nudge_guarded (freedom : Freedom ν) (delta : α) :
    e.guarded.nudge freedom (inside delta) = (e.nudge freedom delta).guarded := by
  cases freedom with
  | position axis => exact e.moveTo_guarded fun p => p.shift_guarded axis delta
  | parameter name =>
    refine e.mapParameters_guarded fun k v => ?_
    exact (apply_ite inside (k == name) _ _).symm

end Entity

namespace Gradient

variable [Scalar α]

/-- The slope with a guarded number. -/
def Slope.guarded (s : Slope ν α) : Slope ν (Guarded α) := ⟨s.entity, s.freedom, inside s.slope⟩

/-! ### Steps -/

lemma sum_guarded (xs : List α) : Scalar.sum (xs.map inside) = inside (Scalar.sum xs) := by
  rw [Scalar.sum, List.foldl_map]
  exact List.foldl_hom inside fun _ _ => rfl

lemma change?_guarded (damping : α) (own : List (Slope ν α)) (freedom : Freedom ν) :
    change? (inside damping) (own.map Slope.guarded) freedom =
      (change? damping own freedom).map inside := by
  have along : (own.map Slope.guarded).filter (fun s => s.freedom == freedom) =
      (own.filter fun s => s.freedom == freedom).map Slope.guarded := List.filter_map
  rw [change?, change?, along]
  cases own.filter fun s => s.freedom == freedom with
  | nil => rfl
  | cons s rest =>
    have slopes : ((s :: rest).map Slope.guarded).map Slope.slope =
        ((s :: rest).map Slope.slope).map inside := by
      rw [List.map_map, List.map_map]
      rfl
    rw [List.map_cons]
    dsimp only
    rw [← List.map_cons, slopes, sum_guarded]
    rfl

lemma applySlopes_guarded (damping : α) (e : Entity String α) (own : List (Slope String α)) :
    applySlopes (inside damping) e.guarded (own.map Slope.guarded) =
      (applySlopes damping e own).guarded := by
  by_cases pulled : own = []
  · rw [pulled]
    rfl
  · have pulled' : own.map Slope.guarded ≠ [] := pulled ∘ List.map_eq_nil_iff.mp
    have along (freedom : Freedom String) :
        ((change? damping own freedom).map inside).getD 0 =
          inside ((change? damping own freedom).getD 0) := by
      cases change? damping own freedom <;> rfl
    rw [applySlopes_eq damping e pulled, applySlopes_eq _ e.guarded pulled']
    simp only [change?_guarded, along]
    rw [Entity.moveTo_guarded e fun p => p.add_guarded ⟨_, _, _⟩]
    refine Entity.mapParameters_guarded _ fun name v => ?_
    cases change? damping own (.parameter name) <;> rfl

variable [Scalar.IsPlain α] [Scalar.HasDomains α]

/-- Surveys find the same slopes in guarded arithmetic. -/
lemma slopesFor_guarded [LawfulName ν] (entities : Snapshot ν α) (c : Constraint ν α) :
    slopesFor entities.guarded c = (slopesFor entities c).map Slope.guarded := by
  rw [slopesFor, slopesFor, c.residual_guarded, Residual.finite?_guarded]
  cases (c.residual entities).finite? with
  | none => rfl
  | some base =>
    rw [Option.map_some]
    dsimp only
    rw [List.map_flatMap]
    refine List.flatMap_congr fun id _ => ?_
    have found : entities.guarded id = (entities id).map Entity.guarded := rfl
    rw [found]
    cases entities id with
    | none => rfl
    | some e =>
      rw [Option.map_some]
      dsimp only
      rw [Entity.freedoms_guarded, List.map_filterMap]
      refine List.filterMap_congr fun freedom _ => ?_
      have size : (nudgeSize : Guarded α) = inside nudgeSize := rfl
      rw [size, e.nudge_guarded, entities.replace_guarded, c.residual_guarded,
        Residual.finite?_guarded, Option.map_map, Option.map_map]
      rfl

/-- The entities with guarded numbers. -/
def guarded (entities : Table ν (Entity ν α)) : Table ν (Entity ν (Guarded α)) :=
  entities.mapValues fun _ e => e.guarded

omit [Scalar α] [Scalar.IsPlain α] [Scalar.HasDomains α] in
lemma snapshot_guarded [LawfulName ν] (entities : Table ν (Entity ν α)) :
    snapshot (guarded entities) = (snapshot entities).guarded :=
  funext (Table.get?_mapValues entities _)

/-- A step in guarded arithmetic leads to where it leads with the numbers themselves. -/
lemma descend_guarded (damping : α) (plan : List (Constraint String α))
    (entities : Table String (Entity String α)) :
    descend (inside damping) plan (guarded entities) = guarded (descend damping plan entities) := by
  have found : slopes plan (guarded entities) = (slopes plan entities).map Slope.guarded := by
    rw [slopes_eq_flatMap, slopes_eq_flatMap, snapshot_guarded, List.map_flatMap]
    exact List.flatMap_congr fun c _ => slopesFor_guarded (snapshot entities) c
  have own (id : String) :
      ((slopes plan entities).map Slope.guarded).filter (fun s => s.entity == id) =
        ((slopes plan entities).filter fun s => s.entity == id).map Slope.guarded :=
    List.filter_map
  rw [descend_eq_mapValues, descend_eq_mapValues, found]
  simp only [guarded, Table.mapValues_mapValues, own, applySlopes_guarded]

variable [LawfulName ν]

/-- The root mean square of a plan is found without leaving the domain of the root. -/
lemma totalResidual_guarded (plan : List (Constraint ν α)) (entities : Table ν (Entity ν α)) :
    totalResidual plan (guarded entities) = (totalResidual plan entities).guarded := by
  rw [totalResidual, totalResidual, ← Residual.rootMeanSquare_guarded, List.map_map]
  simp only [snapshot_guarded, Constraint.residual_guarded, Function.comp_def]

/-! ### Solves -/

omit [LawfulName ν] [Scalar α] [Scalar.IsPlain α] [Scalar.HasDomains α] in
lemma keys_guarded (entities : Table ν (Entity ν α)) : (guarded entities).keys = entities.keys :=
  Table.keys_mapValues ..

/-- The iterate with guarded numbers. -/
def Iterate.guarded (i : Iterate ν α) : Iterate ν (Guarded α) :=
  ⟨Gradient.guarded i.entities, i.residual.guarded⟩

lemma Iterate.of_guarded (plan : List (Constraint ν α)) (entities : Table ν (Entity ν α)) :
    Iterate.of plan (Gradient.guarded entities) = (Iterate.of plan entities).guarded := by
  rw [Iterate.of, totalResidual_guarded]
  rfl

lemma Iterate.next_guarded (damping : α) (plan : List (Constraint String α))
    (i : Iterate String α) :
    i.guarded.next (inside damping) plan = (i.next damping plan).guarded := by
  have entities : i.guarded.entities = Gradient.guarded i.entities := rfl
  rw [next, next, entities, descend_guarded, of_guarded]

/-- The settings with guarded numbers. -/
def Settings.guarded (settings : Settings α) : Settings (Guarded α) :=
  ⟨settings.maxIterations, inside settings.tolerance, inside settings.damping⟩

lemma run_guarded (settings : Settings α) (plan : List (Constraint String α))
    (start : Iterate String α) :
    run settings.guarded plan start.guarded = (run settings plan start).map Iterate.guarded :=
  Iteration.trail_map (fun i => i.residual.isAtMost_guarded settings.tolerance)
    fun _ _ => Iterate.next_guarded settings.damping plan _

/-- The same constraints are in conflict, in the same order. -/
lemma worst_guarded (tolerance : α) (plan : List (Constraint ν α))
    (entities : Table ν (Entity ν α)) :
    worst (inside tolerance) plan (guarded entities) = worst tolerance plan entities := by
  have bound : (inside tolerance * conflictFactor : Guarded α) =
      inside (tolerance * conflictFactor) := rfl
  rw [worst_eq, worst_eq, exceeding, exceeding, bound]
  simp only [snapshot_guarded, Constraint.residual_guarded, Residual.exceeds_guarded,
    Residual.isLess_guarded]

/-- The solution with guarded numbers. -/
def Solution.guarded (solution : Solution ν α) : Solution ν (Guarded α) where
  success := solution.success
  history := solution.history.map Residual.guarded
  residual := solution.residual.guarded
  entities := Gradient.guarded solution.entities
  conflicts := solution.conflicts
  shortfall := solution.shortfall.map fun s =>
    ⟨inside s.tolerance, s.iterations, s.residual.guarded⟩
  diagnostics := solution.diagnostics

/-- A solve in guarded arithmetic comes to what it comes to with the numbers themselves. -/
theorem solve_guarded (settings : Settings α) (entities : Table String (Entity String α))
    (constraints : List (Constraint String α)) :
    solve settings.guarded (guarded entities) constraints =
      (solve settings entities constraints).guarded := by
  have keys := List.Perm.of_eq (keys_guarded entities)
  have planned := plan_congr keys constraints
  obtain nothing | some := eq_or_ne (plan entities constraints) []
  · rw [solve_eq_trivial (planned.trans nothing), solve_eq_trivial nothing, diagnose_congr keys]
    rfl
  · rw [solve_eq_ofRun (planned ▸ some), solve_eq_ofRun some, planned, diagnose_congr keys,
      Iterate.of_guarded, run_guarded]
    generalize plan entities constraints = plan
    generalize Iterate.of plan entities = start
    obtain ⟨last, reached⟩ : ∃ last, Iteration.last start (run settings plan start) = last :=
      ⟨_, rfl⟩
    have final : Iteration.last start.guarded ((run settings plan start).map Iterate.guarded) =
        last.guarded := by
      rw [← reached]
      exact List.getLastD_map
    have history : ((run settings plan start).map Iterate.guarded).map Iterate.residual =
        ((run settings plan start).map Iterate.residual).map Residual.guarded := by
      rw [List.map_map, List.map_map]
      rfl
    have done : last.guarded.isDone settings.guarded.tolerance = last.isDone settings.tolerance :=
      last.residual.isAtMost_guarded settings.tolerance
    have offending : worst settings.guarded.tolerance plan last.guarded.entities =
        worst settings.tolerance plan last.entities :=
      worst_guarded settings.tolerance plan last.entities
    simp only [Solution.ofRun, final, reached, history, done, offending, List.length_map]
    cases last.isDone settings.tolerance <;> rfl

end Gradient

end Drafting
