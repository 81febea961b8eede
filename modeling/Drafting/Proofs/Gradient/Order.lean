import Drafting.Proofs.Gradient.Conflicts
import Drafting.Proofs.Gradient.Frame
import Mathlib.Data.List.Perm.Basic

/-!
# The order of entities and constraints

Entities are found by id, so their order shows in nothing but the order in which a solution holds
them. The order of constraints shows in the order in which slopes and squares are added up, which
is of no consequence in exact arithmetic, and in which of two conflicts that are equally far from
holding is named first. Two plans that pull alike, whatever the entities are, lead from entities in
any order to solutions that are the same up to order (`solve_isReordered`).
-/

namespace Drafting

/-! ### Residuals in any order -/

namespace Residual

lemma addSquare_right_comm (total r s : Residual ℝ) :
    (total.addSquare r).addSquare s = (total.addSquare s).addSquare r := by
  cases total <;> cases r <;> cases s <;>
    simp [addSquare, isUndefined_eq_false, add_right_comm]

/-- A root mean square does not depend on the order of the residuals. -/
lemma rootMeanSquare_of_perm {rs rs' : List (Residual ℝ)} (perm : rs.Perm rs') :
    rootMeanSquare rs = rootMeanSquare rs' := by
  have squares : sumOfSquares rs = sumOfSquares rs' :=
    perm.foldl_eq' (fun r _ s _ total => addSquare_right_comm total r s) _
  rw [rootMeanSquare_eq_map, rootMeanSquare_eq_map, squares, perm.length_eq]

lemma isDefined (r : Residual ℝ) : r.IsDefined := by
  cases r with
  | infeasible => trivial
  | measured x => exact le_refl x

/-- Residuals neither of which is less than the other are equal. -/
lemma eq_of_not_isLess {r s : Residual ℝ} (first : (!r.isLess s) = true)
    (second : (!s.isLess r) = true) : r = s := by
  cases r with
  | infeasible =>
    cases s with
    | infeasible => rfl
    | measured y => simp [isLess, Scalar.isFinite] at second
  | measured x =>
    cases s with
    | infeasible => simp [isLess, Scalar.isFinite] at first
    | measured y =>
      simp only [isLess, Bool.not_eq_true', decide_eq_false_iff_not, not_lt] at first second
      rw [le_antisymm second first]

/-- Residuals are sorted in the same way whatever order they come in. -/
lemma mergeSort_of_perm {rs rs' : List (Residual ℝ)} (perm : rs.Perm rs') :
    rs.mergeSort (fun r s => !r.isLess s) = rs'.mergeSort fun r s => !r.isLess s := by
  have trans (r s t : Residual ℝ) : (!r.isLess s) = true → (!s.isLess t) = true →
      (!r.isLess t) = true := not_isLess_trans s.isDefined
  have sorted (rs : List (Residual ℝ)) :=
    List.pairwise_mergeSort trans (not_isLess_total (α := ℝ)) rs
  refine List.Perm.eq_of_pairwise (fun r s _ _ => eq_of_not_isLess) (sorted rs) (sorted rs') ?_
  exact (List.mergeSort_perm rs _).trans (perm.trans (List.mergeSort_perm rs' _).symm)

end Residual

variable {ν τ α : Type} [Name ν]

namespace Gradient

/-! ### Slopes in any order -/

/-- The change along a freedom depends on the slopes by what they add up to, in any order. -/
lemma change?_of_perm {own own' : List (Slope ν ℝ)} (perm : own.Perm own') (damping : ℝ)
    (freedom : Freedom ν) : change? damping own freedom = change? damping own' freedom := by
  have along := perm.filter fun s => s.freedom == freedom
  have sums := (along.map Slope.slope).sum_eq
  rw [← Scalar.sum_eq_sum, ← Scalar.sum_eq_sum] at sums
  rw [change?, change?]
  cases found : own.filter fun s => s.freedom == freedom with
  | nil =>
    rw [found] at along
    rw [← along.nil_eq]
  | cons s rest =>
    cases found' : own'.filter fun s => s.freedom == freedom with
    | nil =>
      rw [found, found'] at along
      cases along.eq_nil
    | cons s' rest' =>
      rw [found, found'] at sums
      simp only [sums]

lemma applySlopes_of_perm {own own' : List (Slope ν ℝ)} (perm : own.Perm own') (damping : ℝ)
    (e : Entity ν ℝ) : applySlopes damping e own = applySlopes damping e own' := by
  have changes : change? damping own = change? damping own' :=
    funext (change?_of_perm perm damping)
  have wordless : applyWordless damping own = applyWordless damping own' := by
    funext e name
    rw [applyWordless, applyWordless, changes]
  rw [applySlopes, applySlopes, perm.isEmpty_eq, changes, wordless]

/-! ### Steps and runs -/

section

variable [Scalar τ] [Scalar α] [Component τ α]

/-- Plans that pull alike: whatever the entities are, a step moves each of them in the same way, and
the residual is the same. -/
structure PullAlike (damping : τ) (plan plan' : List (Constraint ν α)) : Prop where
  empty : plan = [] ↔ plan' = []
  step : ∀ (entities : Snapshot ν τ) (id : ν) (e : Entity ν τ),
    applySlopes damping e ((plan.flatMap (slopesFor entities)).filter fun s => s.entity == id) =
      applySlopes damping e ((plan'.flatMap (slopesFor entities)).filter fun s => s.entity == id)
  residual : ∀ entities : Snapshot ν τ,
    Residual.rootMeanSquare (plan.map fun c => c.residual entities) =
      Residual.rootMeanSquare (plan'.map fun c => c.residual entities)

lemma PullAlike.refl (damping : τ) (plan : List (Constraint ν α)) : PullAlike damping plan plan :=
  ⟨Iff.rfl, fun _ _ _ => rfl, fun _ => rfl⟩

/-- In exact arithmetic, plans of the same constraints pull alike in whatever order. -/
lemma pullAlike_of_perm {plan plan' : List (Constraint ν ℝ)} (perm : plan.Perm plan')
    (damping : ℝ) : PullAlike damping plan plan' where
  empty := ⟨fun nothing => (nothing ▸ perm).nil_eq.symm, fun nothing => (nothing ▸ perm).eq_nil⟩
  step entities _ e :=
    applySlopes_of_perm ((perm.flatMap_right (slopesFor entities)).filter _) damping e
  residual _ := Residual.rootMeanSquare_of_perm (perm.map _)

/-- Iterates that are the same but for the order of the entities. -/
structure Iterate.IsReordered (i i' : Iterate ν τ) : Prop where
  entities : i.entities.entries.Perm i'.entities.entries
  residual : i.residual = i'.residual

/-- Solutions that are the same but for the order of the entities, for what they leave out of
account and for conflicts. -/
structure Solution.IsReordered (solution solution' : Solution ν τ) : Prop where
  success : solution.success = solution'.success
  history : solution.history = solution'.history
  residual : solution.residual = solution'.residual
  entities : solution.entities.entries.Perm solution'.entities.entries
  shortfall : solution.shortfall = solution'.shortfall

omit [Scalar τ] in
/-- Solutions that are the same but for the order of the entities are the same but for the
entities. -/
lemma Solution.IsReordered.eq_of {solution solution' : Solution ν τ}
    (reordered : solution.IsReordered solution')
    (conflicts : solution'.conflicts = solution.conflicts)
    (diagnostics : solution'.diagnostics = solution.diagnostics) :
    solution' = { solution with entities := solution'.entities } := by
  cases solution
  cases solution'
  obtain ⟨rfl, rfl, rfl, -, rfl⟩ := reordered
  cases conflicts
  cases diagnostics
  rfl

variable [LawfulName ν]

omit [Scalar τ] in
lemma snapshot_of_perm {entities entities' : Table ν (Entity ν τ)}
    (perm : entities.entries.Perm entities'.entries) : snapshot entities = snapshot entities' :=
  funext (Table.get?_eq_of_perm perm)

omit [Scalar τ] [Component τ α] in
lemma plan_of_perm {entities entities' : Table ν (Entity ν τ)}
    (perm : entities.entries.Perm entities'.entries) (constraints : List (Constraint ν α)) :
    plan entities constraints = plan entities' constraints :=
  plan_congr (perm.map Prod.fst) constraints

omit [Scalar τ] [Component τ α] in
lemma diagnose_of_perm {entities entities' : Table ν (Entity ν τ)}
    (perm : entities.entries.Perm entities'.entries) (constraints : List (Constraint ν α)) :
    diagnose entities constraints = diagnose entities' constraints :=
  diagnose_congr (perm.map Prod.fst) constraints

variable {damping : τ} {plan plan' : List (Constraint ν α)} (alike : PullAlike damping plan plan')

include alike

lemma PullAlike.of {entities entities' : Table ν (Entity ν τ)}
    (perm : entities.entries.Perm entities'.entries) :
    (Iterate.of plan entities).IsReordered (.of plan' entities') where
  entities := perm
  residual := by
    show totalResidual plan entities = totalResidual plan' entities'
    rw [totalResidual, totalResidual, snapshot_of_perm perm]
    exact alike.residual _

variable [Scalar.IsPlain τ]

/-- A step keeps entities the same up to order. -/
lemma PullAlike.next {i i' : Iterate ν τ} (reordered : i.IsReordered i') :
    (i.next damping plan).IsReordered (i'.next damping plan') := by
  refine alike.of ?_
  have moved : (fun id e => applySlopes damping e
      ((slopes plan i.entities).filter fun s => s.entity == id)) =
        fun id e => applySlopes damping e
          ((slopes plan' i'.entities).filter fun s => s.entity == id) := by
    funext id e
    rw [slopes_eq_flatMap, slopes_eq_flatMap, snapshot_of_perm reordered.entities]
    exact alike.step _ id e
  rw [descend_eq_mapValues, descend_eq_mapValues, moved]
  exact reordered.entities.map _

end

/-! ### Solves -/

section

variable [Scalar τ] [Scalar.IsPlain τ] [Scalar α] [Component τ α] [LawfulName ν]
  {settings : Settings τ} {entities entities' : Table ν (Entity ν τ)}
  {constraints constraints' : List (Constraint ν α)}

/-- Plans that pull alike lead from the same entities to the same solution, whatever the order in
which these come. -/
theorem solve_isReordered
    (alike : PullAlike settings.damping (plan entities constraints) (plan entities' constraints'))
    (perm : entities.entries.Perm entities'.entries) :
    (solve settings entities constraints).IsReordered
      (solve settings entities' constraints') := by
  by_cases nothing : plan entities constraints = []
  · rw [solve_eq_trivial nothing, solve_eq_trivial (alike.empty.mp nothing)]
    exact ⟨rfl, rfl, rfl, perm, rfl⟩
  · rw [solve_eq_ofRun nothing, solve_eq_ofRun (nothing ∘ alike.empty.mpr)]
    generalize plan entities constraints = plan at alike
    generalize Gradient.plan entities' constraints' = plan' at alike
    have start := alike.of perm
    have done (i i' : Iterate ν τ) (reordered : i.IsReordered i') :
        i.isDone settings.tolerance = i'.isDone settings.tolerance := by
      rw [Iterate.isDone, Iterate.isDone, reordered.residual]
    have iterates : List.Forall₂ Iterate.IsReordered (run settings plan (.of plan entities))
        (run settings plan' (.of plan' entities')) :=
      Iteration.trail_related done (fun _ _ => alike.next) start
    have final := Iteration.last_related iterates start
    constructor
    case success => exact done _ _ final
    case history =>
      rw [← List.forall₂_eq_eq_eq]
      exact List.forall₂_map_left_iff.mpr <| List.forall₂_map_right_iff.mpr <|
        iterates.imp fun i i' reordered => reordered.residual
    case residual => exact final.residual
    case entities => exact final.entities
    case shortfall =>
      simp only [Solution.ofRun, done _ _ final, final.residual, iterates.length_eq]

end

/-! ### Conflicts -/

section

variable [Scalar τ] [Scalar α] [Component τ α]

/-- The residuals of the constraints that a solution names as conflicts, in their order. -/
def Solution.conflictResiduals (solution : Solution ν τ) (constraints : Table ν (Constraint ν α)) :
    Option (List (Option (Residual τ))) :=
  solution.conflicts.map fun ids => ids.map fun id =>
    (constraints.get? id).map fun c => c.residual (snapshot solution.entities)

/-- The residuals of the worst offenders of a plan are the greatest that count as conflicts. -/
lemma residuals_worst {plan : List (Constraint ν α)} {constraints : Table ν (Constraint ν α)}
    (own : ∀ c ∈ plan, constraints.get? c.id = some c) (tolerance : τ)
    (entities : Table ν (Entity ν τ)) :
    (worst tolerance plan entities).map (fun id =>
        (constraints.get? id).map fun c => c.residual (snapshot entities)) =
      ((((plan.map fun c => c.residual (snapshot entities)).filter fun r =>
        r.exceeds (tolerance * conflictFactor)).mergeSort fun r s => !r.isLess s).take
          maxConflicts).map some := by
  have residuals : ((plan.map fun c => c.residual (snapshot entities)).filter fun r =>
      r.exceeds (tolerance * conflictFactor)) =
        (exceeding (tolerance * conflictFactor) plan (snapshot entities)).map fun c =>
          c.residual (snapshot entities) := List.filter_map ..
  have sorted : ((exceeding (tolerance * conflictFactor) plan (snapshot entities)).mergeSort
        fun c d => !(c.residual (snapshot entities)).isLess (d.residual (snapshot entities))).map
          (fun c => c.residual (snapshot entities)) =
      ((exceeding (tolerance * conflictFactor) plan (snapshot entities)).map fun c =>
        c.residual (snapshot entities)).mergeSort fun r s => !r.isLess s :=
    List.map_mergeSort fun _ _ _ _ => rfl
  rw [worst_eq, residuals, ← sorted, ← List.map_take, List.map_map, List.map_map]
  refine List.map_congr_left fun c there => ?_
  have exceeds := List.mem_mergeSort.mp (List.mem_of_mem_take there)
  dsimp only [Function.comp]
  rw [own c (List.mem_of_mem_filter exceeds)]
  rfl

end

/-- In exact arithmetic, the residuals of the worst offenders do not depend on the order of the
plan. -/
lemma residuals_worst_of_perm {plan plan' : List (Constraint ν ℝ)}
    {constraints constraints' : Table ν (Constraint ν ℝ)}
    (own : ∀ c ∈ plan, constraints.get? c.id = some c)
    (own' : ∀ c ∈ plan', constraints'.get? c.id = some c) (perm : plan.Perm plan') (tolerance : ℝ)
    {entities entities' : Table ν (Entity ν ℝ)} (same : snapshot entities = snapshot entities') :
    (worst tolerance plan entities).map (fun id =>
        (constraints.get? id).map fun c => c.residual (snapshot entities)) =
      (worst tolerance plan' entities').map fun id =>
        (constraints'.get? id).map fun c => c.residual (snapshot entities') := by
  rw [residuals_worst own, residuals_worst own', same]
  rw [Residual.mergeSort_of_perm ((perm.map _).filter _)]

end Gradient

end Drafting
