import Drafting.Plane.Newton
import Drafting.Proofs.Iteration
import Drafting.Proofs.Linear.LeastSquares

/-!
# Slots that no demand reads

Demands on the first slots take no notice of slots that come after: neither do their residuals, and
their slopes along these are zero. So in exact arithmetic a run over more slots makes the same steps
as far as the solver of its linear systems is steady, and leaves the other slots as they are
(`run_withExtra`).
-/

namespace Drafting

/-! ### Factors -/

namespace Linear.Gain

variable {α : Type}

/-- There is a factor for each of `count` numbers. -/
def Covers (count : ℕ) : Gain α → Prop
  | uniform _ => True
  | each factors => count ≤ factors.length

lemma length_apply [Scalar α] {gain : Gain α} {xs : List α} (covers : gain.Covers xs.length) :
    (gain.apply xs).length = xs.length := by
  cases gain with
  | uniform factor => exact List.length_map _
  | each factors =>
    rw [apply, List.length_zipWith]
    exact Nat.min_eq_right covers

end Linear.Gain

namespace Plane

/-! ### Residuals -/

/-- Every slot that a point is found in is one of the first `count`. -/
def Source.IsWithin {α : Type} (count : ℕ) : Source α → Prop
  | slots x y => x < count ∧ y < count
  | constant _ _ => True

namespace Demand

/-- Where the points of a demand are found. -/
def sources : Demand ℝ → List (Source ℝ)
  | distance p q _ | horizontal p q | vertical p q | coincident p q => [p, q]
  | fixed p _ => [p]

/-- Every slot that a demand reads is one of the first `count`. -/
def IsWithin (count : ℕ) (d : Demand ℝ) : Prop := ∀ s ∈ d.sources, s.IsWithin count

end Demand

variable {params extra : List ℝ} {demands : List (Demand ℝ)} {epsilon : ℝ}

lemma Source.locate_append {s : Source ℝ} (within : s.IsWithin params.length) :
    s.locate (params ++ extra) = s.locate params := by
  cases s with
  | slots x y =>
    obtain ⟨insideX, insideY⟩ := within
    rw [locate, locate, List.getD_append _ _ _ _ insideX, List.getD_append _ _ _ _ insideY]
  | constant x y => rfl

namespace Demand

/-- Further slots are of no consequence for a demand. -/
lemma residuals_append {d : Demand ℝ} (within : d.IsWithin params.length) :
    d.residuals (params ++ extra) = d.residuals params := by
  have located : ∀ s ∈ d.sources, s.locate (params ++ extra) = s.locate params :=
    fun s there => Source.locate_append (within s there)
  cases d with
  | fixed p anchor => simp only [residuals, located p List.mem_cons_self]
  | distance p q goal | horizontal p q | vertical p q | coincident p q =>
    have first := located p List.mem_cons_self
    have second := located q (List.mem_cons_of_mem p List.mem_cons_self)
    simp only [residuals, first, second]

lemma allResiduals_append (within : ∀ d ∈ demands, d.IsWithin params.length) :
    allResiduals demands (params ++ extra) = allResiduals demands params :=
  List.flatMap_congr fun d there => residuals_append (within d there)

section

variable {α : Type} [Scalar α]

/-- How many residuals there are does not depend on the numbers in the slots. -/
lemma length_residuals (d : Demand α) (params params' : List α) :
    (d.residuals params).length = (d.residuals params').length := by
  cases d <;> rfl

lemma length_allResiduals (demands : List (Demand α)) (params params' : List α) :
    (allResiduals demands params).length = (allResiduals demands params').length := by
  have single (d : Demand α) := length_residuals d params params'
  rw [allResiduals, allResiduals, List.length_flatMap, List.length_flatMap, funext single]

lemma length_of_mem_jacobian {epsilon : α} {demands : List (Demand α)} {params : List α} :
    ∀ row ∈ jacobian epsilon demands params, row.length = params.length := by
  rw [jacobian]
  refine List.forall_mem_map.mpr fun row _ => ?_
  rw [List.length_map, List.length_map, List.length_range]

end

/-! ### Slopes -/

/-- The slopes along a slot that demands may read do not depend on further slots. -/
lemma slopes_append (within : ∀ d ∈ demands, d.IsWithin params.length) {slot : ℕ}
    (inside : slot < params.length) :
    slopes epsilon demands (params ++ extra) slot = slopes epsilon demands params slot := by
  have moved (x : ℝ) : residualsAt demands (params ++ extra) slot x =
      residualsAt demands params slot x := by
    rw [residualsAt, residualsAt, List.set_append_left _ _ inside, allResiduals_append]
    rwa [List.length_set]
  rw [slopes, slopes, moved, moved, List.getD_append _ _ _ _ inside]

/-- Along a slot whose number is of no consequence for the residuals, all slopes are zero. -/
lemma slopes_eq_zero {slot : ℕ} {residuals : List ℝ}
    (still : ∀ x, residualsAt demands params slot x = residuals) :
    ∀ x ∈ slopes epsilon demands params slot, x = 0 := by
  intro x there
  rw [slopes, still, still] at there
  obtain ⟨i, inside, rfl⟩ := List.getElem_of_mem there
  rw [List.getElem_zipWith, sub_self, zero_div]

/-- Along a slot that comes after those that demands read, all slopes are zero. -/
lemma slopes_append_eq_zero (within : ∀ d ∈ demands, d.IsWithin params.length) {slot : ℕ}
    (outside : params.length ≤ slot) :
    ∀ x ∈ slopes epsilon demands (params ++ extra) slot, x = 0 := by
  have still (x : ℝ) : residualsAt demands (params ++ extra) slot x =
      allResiduals demands params := by
    rw [residualsAt, List.set_append_right _ _ outside, allResiduals_append within]
  exact slopes_eq_zero still

/-- Slots that no demand reads are further columns of zeros. -/
lemma jacobian_append (within : ∀ d ∈ demands, d.IsWithin params.length) :
    jacobian epsilon demands (params ++ extra) =
      (jacobian epsilon demands params).map (· ++ List.replicate extra.length 0) := by
  have columns : (List.range (params ++ extra).length).map
      (slopes epsilon demands (params ++ extra)) =
        (List.range params.length).map (slopes epsilon demands params) ++
          ((List.range extra.length).map (params.length + ·)).map
            (slopes epsilon demands (params ++ extra)) := by
    rw [List.length_append, List.range_add, List.map_append]
    refine congrArg (· ++ _) (List.map_congr_left fun slot there => ?_)
    exact slopes_append within (List.mem_range.mp there)
  have zeros (row : ℕ) : (((List.range extra.length).map (params.length + ·)).map
      (slopes epsilon demands (params ++ extra))).map (fun column => column.getD row 0) =
        List.replicate extra.length 0 := by
    rw [List.eq_replicate_iff]
    refine ⟨by simp, ?_⟩
    refine List.forall_mem_map.mpr (List.forall_mem_map.mpr (List.forall_mem_map.mpr ?_))
    intro slot _
    exact Linear.getD_of_forall_eq_zero (slopes_append_eq_zero within (Nat.le_add_right _ slot)) row
  simp only [jacobian, columns, allResiduals_append within, List.map_append, zeros]
  rw [List.map_map]
  rfl

end Demand

/-! ### Steps -/

lemma zipWith_add_replicate (xs : List ℝ) :
    List.zipWith (· + ·) xs (List.replicate xs.length 0) = xs := by
  induction xs with
  | nil => rfl
  | cons x rest ih =>
    rw [List.length_cons, List.replicate_succ, List.zipWith_cons_cons, ih, add_zero]

/-- An iterate over more slots. -/
def Iterate.withExtra (extra : List ℝ) (i : Iterate ℝ) : Iterate ℝ :=
  ⟨i.params ++ extra, i.residuals⟩

namespace Iterate

/-- The linear system of a step. -/
noncomputable def system (epsilon : ℝ) (demands : List (Demand ℝ)) (i : Iterate ℝ) :
    List (Equation ℝ) :=
  Linear.stepEquations (Demand.jacobian epsilon demands i.params) i.residuals

lemma length_system_le (epsilon : ℝ) (demands : List (Demand ℝ)) (i : Iterate ℝ) :
    (i.system epsilon demands).length ≤ (Demand.allResiduals demands i.params).length := by
  have rows : (Demand.jacobian epsilon demands i.params).length =
      (Demand.allResiduals demands i.params).length := by
    rw [Demand.jacobian, List.length_map, List.length_range]
  rw [system, Linear.stepEquations, List.length_zipWith, rows]
  exact Nat.min_le_left _ _

lemma of_append (within : ∀ d ∈ demands, d.IsWithin params.length) :
    Iterate.of demands (params ++ extra) = (Iterate.of demands params).withExtra extra := by
  rw [Iterate.of, Demand.allResiduals_append within]
  rfl

section

variable {α : Type} [Scalar α] {settings : Settings α} {damping : α}

lemma length_delta (settings : Settings α) (demands : List (Demand α)) (i : Iterate α) :
    (i.delta settings demands).length = i.params.length :=
  Linear.length_newtonStep _ _ _ _

lemma length_params_next_of_covers (settings : Settings α) (demands : List (Demand α))
    {i : Iterate α} (covers : settings.damping.Covers i.params.length) :
    (i.next settings demands).params.length = i.params.length := by
  rw [← length_delta settings demands i] at covers
  rw [next, Iterate.of, List.length_zipWith, Linear.Gain.length_apply covers, length_delta,
    Nat.min_self]

lemma length_params_iterate_of_covers (demands : List (Demand α)) {i : Iterate α}
    (covers : settings.damping.Covers i.params.length) (count : ℕ) :
    ((Iterate.next settings demands)^[count] i).params.length = i.params.length := by
  induction count with
  | zero => rfl
  | succ n ih =>
    rw [Function.iterate_succ_apply', length_params_next_of_covers _ _ (ih ▸ covers), ih]

/-- A step changes no number of slots. -/
lemma length_params_next (settings : Settings α) (demands : List (Demand α)) (i : Iterate α)
    (uniform : settings.damping = .uniform damping) :
    (i.next settings demands).params.length = i.params.length := by
  apply length_params_next_of_covers
  rw [uniform]
  exact True.intro

lemma length_params_iterate (demands : List (Demand α)) {i : Iterate α}
    (uniform : settings.damping = .uniform damping) (count : ℕ) :
    ((Iterate.next settings demands)^[count] i).params.length = i.params.length := by
  apply length_params_iterate_of_covers
  rw [uniform]
  exact True.intro

end

variable {settings : Settings ℝ} {damping : ℝ} {i : Iterate ℝ}

/-- A step over more slots is the same on the first ones and leaves the others as they are, where
the linear system is solved in the same way. -/
lemma next_withExtra (positive : 0 < settings.pivotTolerance)
    (uniform : settings.damping = .uniform damping)
    (within : ∀ d ∈ demands, d.IsWithin i.params.length)
    (steady : Linear.IsSteady settings.pivotTolerance i.params.length extra.length
      (i.system settings.epsilon demands)) :
    (i.withExtra extra).next settings demands = (i.next settings demands).withExtra extra := by
  have delta : (i.withExtra extra).delta settings demands =
      i.delta settings demands ++ List.replicate extra.length 0 := by
    rw [Iterate.delta, withExtra, List.length_append, Demand.jacobian_append within]
    exact Linear.newtonStep_pad positive Demand.length_of_mem_jacobian steady
  have kept : (i.next settings demands).params =
      List.zipWith (· + ·) i.params ((i.delta settings demands).map (damping * ·)) := by
    rw [next, uniform]
    rfl
  have moved : List.zipWith (· + ·) (i.params ++ extra)
      ((i.delta settings demands ++ List.replicate extra.length 0).map (damping * ·)) =
        (i.next settings demands).params ++ extra := by
    rw [List.map_append, List.map_replicate, mul_zero, List.zipWith_append, zipWith_add_replicate,
      kept]
    rw [List.length_map, length_delta]
  rw [next, delta, uniform, Linear.Gain.apply, withExtra, moved, of_append]
  · rw [kept, next, uniform]
    rfl
  · rwa [length_params_next settings demands i uniform]

end Iterate

/-- A run over more slots makes the same steps on the first ones and leaves the others as they are,
where every linear system is solved in the same way. -/
theorem run_withExtra {settings : Settings ℝ} {damping : ℝ} {start : Iterate ℝ}
    (positive : 0 < settings.pivotTolerance) (uniform : settings.damping = .uniform damping)
    (within : ∀ d ∈ demands, d.IsWithin start.params.length)
    (steady : ∀ count < (run settings demands start).length,
      Linear.IsSteady settings.pivotTolerance start.params.length extra.length
        (((Iterate.next settings demands)^[count] start).system settings.epsilon demands)) :
    run settings demands (start.withExtra extra) =
      (run settings demands start).map (Iterate.withExtra extra) := by
  refine Iteration.trail_map (fun _ => rfl) fun count inside => ?_
  have length : ((Iterate.next settings demands)^[count] start).params.length =
      start.params.length := Iterate.length_params_iterate demands uniform count
  apply Iterate.next_withExtra positive uniform
  · rwa [length]
  · rw [length]
    exact steady count inside

end Plane

end Drafting
