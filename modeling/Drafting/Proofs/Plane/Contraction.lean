import Drafting.Proofs.Plane.Linear
import Drafting.Proofs.Plane.Soundness

/-!
# Contraction of linear sketches

Where no demand is on a distance and some numbers meet all demands, every step of a solve leaves the
same share over of each residual: in exact arithmetic, one minus the damping
(`allResiduals_paramsAfter`). So a solve that makes `k` steps multiplies the residuals by the `k`th
power of it (`Drawing.IsConsistent.isContracted`).
-/

namespace Drafting.Plane

/-! ### Lengths -/

lemma norm_map_mul (factor : ℝ) (xs : List ℝ) :
    Linear.norm (xs.map (factor * ·)) = |factor| * Linear.norm xs := by
  have squares : ((xs.map (factor * ·)).map (· ^ 2)).sum = factor ^ 2 * (xs.map (· ^ 2)).sum := by
    rw [List.map_map, ← List.sum_map_mul_left]
    refine congrArg List.sum (List.map_congr_left fun x _ => ?_)
    exact mul_pow factor x 2
  rw [norm_eq_sqrt_sum, norm_eq_sqrt_sum, squares, Real.sqrt_mul (sq_nonneg factor),
    Real.sqrt_sq_eq_abs]

/-- Where each list is the same multiple of the one before, they are powers of it times the
first. -/
lemma map_pow_mul_of_forall_lt {f : ℕ → List ℝ} {factor : ℝ} {steps : ℕ}
    (step : ∀ k < steps, f (k + 1) = (f k).map (factor * ·)) :
    f steps = (f 0).map (factor ^ steps * ·) := by
  induction steps with
  | zero => simp only [pow_zero, one_mul, List.map_id']
  | succ k ih =>
    have before := ih fun j early => step j (Nat.lt_succ_of_lt early)
    rw [step k (Nat.lt_succ_self k), before, List.map_map]
    refine List.map_congr_left fun x _ => ?_
    rw [Function.comp_apply, pow_succ', mul_assoc]

/-! ### Steps -/

section

variable {settings : Settings ℝ} {damping : ℝ} {demands : List (Demand ℝ)} {params : List ℝ}

/-- That every best pivot that a step from these numbers meets is zero or at least the tolerance. -/
def IsDecisiveAt (settings : Settings ℝ) (demands : List (Demand ℝ)) (params : List ℝ) : Prop :=
  Linear.IsDecisive settings.pivotTolerance params.length
    (Linear.stepSystem params.length (Demand.jacobian settings.epsilon demands params)
      (Demand.allResiduals demands params))

/-- That numbers meet all demands. -/
def Meets (demands : List (Demand ℝ)) (params : List ℝ) : Prop :=
  ∀ x ∈ Demand.allResiduals demands params, x = 0

lemma params_next (uniform : settings.damping = .uniform damping) (demands : List (Demand ℝ))
    (params : List ℝ) :
    ((Iterate.of demands params).next settings demands).params =
      List.zipWith (· + ·) params ((Linear.newtonStep settings.pivotTolerance params.length
        (Demand.jacobian settings.epsilon demands params)
        (Demand.allResiduals demands params)).map (damping * ·)) := by
  rw [Iterate.next, uniform]
  rfl

variable (uniform : settings.damping = .uniform damping) (apart : settings.epsilon ≠ 0)
  (positive : 0 < settings.pivotTolerance) (linear : ∀ d ∈ demands, d.IsLinear)
  {goal : List ℝ} (same : goal.length = params.length) (met : Meets demands goal)

include uniform apart positive linear same met

/-- A step leaves the same share over of each residual. -/
lemma allResiduals_next (decisive : IsDecisiveAt settings demands params) :
    Demand.allResiduals demands ((Iterate.of demands params).next settings demands).params =
      (Demand.allResiduals demands params).map ((1 - damping) * ·) := by
  have kept := Iterate.length_params_next settings demands (.of demands params) uniform
  have solution : Linear.IsSolution (Demand.equations params.length demands) goal := by
    rw [Meets, Demand.allResiduals_eq_excess linear, same] at met
    exact Linear.isSolution_iff_excess_eq_zero.mpr met
  -- on the equations of the demands, the step is one towards the numbers that meet them
  rw [IsDecisiveAt, Demand.jacobian_eq linear apart,
    Demand.allResiduals_eq_excess linear] at decisive
  rw [Demand.allResiduals_eq_excess linear, kept, params_next uniform,
    Demand.jacobian_eq linear apart, Demand.allResiduals_eq_excess linear]
  exact Linear.excess_newtonStep positive (Demand.hasWidth_equations _ demands) rfl same solution
    decisive damping

lemma allResiduals_paramsAfter_succ {k : ℕ}
    (decisive : IsDecisiveAt settings demands (paramsAfter settings demands params k)) :
    Demand.allResiduals demands (paramsAfter settings demands params (k + 1)) =
      (Demand.allResiduals demands (paramsAfter settings demands params k)).map
        ((1 - damping) * ·) := by
  have long := length_paramsAfter uniform demands params k
  rw [paramsAfter, Function.iterate_succ_apply', iterate_next]
  exact allResiduals_next uniform apart positive linear (same.trans long.symm) met decisive

/-- Steps leave a power of that share over. -/
theorem allResiduals_paramsAfter {steps : ℕ}
    (decisive : ∀ k < steps,
      IsDecisiveAt settings demands (paramsAfter settings demands params k)) :
    Demand.allResiduals demands (paramsAfter settings demands params steps) =
      (Demand.allResiduals demands params).map ((1 - damping) ^ steps * ·) := by
  refine map_pow_mul_of_forall_lt
    (f := fun k => Demand.allResiduals demands (paramsAfter settings demands params k))
    fun k early => ?_
  exact allResiduals_paramsAfter_succ uniform apart positive linear same met (decisive k early)

end

/-- A run tells how long the residuals are after each of its steps. -/
lemma map_norm_run (settings : Settings ℝ) (demands : List (Demand ℝ)) (params : List ℝ) :
    (run settings demands (.of demands params)).map Iterate.norm =
      (List.range (run settings demands (.of demands params)).length).map fun k =>
        Linear.norm <| Demand.allResiduals demands <|
          paramsAfter settings demands params (k + 1) := by
  conv_lhs => rw [run, Iteration.trail_eq_map_range, List.map_map]
  refine List.map_congr_left fun k _ => ?_
  rw [Function.comp_apply, iterate_next]
  rfl

/-! ### Solves -/

namespace Drawing

/-- A drawing with something to solve for, without rows for distances, and numbers that meet all
demands. -/
structure IsConsistent (d : Drawing String ℝ) (plan : Plan ℝ) (demands : List (Demand ℝ)) :
    Prop where
  planned : d.plan = .ok plan
  made : d.demands plan = .ok demands
  nonempty : d.params ≠ []
  usable : plan.rows ≠ []
  /-- All other rows are for points that are level, upright, coincident or fixed. -/
  straight : ∀ row ∈ plan.rows, d.board.relation row.constraint ≠ .ok (.member .distance)
  solvable : ∃ goal, goal.length = d.params.length ∧ Meets demands goal

/-- That a solve makes `steps` steps, each of which leaves the same share over of each residual. -/
structure IsContracted (d : Drawing String ℝ) (settings : Settings ℝ) (damping : ℝ)
    (demands : List (Demand ℝ)) (steps : ℕ) : Prop where
  step : ∀ k < steps, Demand.allResiduals demands (paramsAfter settings demands d.params (k + 1)) =
    (Demand.allResiduals demands (paramsAfter settings demands d.params k)).map
      ((1 - damping) * ·)
  power : ∀ k ≤ steps, Demand.allResiduals demands (paramsAfter settings demands d.params k) =
    (Demand.allResiduals demands d.params).map ((1 - damping) ^ k * ·)
  /-- The numbers in the slots are those after the last step. -/
  reached : d.solve.drawing.params = paramsAfter settings demands d.params steps
  /-- There is a solution, which tells of every step, unless an unknown has no number. -/
  solved : d.unknowns.length ≤ d.params.length → ∃ solution, d.solve.result = .ok solution ∧
    solution.history = (List.range steps).map fun k =>
      |1 - damping| ^ (k + 1) * Linear.norm (Demand.allResiduals demands d.params)

variable {d : Drawing String ℝ} {plan : Plan ℝ} {demands : List (Demand ℝ)}

lemma IsConsistent.busy (consistent : d.IsConsistent plan demands) : d.isIdle plan = false := by
  rw [isIdle, List.isEmpty_eq_false_iff.mpr consistent.nonempty,
    List.isEmpty_eq_false_iff.mpr consistent.usable]
  rfl

/-- A solve of a consistent drawing, whose pivots are decisive, contracts the residuals. -/
theorem IsConsistent.isContracted (consistent : d.IsConsistent plan demands)
    {settings : Settings ℝ} (isOf : settings.IsOf d.options) {damping : ℝ}
    (uniform : settings.damping = .uniform damping) (apart : settings.epsilon ≠ 0)
    (positive : 0 < settings.pivotTolerance)
    (decisive : ∀ k < (run settings demands (.of demands d.params)).length,
      IsDecisiveAt settings demands (paramsAfter settings demands d.params k)) :
    d.IsContracted settings damping demands
      (run settings demands (.of demands d.params)).length := by
  have linear := isLinear_of_demands_eq_ok consistent.made consistent.straight
  obtain ⟨goal, same, met⟩ := consistent.solvable
  have solve_eq := solve_of_isOf isOf consistent.planned consistent.busy consistent.made
  have power {k : ℕ} (inside : k ≤ (run settings demands (.of demands d.params)).length) :
      Demand.allResiduals demands (paramsAfter settings demands d.params k) =
        (Demand.allResiduals demands d.params).map ((1 - damping) ^ k * ·) := by
    apply allResiduals_paramsAfter uniform apart positive linear same met
    exact fun j early => decisive j (early.trans_le inside)
  constructor
  case step =>
    intro k inside
    exact allResiduals_paramsAfter_succ uniform apart positive linear same met (decisive k inside)
  case power => exact fun k => power
  case reached =>
    rw [solve_eq, params_conclude, last_run]
    rfl
  case solved =>
    intro full
    have last : d.unknowns.length ≤ (Iteration.last (.of demands d.params)
        (run settings demands (.of demands d.params))).params.length := by
      rw [length_params_of_isOf isOf]
      exact full
    refine ⟨_, by rw [solve_eq, conclude_of_full _ _ _ _ last], ?_⟩
    refine (map_norm_run settings demands d.params).trans (List.map_congr_left fun k inside => ?_)
    rw [power (List.mem_range.mp inside), norm_map_mul, abs_pow]

/-- A point with slots that is to be at the origin for two constraints: it is to coincide with a
point there, and to be fixed there. -/
noncomputable def redundant : Drawing String ℝ where
  options := ⟨.int 3, .real 0.1, .real 0.5, .real 1, .real 1⟩
  board :=
    { points := [⟨.real 1, .real 1, some "p", .flag false, []⟩,
        ⟨.real 0, .real 0, none, .flag false, []⟩]
      unknowns := [⟨"p.x", .real 1, .member .x, []⟩, ⟨"p.y", .real 1, .member .y, []⟩]
      constraints := [⟨.member .coincident, .references [.item (.point 0), .item (.point 1)],
          .null, .text "meet", .flag true, []⟩,
        ⟨.member .fixed, .references [.item (.point 0)],
          .tuple [.real 0, .real 0], .text "pin", .flag true, []⟩] }
  unknowns := [.variable 0, .variable 1]
  slots := .ofList [("p.x", 0), ("p.y", 1)]
  params := [1, 1]
  points := .ofList [("p", .point 0)]
  constraints := [.constraint 0, .constraint 1]

/-- The settings of steps that go half of the way. -/
noncomputable def halving : Settings ℝ := ⟨3, 0.1, 1, 1, .uniform 0.5⟩

noncomputable def twice : List (Demand ℝ) :=
  [.coincident (.slots 0 1) (.constant 0 0), .fixed (.slots 0 1) (some (0, 0))]

lemma isConsistent_redundant : redundant.IsConsistent
    [.planned ⟨.text "meet", ⟨2, 2⟩, .constraint 0, [.slots 0 1, .constant 0 0]⟩,
      .planned ⟨.text "pin", ⟨2, 1⟩, .constraint 1, [.slots 0 1]⟩] twice where
  planned := rfl
  made := rfl
  nonempty := List.cons_ne_nil _ _
  usable := List.cons_ne_nil _ _
  straight row there := by
    obtain rfl | rfl : _ ∨ _ := by simpa [Plan.rows] using there
    all_goals simp [redundant, Board.relation, Board.ofConstraint]
  solvable := ⟨[0, 0], rfl, by
    simp [Meets, twice, Demand.allResiduals, Demand.residuals, Source.locate]⟩

/-- A step of a point that is to be in two places. -/
lemma isDecisiveAt_of_places {x y : ℝ} {params : List ℝ} (two : params.length = 2) :
    IsDecisiveAt halving
      [.coincident (.slots 0 1) (.constant 0 0), .fixed (.slots 0 1) (some (x, y))] params := by
  obtain ⟨a, b, rfl⟩ := List.length_eq_two.mp two
  let demands : List (Demand ℝ) :=
    [.coincident (.slots 0 1) (.constant 0 0), .fixed (.slots 0 1) (some (x, y))]
  have linear : ∀ d ∈ demands, d.IsLinear := by simp [demands, Demand.IsLinear]
  have jacobian : Demand.jacobian halving.epsilon demands [a, b] =
      [[1, 0], [0, 1], [1, 0], [0, 1]] := by
    rw [Demand.jacobian_eq linear (by norm_num [halving])]
    simp [Demand.equations, demands, Demand.pairs, Source.pairs, meeting, Source.coordinates,
      Coordinate.slope, List.range_succ]
  have residuals : Demand.allResiduals demands [a, b] = [a, b, a - x, b - y] := by
    simp [Demand.allResiduals, demands, Demand.residuals, Source.locate]
  have normal : Linear.normalEquations 2
      (Linear.stepEquations [[1, 0], [0, 1], [1, 0], [0, 1]] [a, b, a - x, b - y]) =
        [⟨[2, 0], -a + (x - a)⟩, ⟨[0, 2], -b + (y - b)⟩] := by
    norm_num [Linear.normalEquations, Linear.stepEquations, Linear.coefficientsOf,
      List.range_succ, Linear.dot, Scalar.sum_eq_sum]
  rw [IsDecisiveAt, jacobian, residuals]
  show Linear.IsDecisive 1 2 (Linear.normalEquations 2 _)
  rw [normal]
  refine Linear.isDecisive_of_best ?_ ?_ (Linear.isDecisive_of_best ?_ ?_ True.intro) <;>
    norm_num [Equation.leading, Equation.reduce, Linear.subtract]

lemma isDecisiveAt_paramsAfter_twice (k : ℕ) :
    IsDecisiveAt halving twice (paramsAfter halving twice [1, 1] k) := by
  apply isDecisiveAt_of_places
  have uniform : halving.damping = .uniform 0.5 := rfl
  exact length_paramsAfter uniform twice [1, 1] k

/-- All three steps are made, as they leave an eighth of each residual, and a tenth would do. -/
lemma length_run_twice : (run halving twice (.of twice [1, 1])).length = 3 := by
  let steps := (run halving twice (.of twice [1, 1])).length
  have most : steps ≤ 3 := Iteration.length_trail_le _ _ _ _
  obtain ⟨goal, same, met⟩ := isConsistent_redundant.solvable
  have residuals : Demand.allResiduals twice (paramsAfter halving twice [1, 1] steps) =
      (Demand.allResiduals twice [1, 1]).map ((1 - 0.5) ^ steps * ·) := by
    refine allResiduals_paramsAfter rfl ?_ ?_ ?_ same met fun k _ =>
      isDecisiveAt_paramsAfter_twice k
    · norm_num [halving]
    · norm_num [halving]
    · simp [twice, Demand.IsLinear]
  have there : (1 - 0.5) ^ steps ∈
      Demand.allResiduals twice (paramsAfter halving twice [1, 1] steps) := by
    rw [residuals]
    simp [twice, Demand.allResiduals, Demand.residuals, Source.locate]
  have share : (1 - 0.5 : ℝ) ^ 3 ≤ (1 - 0.5) ^ steps :=
    pow_le_pow_of_le_one (by norm_num) (by norm_num) most
  have long : (0.1 : ℝ) < Linear.norm
      (Demand.allResiduals twice (paramsAfter halving twice [1, 1] steps)) := by
    calc (0.1 : ℝ) < (1 - 0.5) ^ 3 := by norm_num
      _ ≤ (1 - 0.5) ^ steps := share
      _ ≤ |(1 - 0.5) ^ steps| := le_abs_self _
      _ ≤ _ := abs_le_norm there
  refine Iteration.length_trail_of_not_done ?_
  show Iterate.isDone 0.1 ((Iterate.next halving twice)^[steps] (.of twice [1, 1])) = false
  rw [iterate_next]
  exact decide_eq_false (not_le_of_gt long)

theorem redundant_isContracted :
    redundant.IsConsistent
        [.planned ⟨.text "meet", ⟨2, 2⟩, .constraint 0, [.slots 0 1, .constant 0 0]⟩,
          .planned ⟨.text "pin", ⟨2, 1⟩, .constraint 1, [.slots 0 1]⟩] twice ∧
      halving.IsOf redundant.options ∧
      (∀ k, IsDecisiveAt halving twice (paramsAfter halving twice redundant.params k)) ∧
      redundant.IsContracted halving 0.5 twice 3 := by
  have isOf : halving.IsOf redundant.options :=
    ⟨rfl, rfl, rfl, rfl, 0.5, rfl, gain_eq_ok (.real _)⟩
  refine ⟨isConsistent_redundant, isOf, isDecisiveAt_paramsAfter_twice, ?_⟩
  rw [← length_run_twice]
  exact isConsistent_redundant.isContracted isOf rfl (by norm_num [halving])
    (by norm_num [halving]) fun k _ => isDecisiveAt_paramsAfter_twice k

end Drawing

end Drafting.Plane
