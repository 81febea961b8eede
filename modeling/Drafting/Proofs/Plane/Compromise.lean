import Drafting.Proofs.Plane.Contraction

/-!
# Compromises of linear sketches

Where no demand is on a distance and there are more residuals than numbers, a step goes by least
squares. Whether or not the demands can be met together, it leaves the same share over of what the
transposed slopes make of the residuals: in exact arithmetic, one minus the damping
(`pull_paramsAfter_succ`). The product is zero where the sum of squares of the residuals is least,
so that a solve approaches the numbers that meet the demands best
(`Drawing.IsOverdetermined.isCompromise`).
-/

namespace Drafting.Plane

/-! ### Steps -/

/-- The product of the transposed slopes at some numbers with the residuals at others. It is half of
the gradient of the sum of squares of the residuals. -/
noncomputable def pull (settings : Settings ℝ) (demands : List (Demand ℝ))
    (params params' : List ℝ) : List ℝ :=
  Linear.transposeMul params.length (Demand.jacobian settings.epsilon demands params)
    (Demand.allResiduals demands params')

section

variable {settings : Settings ℝ} {damping : ℝ} {demands : List (Demand ℝ)} {params : List ℝ}
  (apart : settings.epsilon ≠ 0) (linear : ∀ d ∈ demands, d.IsLinear)

include apart linear

/-- The slopes are the same everywhere. -/
lemma jacobian_of_length_eq {params' : List ℝ} (same : params'.length = params.length) :
    Demand.jacobian settings.epsilon demands params' =
      Demand.jacobian settings.epsilon demands params := by
  rw [Demand.jacobian_eq linear apart, Demand.jacobian_eq linear apart, same]

variable (uniform : settings.damping = .uniform damping) (positive : 0 < settings.pivotTolerance)
  (many : params.length < (Demand.allResiduals demands params).length)

include uniform positive many

/-- A step leaves the same share over of the pull of the residuals. -/
lemma pull_next (decisive : IsDecisiveAt settings demands params) :
    pull settings demands params
        ((Iterate.of demands params).next settings demands).params =
      (pull settings demands params params).map ((1 - damping) * ·) := by
  have kept := Iterate.length_params_next settings demands (.of demands params) uniform
  have count : (Demand.allResiduals demands params).length =
      (Demand.equations params.length demands).length := by
    rw [Demand.allResiduals_eq_excess linear, Linear.excess, List.length_map]
  rw [IsDecisiveAt, Demand.jacobian_eq linear apart,
    Demand.allResiduals_eq_excess linear] at decisive
  rw [pull, pull, Demand.jacobian_eq linear apart, Demand.allResiduals_eq_excess linear, kept,
    Demand.allResiduals_eq_excess linear, params_next uniform, Demand.jacobian_eq linear apart,
    Demand.allResiduals_eq_excess linear]
  exact Linear.transposeMul_excess_newtonStep positive (Demand.hasWidth_equations _ demands) rfl
    (count ▸ many) decisive damping

lemma pull_paramsAfter_succ {k : ℕ}
    (decisive : IsDecisiveAt settings demands (paramsAfter settings demands params k)) :
    pull settings demands params (paramsAfter settings demands params (k + 1)) =
      (pull settings demands params (paramsAfter settings demands params k)).map
        ((1 - damping) * ·) := by
  have long := length_paramsAfter uniform demands params k
  have step := pull_next apart linear uniform positive
    (by rwa [long, Demand.length_allResiduals demands _ params]) decisive
  -- the slopes that the step is made with are those at the start
  rw [pull, pull, long, jacobian_of_length_eq apart linear long] at step
  rw [pull, pull, ← step, paramsAfter, Function.iterate_succ_apply', iterate_next]

/-- Steps leave a power of that share over. -/
lemma pull_paramsAfter {steps : ℕ}
    (decisive : ∀ k < steps,
      IsDecisiveAt settings demands (paramsAfter settings demands params k)) :
    pull settings demands params (paramsAfter settings demands params steps) =
      (pull settings demands params params).map ((1 - damping) ^ steps * ·) := by
  refine map_pow_mul_of_forall_lt
    (f := fun k => pull settings demands params (paramsAfter settings demands params k))
    fun k early => ?_
  exact pull_paramsAfter_succ apart linear uniform positive many (decisive k early)

end

/-! ### Solves -/

namespace Drawing

/-- A drawing with something to solve for, without rows for distances, and more residuals than
numbers. -/
structure IsOverdetermined (d : Drawing String ℝ) (plan : Plan ℝ) (demands : List (Demand ℝ)) :
    Prop where
  planned : d.plan = .ok plan
  made : d.demands plan = .ok demands
  nonempty : d.params ≠ []
  /-- All rows are for points that are level, upright, coincident or fixed. -/
  straight : ∀ row ∈ plan.rows, d.board.relation row.constraint ≠ .ok (.member .distance)
  many : d.params.length < (Demand.allResiduals demands d.params).length

/-- That a solve makes `steps` steps, each of which leaves the same share over of the pull of the
residuals, with the same slopes everywhere. -/
structure IsCompromise (d : Drawing String ℝ) (settings : Settings ℝ) (damping : ℝ)
    (demands : List (Demand ℝ)) (steps : ℕ) : Prop where
  constant : ∀ params, params.length = d.params.length →
    Demand.jacobian settings.epsilon demands params =
      Demand.jacobian settings.epsilon demands d.params
  step : ∀ k < steps,
    pull settings demands d.params (paramsAfter settings demands d.params (k + 1)) =
      (pull settings demands d.params (paramsAfter settings demands d.params k)).map
        ((1 - damping) * ·)
  power : ∀ k ≤ steps,
    pull settings demands d.params (paramsAfter settings demands d.params k) =
      (pull settings demands d.params d.params).map ((1 - damping) ^ k * ·)
  /-- The numbers in the slots are those after the last step. -/
  reached : d.solve.drawing.params = paramsAfter settings demands d.params steps
  /-- There is a solution, which tells of every step, unless an unknown has no number. -/
  solved : d.unknowns.length ≤ d.params.length →
    ∃ solution, d.solve.result = .ok solution ∧ solution.iterations = steps

variable {d : Drawing String ℝ} {plan : Plan ℝ} {demands : List (Demand ℝ)}

lemma IsOverdetermined.busy (strained : d.IsOverdetermined plan demands) :
    d.isIdle plan = false := by
  have usable : plan.rows ≠ [] := by
    intro none
    obtain rfl : demands = [] := by
      have made := strained.made
      rw [Drawing.demands, none] at made
      exact (Except.ok.inj made).symm
    exact absurd strained.many (Nat.not_lt_zero _)
  rw [isIdle, List.isEmpty_eq_false_iff.mpr strained.nonempty, List.isEmpty_eq_false_iff.mpr usable]
  rfl

/-- A solve of an overdetermined drawing, whose pivots are decisive, approaches a compromise. -/
theorem IsOverdetermined.isCompromise (strained : d.IsOverdetermined plan demands)
    {settings : Settings ℝ} (isOf : settings.IsOf d.options) {damping : ℝ}
    (uniform : settings.damping = .uniform damping) (apart : settings.epsilon ≠ 0)
    (positive : 0 < settings.pivotTolerance)
    (decisive : ∀ k < (run settings demands (.of demands d.params)).length,
      IsDecisiveAt settings demands (paramsAfter settings demands d.params k)) :
    d.IsCompromise settings damping demands
      (run settings demands (.of demands d.params)).length := by
  have linear := isLinear_of_demands_eq_ok strained.made strained.straight
  have solve_eq := solve_of_isOf isOf strained.planned strained.busy strained.made
  constructor
  case constant => exact fun params same => jacobian_of_length_eq apart linear same
  case step =>
    intro k inside
    exact pull_paramsAfter_succ apart linear uniform positive strained.many (decisive k inside)
  case power =>
    intro k inside
    apply pull_paramsAfter apart linear uniform positive strained.many
    exact fun j early => decisive j (early.trans_le inside)
  case reached =>
    rw [solve_eq, params_conclude, last_run]
    rfl
  case solved =>
    intro full
    have last : d.unknowns.length ≤ (Iteration.last (.of demands d.params)
        (run settings demands (.of demands d.params))).params.length := by
      rw [length_params_of_isOf isOf]
      exact full
    refine ⟨_, by rw [solve_eq, conclude_of_full _ _ _ _ last], ?_⟩
    exact List.length_map _

/-- The point of `redundant`, which is to be fixed a unit away from where it is to be for the
other constraint. -/
noncomputable def contradictory : Drawing String ℝ :=
  { redundant with
    board :=
      { redundant.board with
        constraints := [⟨.member .coincident, .references [.item (.point 0), .item (.point 1)],
            .null, .text "meet", .flag true, []⟩,
          ⟨.member .fixed, .references [.item (.point 0)],
            .tuple [.real 1, .real 0], .text "pin", .flag true, []⟩] } }

noncomputable def torn : List (Demand ℝ) :=
  [.coincident (.slots 0 1) (.constant 0 0), .fixed (.slots 0 1) (some (1, 0))]

lemma isOverdetermined_contradictory : contradictory.IsOverdetermined
    [.planned ⟨.text "meet", ⟨2, 2⟩, .constraint 0, [.slots 0 1, .constant 0 0]⟩,
      .planned ⟨.text "pin", ⟨2, 1⟩, .constraint 1, [.slots 0 1]⟩] torn where
  planned := rfl
  made := rfl
  nonempty := List.cons_ne_nil _ _
  straight row there := by
    obtain rfl | rfl : _ ∨ _ := by simpa [Plan.rows] using there
    all_goals simp [contradictory, Board.relation, Board.ofConstraint]
  many := by
    show 2 < 4
    decide

/-- All steps are made, as the point is always half a unit away from one of the two places. -/
lemma length_run_torn : (run halving torn (.of torn [1, 1])).length = 3 := by
  let steps := (run halving torn (.of torn [1, 1])).length
  have two : (paramsAfter halving torn [1, 1] steps).length = 2 := by
    have uniform : halving.damping = .uniform 0.5 := rfl
    exact length_paramsAfter uniform torn [1, 1] steps
  obtain ⟨x, y, reached⟩ := List.length_eq_two.mp two
  have residuals : Demand.allResiduals torn [x, y] = [x, y, x - 1, y] := by
    simp [Demand.allResiduals, torn, Demand.residuals, Source.locate]
  have first : |x| ≤ Linear.norm [x, y, x - 1, y] := abs_le_norm (by simp)
  have second : |x - 1| ≤ Linear.norm [x, y, x - 1, y] := abs_le_norm (by simp)
  have sum : 1 ≤ |x| + |x - 1| := by
    have between := abs_sub x (x - 1)
    norm_num at between
    linarith
  refine Iteration.length_trail_of_not_done ?_
  show Iterate.isDone 0.1 ((Iterate.next halving torn)^[steps] (.of torn [1, 1])) = false
  rw [iterate_next, reached, Iterate.isDone]
  refine decide_eq_false (not_le_of_gt ?_)
  show (0.1 : ℝ) < Linear.norm (Demand.allResiduals torn [x, y])
  rw [residuals]
  linarith

theorem contradictory_isCompromise :
    contradictory.IsOverdetermined
        [.planned ⟨.text "meet", ⟨2, 2⟩, .constraint 0, [.slots 0 1, .constant 0 0]⟩,
          .planned ⟨.text "pin", ⟨2, 1⟩, .constraint 1, [.slots 0 1]⟩] torn ∧
      halving.IsOf contradictory.options ∧
      (∀ k, IsDecisiveAt halving torn (paramsAfter halving torn contradictory.params k)) ∧
      contradictory.IsCompromise halving 0.5 torn 3 := by
  have isOf : halving.IsOf contradictory.options :=
    ⟨rfl, rfl, rfl, rfl, 0.5, rfl, gain_eq_ok (.real _)⟩
  have decisive (k : ℕ) :
      IsDecisiveAt halving torn (paramsAfter halving torn contradictory.params k) := by
    apply isDecisiveAt_of_places
    have uniform : halving.damping = .uniform 0.5 := rfl
    exact length_paramsAfter uniform torn [1, 1] k
  refine ⟨isOverdetermined_contradictory, isOf, decisive, ?_⟩
  rw [← length_run_torn]
  exact isOverdetermined_contradictory.isCompromise isOf rfl (by norm_num [halving])
    (by norm_num [halving]) fun k _ => decisive k

end Drawing

end Drafting.Plane
