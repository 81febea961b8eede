import Drafting.Proofs.Plane.Planning
import Drafting.Proofs.Plane.Solving

/-!
# Unknowns that no constraint mentions

In exact arithmetic a drawing that has grown by unknowns that no constraint mentions is solved as
before: the view of a solution that the earlier unknowns give is the same
(`Drawing.GrowsTo.view_solve`). This asks of each step that the solver of its linear system finds
the same numbers with the further unknowns as without them. A system with more equations than
unknowns is solved in the sense of least squares, so it matters whether the further unknowns make up
for what it lacks (`Drawing.not_view_solve`).
-/

namespace Drafting.Plane

/-! ### Views -/

/-- What a solution tells, of its numbers only those of some unknowns. -/
structure View (α : Type) where
  success : Bool
  iterations : ℕ
  residual : α
  /-- The number of each of the unknowns, where there is one. -/
  values : List (Option α)
  diagnostics : Diagnostics α

/-- The view of a solution on the unknowns with some ids. -/
def Solution.view {α : Type} (ids : List String) (s : Solution String α) : View α :=
  ⟨s.success, s.iterations, s.residual, ids.map s.values.get?, s.diagnostics⟩

namespace Drawing

/-- The ids of the unknowns of a drawing. -/
def ids {α : Type} [Scalar α] (d : Drawing String α) : List String := d.unknowns.map d.board.idOf

/-! ### Steps -/

/-- That in no step of a solve `count` further unknowns change how the others are found. -/
def IsSteady (d : Drawing String ℝ) (count : ℕ) : Prop :=
  ∀ plan settings demands, d.StepsWith plan settings demands →
    ∀ k < (run settings demands (.of demands d.params)).length,
      Linear.IsSteady settings.pivotTolerance d.params.length count
        (((Iterate.next settings demands)^[k] (.of demands d.params)).system
          settings.epsilon demands)

/-- Steps with no more residuals than slots never tell how many further unknowns there are. -/
lemma isSteady_of_length_le {d : Drawing String ℝ}
    (few : ∀ plan demands, d.plan = .ok plan → d.demands plan = .ok demands →
      (Demand.allResiduals demands d.params).length ≤ d.params.length) (count : ℕ) :
    d.IsSteady count := by
  intro plan settings demands steps k _
  refine .inl ((Iterate.length_system_le _ _ _).trans ?_)
  rw [Demand.length_allResiduals demands _ d.params]
  exact few plan demands steps.plan_eq_ok steps.demands_eq_ok

/-- That the options that a step needs are numbers, the pivot tolerance positive and the width of
the differences not zero. -/
structure HasNumbers (d : Drawing String ℝ) : Prop where
  epsilon : ∃ x ≠ 0, d.options.epsilon.IsNumber x
  pivotTolerance : ∃ x > 0, d.options.pivotTolerance.IsNumber x
  damping : ∃ x, d.options.damping.IsNumber x

/-! ### Numbers by id -/

section

variable {d d' : Drawing String ℝ} {items : List Item} {extra : List ℝ}

lemma Extends.length_eq (extends_ : d.Extends d' items extra)
    (full : d.params.length = d.unknowns.length) : d'.params.length = d'.unknowns.length := by
  rw [extends_.params, extends_.unknowns, List.length_append, List.length_append, full,
    extends_.length]

/-- The numbers of the earlier unknowns come first. -/
lemma Extends.numbered_eq (extends_ : d.Extends d' items extra) (placed : d.IsPlaced)
    {params : List ℝ} (full : params.length = d.unknowns.length) :
    numbered { d' with params := params ++ extra } =
      numbered { d with params } ++
        (items.zip extra).map fun (item, x) => (d'.board.idOf item, x) := by
  have zipped : (d.unknowns ++ items).zip (params ++ extra) =
      d.unknowns.zip params ++ items.zip extra := List.zip_append full.symm
  rw [numbered, extends_.unknowns, zipped, List.map_append]
  refine congrArg (· ++ _) (List.map_congr_left fun (item, x) there => ?_)
  show (d'.board.idOf item, x) = (d.board.idOf item, x)
  rw [extends_.board.idOf_eq (placed.unknown item (List.of_mem_zip there).1)]

/-- The earlier unknowns are told the same numbers. -/
lemma Extends.get?_numbered (extends_ : d.Extends d' items extra) (placed : d.IsPlaced)
    {params : List ℝ} (full : params.length = d.unknowns.length) :
    d.ids.map (Table.ofList (numbered { d' with params := params ++ extra })).get? =
      d.ids.map (Table.ofList (numbered { d with params })).get? := by
  rw [extends_.numbered_eq placed full]
  refine List.map_congr_left fun id there => Table.get?_ofList_append _ fun among => ?_
  obtain ⟨entry, added, rfl⟩ := List.mem_map.mp among
  obtain ⟨⟨item, x⟩, zipped, rfl⟩ := List.mem_map.mp added
  exact extends_.free item (List.of_mem_zip zipped).1 there

/-! ### Solves -/

/-- What a run over more slots comes to is told of the earlier unknowns as without them. -/
lemma Extends.conclude_view (extends_ : d.Extends d' items extra) (placed : d.IsPlaced)
    (diagnostics : Diagnostics ℝ) (tolerance : ℝ) {start : Iterate ℝ} {iterates : List (Iterate ℝ)}
    (full : (Iteration.last start iterates).params.length = d.unknowns.length) :
    (d'.conclude diagnostics tolerance (start.withExtra extra)
        (iterates.map (Iterate.withExtra extra))).result.map (Solution.view d.ids) =
      (d.conclude diagnostics tolerance start iterates).result.map (Solution.view d.ids) := by
  let final := Iteration.last start iterates
  have last : Iteration.last (start.withExtra extra) (iterates.map (Iterate.withExtra extra)) =
      final.withExtra extra := List.getLastD_map
  have full' : d'.unknowns.length = (final.withExtra extra).params.length := by
    rw [extends_.unknowns, Iterate.withExtra, List.length_append, List.length_append,
      extends_.length, full]
  rw [conclude_of_full _ _ _ _ full.ge, conclude_of_full _ _ _ _ (last ▸ full'.le), last]
  refine congrArg Except.ok (View.mk.injEq .. ▸ ⟨rfl, ?_, rfl, ?_, rfl⟩)
  · show ((iterates.map (Iterate.withExtra extra)).map Iterate.norm).length =
      (iterates.map Iterate.norm).length
    rw [List.length_map, List.length_map, List.length_map]
  · exact extends_.get?_numbered placed full

/-- The settings of a solve do not tell how many slots there are. -/
lemma HasNumbers.exists_settings (numbers : d.HasNumbers) (cap : ℕ) (tolerance : ℝ)
    (start : Iterate ℝ) :
    ∃ settings : Settings ℝ, settings.maxIterations = cap ∧ settings.tolerance = tolerance ∧
      Settings.ofOptions d.options cap tolerance start = .ok settings ∧
      Settings.ofOptions d.options cap tolerance (start.withExtra extra) = .ok settings ∧
      ((cap = 0 ∨ start.isDone tolerance) ∨
        0 < settings.pivotTolerance ∧ ∃ damping, settings.damping = .uniform damping) := by
  obtain ⟨epsilon, -, epsilon_eq⟩ := numbers.epsilon
  obtain ⟨t, positive, pivotTolerance_eq⟩ := numbers.pivotTolerance
  obtain ⟨damping, damping_eq⟩ := numbers.damping
  have settled := Settings.ofOptions_eq_ok epsilon_eq pivotTolerance_eq damping_eq cap tolerance
  have same : (start.withExtra extra).isDone tolerance = start.isDone tolerance := rfl
  rw [settled, settled, same]
  by_cases idle : cap = 0 ∨ start.isDone tolerance
  · rw [if_pos idle]
    exact ⟨_, rfl, rfl, rfl, rfl, .inl idle⟩
  · rw [if_neg idle]
    exact ⟨_, rfl, rfl, rfl, rfl, .inr ⟨positive, damping, rfl⟩⟩

/-- Demands on the earlier slots are solved for as without the further ones. -/
lemma Extends.solveDemands_view (extends_ : d.Extends d' items extra) (placed : d.IsPlaced)
    (full : d.params.length = d.unknowns.length) (numbers : d.HasNumbers)
    (steady : d.IsSteady extra.length) {plan : Plan ℝ} (planned : d.plan = .ok plan)
    (busy : d.isIdle plan = false) {demands : List (Demand ℝ)}
    (made : d.demands plan = .ok demands) :
    (d'.solveDemands plan.diagnostics demands).result.map (Solution.view d.ids) =
      (d.solveDemands plan.diagnostics demands).result.map (Solution.view d.ids) := by
  have within := isWithin_of_demands_eq_ok made
  have full' := extends_.length_eq full
  have start : Iterate.of demands d'.params = (Iterate.of demands d.params).withExtra extra := by
    rw [extends_.params, Iterate.of_append within]
  rw [solveDemands, solveDemands, start, extends_.options]
  split
  · rfl
  · rw [Attempt.andThen, Attempt.andThen, commit_of_full full.ge, commit_of_full full'.ge]
    rfl
  · rfl
  · next cap tolerance cap_eq_ok bound_eq_ok =>
    obtain ⟨settings, rfl, rfl, settled, settled', steps⟩ :=
      numbers.exists_settings cap tolerance (.of demands d.params)
    rw [settled, settled', given, given]
    obtain idle | ⟨positive, damping, uniform⟩ := steps
    · -- no step is made, with the further slots or without
      have idle' : settings.maxIterations = 0 ∨
          ((Iterate.of demands d.params).withExtra extra).isDone settings.tolerance := idle
      rw [run_eq_nil idle, run_eq_nil idle']
      have stays : (Iteration.last (Iterate.of demands d.params) []).params.length =
          d.unknowns.length := full
      exact extends_.conclude_view placed _ _ stays
    · have steady := steady plan settings demands
        ⟨planned, busy, made, cap_eq_ok, bound_eq_ok, settled⟩
      rw [run_withExtra positive uniform within steady]
      refine extends_.conclude_view placed _ _ ?_
      rw [run, Iteration.last_trail, Iterate.length_params_iterate demands uniform]
      exact full

/-- A drawing that has grown is solved as before, so far as the earlier unknowns tell. -/
lemma Extends.solve_view (extends_ : d.Extends d' items extra) (placed : d.IsPlaced)
    (full : d.params.length = d.unknowns.length) (nonempty : d.params ≠ [])
    (numbers : d.HasNumbers) (steady : d.IsSteady extra.length) :
    d'.solve.result.map (Solution.view d.ids) = d.solve.result.map (Solution.view d.ids) := by
  rw [solve, solve, extends_.plan_eq placed]
  cases planned : d.plan with
  | error fault => rfl
  | ok plan =>
    have idle : d'.isIdle plan = d.isIdle plan := by
      have nonempty' := List.append_ne_nil_of_left_ne_nil nonempty extra
      rw [isIdle, isIdle, extends_.params, List.isEmpty_eq_false_iff.mpr nonempty,
        List.isEmpty_eq_false_iff.mpr nonempty']
    have full' := extends_.length_eq full
    rw [given, given, idle]
    cases busy : d.isIdle plan with
    | true =>
      have told := extends_.get?_numbered placed full
      rw [← extends_.params] at told
      rw [if_pos rfl, if_pos rfl, trivial, trivial, values_of_full full.ge, values_of_full full'.ge]
      exact congrArg (fun values => Except.ok (View.mk true 0 0 values plan.diagnostics)) told
    | false =>
      rw [extends_.demands_eq placed full planned]
      cases made : d.demands plan with
      | error fault => rfl
      | ok demands => exact extends_.solveDemands_view placed full numbers steady planned busy made

end

/-- Unknowns that no constraint mentions change nothing of what a solve tells of the others, as long
as they do not change how the linear systems of its steps are solved. -/
theorem GrowsTo.view_solve {d d' : Drawing String ℝ} (grows : d.GrowsTo d') (placed : d.IsPlaced)
    (nonempty : d.params ≠ []) (numbers : d.HasNumbers)
    (steady : d.IsSteady (d'.params.length - d.params.length)) :
    d'.solve.result.toOption.map (Solution.view d.ids) =
      d.solve.result.toOption.map (Solution.view d.ids) := by
  obtain ⟨items, extra, extends_⟩ := grows.extends
  have count : d'.params.length - d.params.length = extra.length := by
    rw [extends_.params, List.length_append, Nat.add_sub_cancel_left]
  -- a registration that failed half-way leaves an unknown without a number, and every solve fails
  obtain full | short := placed.params.eq_or_lt
  · have toOption_map (result : Except (Fault ℝ) (Solution String ℝ)) :
        result.toOption.map (Solution.view d.ids) =
          (result.map (Solution.view d.ids)).toOption := by
      cases result <;> rfl
    rw [toOption_map, toOption_map,
      extends_.solve_view placed full nonempty numbers (count ▸ steady)]
  · have short' : d'.params.length < d'.unknowns.length := by
      rw [extends_.params, extends_.unknowns, List.length_append, List.length_append,
        extends_.length]
      exact Nat.add_lt_add_right short _
    rw [solve_of_short short, solve_of_short short']

/-! ### A point to be fixed -/

/-- A drawing of one point with slots, whose constraints are some of two: that the point is at the
origin, and that it is above another place. On its board is an unknown that is not in use. -/
noncomputable def pinned (used : List Item) : Drawing String ℝ where
  options := ⟨.int 1, .real 0, .real 1, .real 0.5, .real 0.5⟩
  board :=
    { points := [⟨.real 1, .real 0, some "p", .flag false, []⟩,
        ⟨.real 2, .real 0, none, .flag false, []⟩]
      unknowns := [⟨"p.x", .real 1, .member .x, []⟩, ⟨"p.y", .real 0, .member .y, []⟩,
        ⟨"w", .real 0, .member .parameter, []⟩]
      constraints := [⟨.member .fixed, .references [.item (.point 0)],
          .tuple [.real 0, .real 0], .text "pin", .flag true, []⟩,
        ⟨.member .vertical, .references [.item (.point 0), .item (.point 1)],
          .null, .text "above", .flag true, []⟩] }
  unknowns := [.variable 0, .variable 1]
  slots := .ofList [("p.x", 0), ("p.y", 1)]
  params := [1, 0]
  points := .ofList [("p", .point 0)]
  constraints := used

section

variable {used : List Item} (among : ∀ item ∈ used, item = .constraint 0 ∨ item = .constraint 1)

include among

lemma refers_pinned {r : Reference ℝ} (referred : (pinned used).Refers r) :
    r = .item (.point 0) ∨ r = .item (.point 1) := by
  obtain ⟨item, there, content, references, count, refs, front, first⟩ := referred
  obtain rfl | rfl := among item there
  · cases references
    cases front
    have := List.mem_of_mem_take first
    exact .inl (List.mem_singleton.mp this)
  · cases references
    cases front
    have := List.mem_of_mem_take first
    simpa using this

lemma isPlaced_pinned : (pinned used).IsPlaced where
  unknown := by simp [pinned, Board.Holds]
  constraint item there := by
    obtain rfl | rfl := among item there
    · exact Nat.zero_lt_succ _
    · exact Nat.one_lt_succ_succ _
  reference place referred := by
    obtain same | same := refers_pinned among referred
    · cases same
      exact Nat.zero_lt_succ _
    · cases same
      exact Nat.one_lt_succ_succ _
  slots id slot found := by
    have there : (id, slot) ∈ [("p.x", 0), ("p.y", 1)] := Table.mem_of_get? found
    obtain ⟨-, rfl⟩ | ⟨-, rfl⟩ := by simpa using there
    · exact Nat.zero_lt_succ _
    · exact Nat.one_lt_succ_succ _
  params := le_refl _

lemma isFree_pinned : (pinned used).IsFree "w" := by
  have absent : "w" ∉ ["p.x", "p.y"] := by decide
  refine ⟨absent, fun point named => ?_⟩
  obtain ⟨r, referred, name⟩ := named
  obtain rfl | rfl := refers_pinned among referred
  · cases name
    constructor <;> decide
  · cases name

lemma growsTo_pinned : (pinned used).GrowsTo ((pinned used).withSlot "w" (.variable 2) 0) := by
  refine GrowsTo.register (.variable 2) .refl ?_ rfl
  refine List.forall_mem_singleton.mpr ⟨rfl, isFree_pinned among⟩

end

lemma hasNumbers_pinned : (pinned used).HasNumbers where
  epsilon := ⟨0.5, by norm_num, .real _⟩
  pivotTolerance := ⟨0.5, by norm_num, .real _⟩
  damping := ⟨1, .real 1⟩

lemma isSteady_pinned (count : ℕ) : (pinned [.constraint 0]).IsSteady count := by
  refine isSteady_of_length_le (fun plan demands planned made => ?_) count
  let row : Row ℝ := ⟨.text "pin", ⟨2, 1⟩, .constraint 0, [.slots 0 1]⟩
  have planned' : (pinned [.constraint 0]).plan = .ok [.planned row] := rfl
  obtain rfl := Except.ok.inj (planned.symm.trans planned')
  have made' : (pinned [.constraint 0]).demands [.planned row] =
      .ok [.fixed (.slots 0 1) (some (0, 0))] := rfl
  obtain rfl := Except.ok.inj (made.symm.trans made')
  exact le_refl 2

theorem pinned_view_solve :
    (pinned [.constraint 0]).GrowsTo ((pinned [.constraint 0]).withSlot "w" (.variable 2) 0) ∧
      ((pinned [.constraint 0]).withSlot "w" (.variable 2) 0).solve.result.toOption.map
          (Solution.view (pinned [.constraint 0]).ids) =
        (pinned [.constraint 0]).solve.result.toOption.map
          (Solution.view (pinned [.constraint 0]).ids) := by
  have among : ∀ item ∈ [Item.constraint 0], item = .constraint 0 ∨ item = .constraint 1 := by
    decide
  refine ⟨growsTo_pinned among, ?_⟩
  exact (growsTo_pinned among).view_solve (isPlaced_pinned among) (List.cons_ne_nil _ _)
    hasNumbers_pinned (isSteady_pinned _)

/-! ### Contradictions -/

/-- The demands of both constraints of the drawing, which contradict each other. -/
noncomputable def clash : List (Demand ℝ) :=
  [.fixed (.slots 0 1) (some (0, 0)), .vertical (.slots 0 1) (.constant 2 0)]

/-- The settings of the one step. -/
noncomputable def stride : Settings ℝ := ⟨1, 0, 0.5, 0.5, .uniform 1⟩

lemma allResiduals_clash : Demand.allResiduals clash [1, 0] = [1, 0, -1] := by
  norm_num [Demand.allResiduals, clash, Demand.residuals, Source.locate]

lemma jacobian_clash : Demand.jacobian 0.5 clash [1, 0] = [[1, 0], [0, 1], [1, 0]] := by
  simp [Demand.jacobian, clash, Demand.allResiduals, Demand.residuals, Source.locate, Demand.slopes,
    Demand.residualsAt, List.range_succ]
  norm_num

lemma isWithin_clash : ∀ demand ∈ clash, demand.IsWithin 2 := by
  simp [clash, Demand.IsWithin, Demand.sources, Source.IsWithin]

/-- Three equations for two unknowns are met in the mean. -/
lemma newtonStep_clash :
    Linear.newtonStep 0.5 2 [[1, 0], [0, 1], [1, 0]] [1, 0, -1] = ([0, 0] : List ℝ) := by
  have normal : Linear.normalEquations 2
      (Linear.stepEquations [[1, 0], [0, 1], [1, 0]] [1, 0, -1]) =
        ([⟨[2, 0], 0⟩, ⟨[0, 1], 0⟩] : List (Equation ℝ)) := by
    norm_num [Linear.normalEquations, Linear.stepEquations, Linear.coefficientsOf,
      List.range_succ, Linear.dot, Scalar.sum_eq_sum]
  show Linear.eliminate 0.5 2 (Linear.normalEquations 2 _) = [0, 0]
  rw [normal, Linear.eliminate_of_best, List.map_singleton, Linear.eliminate_of_best,
    List.map_nil, Linear.eliminate_zero]
  · norm_num [Equation.solveFirst, Equation.reduce, Equation.leading, Equation.eval,
      Equation.dropFirst, Linear.dot, Scalar.sum_eq_sum, Linear.subtract]
  · exact List.forall_mem_nil _
  · norm_num [Equation.reduce, Equation.leading, Linear.subtract]
  · norm_num [Equation.leading]
  · norm_num [Equation.leading]

/-- With a third unknown, which none of them has, the last of them is dropped. -/
lemma newtonStep_clash_pad :
    Linear.newtonStep 0.5 3 ([[1, 0], [0, 1], [1, 0]].map (· ++ List.replicate 1 0)) [1, 0, -1] =
      ([-1, 0, 0] : List ℝ) := by
  have equations : Linear.stepEquations [[1, 0], [0, 1], [1, 0]] [1, 0, -1] =
      ([⟨[1, 0], -1⟩, ⟨[0, 1], 0⟩, ⟨[1, 0], 1⟩] : List (Equation ℝ)) := by
    norm_num [Linear.stepEquations]
  have solved : Linear.eliminate 0.5 2 ([⟨[1, 0], -1⟩, ⟨[0, 1], 0⟩, ⟨[1, 0], 1⟩] :
      List (Equation ℝ)) = [-1, 0] := by
    rw [Linear.eliminate_of_best, List.map_cons, Linear.eliminate_of_best, Linear.eliminate_zero]
    · norm_num [Equation.solveFirst, Equation.reduce, Equation.leading, Equation.eval,
        Equation.dropFirst, Linear.dot, Scalar.sum_eq_sum, Linear.subtract]
    · norm_num [Equation.reduce, Equation.leading, Linear.subtract]
    · norm_num [Equation.reduce, Equation.leading, Linear.subtract]
    · norm_num [Equation.leading]
    · norm_num [Equation.leading]
  show Linear.eliminate 0.5 (2 + 1) (Linear.stepEquations _ _) = _
  rw [Linear.stepEquations_pad, equations, Linear.eliminate_map_pad (by norm_num), solved]
  · rfl
  · simp [Linear.HasWidth]

lemma next_clash : ((Iterate.of clash [1, 0]).next stride clash).params = [1, 0] := by
  have delta : (Iterate.of clash [1, 0]).delta stride clash = [0, 0] := by
    show Linear.newtonStep 0.5 2 (Demand.jacobian 0.5 clash [1, 0])
      (Demand.allResiduals clash [1, 0]) = [0, 0]
    rw [jacobian_clash, allResiduals_clash, newtonStep_clash]
  rw [Iterate.next, delta]
  norm_num [Iterate.of, stride, Linear.Gain.apply]

lemma next_clash_append :
    ((Iterate.of clash ([1, 0] ++ [0])).next stride clash).params = [0, 0, 0] := by
  have delta : (Iterate.of clash ([1, 0] ++ [0])).delta stride clash = [-1, 0, 0] := by
    show Linear.newtonStep 0.5 3 (Demand.jacobian 0.5 clash ([1, 0] ++ [0]))
      (Demand.allResiduals clash ([1, 0] ++ [0])) = [-1, 0, 0]
    rw [Demand.jacobian_append isWithin_clash, Demand.allResiduals_append isWithin_clash,
      jacobian_clash, allResiduals_clash]
    exact newtonStep_clash_pad
  rw [Iterate.next, delta]
  norm_num [Iterate.of, stride, Linear.Gain.apply]

lemma exists_solution_of_clash {d : Drawing String ℝ} {plan : Plan ℝ}
    (options : d.options = (pinned []).options) (planned : d.plan = .ok plan)
    (busy : d.isIdle plan = false) (made : d.demands plan = .ok clash)
    (residuals : Demand.allResiduals clash d.params = [1, 0, -1])
    {params : List ℝ} (full : d.unknowns.length = params.length)
    (moved : ((Iterate.of clash d.params).next stride clash).params = params) :
    ∃ s, d.solve.result = .ok s ∧ s.values = .ofList (numbered { d with params }) := by
  subst moved
  have away : ¬(Iterate.of clash d.params).isDone 0 := by
    have norm : (Iterate.of clash d.params).norm = √2 := by
      show Linear.norm (Demand.allResiduals clash d.params) = √2
      rw [residuals]
      norm_num [Linear.norm, Linear.dot, Scalar.sum_eq_sum, Scalar.sqrt]
    simp [Iterate.isDone, norm]
  have steps : d.StepsWith plan stride clash := by
    refine ⟨planned, busy, made, options ▸ rfl, options ▸ rfl, ?_⟩
    rw [options, Settings.ofOptions_eq_ok (.real 0.5) (.real 0.5) (.real 1)]
    exact congrArg Except.ok (if_neg (not_or.mpr ⟨one_ne_zero, away⟩))
  have reached : run stride clash (.of clash d.params) =
      [(Iterate.of clash d.params).next stride clash] := if_neg away
  rw [steps.solve_eq, reached, conclude_of_full _ _ _ _ full.le]
  exact ⟨_, rfl, rfl⟩

/-- Unknowns that no constraint mentions can change what a solve tells of the others: where they
make up for the unknowns that contradictory demands lack. -/
theorem not_view_solve :
    ¬∀ d d' : Drawing String ℝ, d.GrowsTo d' → d.IsPlaced → d.params ≠ [] → d.HasNumbers →
      (∃ plan, d.plan = .ok plan ∧ plan.rows ≠ []) →
      d'.solve.result.toOption.map (Solution.view d.ids) =
        d.solve.result.toOption.map (Solution.view d.ids) := by
  intro unchanged
  have among : ∀ item ∈ [Item.constraint 0, .constraint 1],
      item = .constraint 0 ∨ item = .constraint 1 := by decide
  have same := unchanged _ _ (growsTo_pinned among) (isPlaced_pinned among)
    (List.cons_ne_nil _ _) hasNumbers_pinned ⟨_, rfl, List.cons_ne_nil _ _⟩
  let d := pinned [.constraint 0, .constraint 1]
  obtain ⟨s, solved, values⟩ := exists_solution_of_clash (d := d) rfl rfl rfl rfl
    allResiduals_clash rfl next_clash
  have residuals : Demand.allResiduals clash ([1, 0] ++ [0]) = [1, 0, -1] :=
    (Demand.allResiduals_append isWithin_clash).trans allResiduals_clash
  obtain ⟨s', solved', values'⟩ := exists_solution_of_clash (d := d.withSlot "w" (.variable 2) 0)
    rfl rfl rfl rfl residuals rfl next_clash_append
  rw [solved, solved'] at same
  have values_eq : d.ids.map s'.values.get? = d.ids.map s.values.get? :=
    congrArg View.values (Option.some.inj same)
  rw [values, values'] at values_eq
  have told : [some 0, some 0] = [some (1 : ℝ), some 0] := values_eq
  exact zero_ne_one (Option.some.inj (List.head_eq_of_cons_eq told))

end Drawing

end Drafting.Plane
