import Drafting.Plane.Solution
import Drafting.Proofs.Iteration
import Drafting.Proofs.Plane.Board

/-!
# Solves of drawings

What a solve tells once its steps are made: the numbers that it has come to, by id. A drawing that
has fewer numbers than unknowns, as after a registration that failed half-way, cannot be solved
(`Drawing.solve_of_short`).
-/

namespace Drafting.Plane

variable {ν α : Type} [Name ν]

/-! ### Numbers by id -/

namespace Drawing

variable [Named ν α] {d : Drawing ν α} {params : List α}

lemma commit_of_short (short : params.length < d.unknowns.length) :
    (d.commit params).result = .error (.noSlot params.length params.length) := by
  rw [commit, writeBack, if_pos short]
  rfl

lemma commit_of_full (full : d.unknowns.length ≤ params.length) :
    d.commit params = (writePoints (writeVariables { d with params })).done := by
  rw [commit, writeBack, if_neg (Nat.not_lt_of_le full)]

lemma numbered_writeVariables (d : Drawing ν α) : d.writeVariables.numbered = d.numbered :=
  List.map_congr_left fun (item, x) _ => by
    show (d.writeVariables.board.idOf item, x) = (d.board.idOf item, x)
    rw [idOf_writeVariables]

/-- Numbers that are written back are told under the ids that their unknowns had before. -/
lemma numbered_written (d : Drawing ν α) : d.writeVariables.writePoints.numbered = d.numbered := by
  rw [← d.numbered_writeVariables]
  refine List.map_congr_left fun (item, x) _ => ?_
  show (d.writeVariables.writePoints.board.idOf item, x) = (d.writeVariables.board.idOf item, x)
  rw [idOf_writePoints]

lemma params_commit (d : Drawing ν α) (params : List α) :
    (d.commit params).drawing.params = params := by
  rw [commit, writeBack]
  split <;> rfl

lemma numbered_commit (d : Drawing ν α) (params : List α) :
    (d.commit params).drawing.numbered = numbered { d with params } := by
  rw [commit, writeBack]
  split
  · exact numbered_writeVariables _
  · exact numbered_written _

variable [LawfulName ν]

lemma values_of_short (short : d.params.length < d.unknowns.length) :
    d.values = .error (.noSlot d.params.length d.params.length) := by
  rw [values, Name.requireAll_eq_ok, if_pos short]
  rfl

lemma values_of_full (full : d.unknowns.length ≤ d.params.length) :
    d.values = .ok (.ofList d.numbered) := by
  rw [values, Name.requireAll_eq_ok, if_neg (Nat.not_lt_of_le full)]
  rfl

end Drawing

/-! ### Runs -/

variable [Scalar α]

/-- A step makes no new numbers. -/
lemma Iterate.length_params_next_le (settings : Settings α) (demands : List (Demand α))
    (i : Iterate α) : (i.next settings demands).params.length ≤ i.params.length :=
  List.length_zipWith ▸ Nat.min_le_left _ _

lemma length_params_run_le (settings : Settings α) (demands : List (Demand α))
    (start : Iterate α) :
    (Iteration.last start (run settings demands start)).params.length ≤ start.params.length := by
  have kept (count : ℕ) :
      ((Iterate.next settings demands)^[count] start).params.length ≤ start.params.length := by
    induction count with
    | zero => exact Nat.le_refl _
    | succ n ih =>
      rw [Function.iterate_succ_apply']
      exact (Iterate.length_params_next_le settings demands _).trans ih
  rw [run, Iteration.last_trail]
  exact kept _

/-- A run that is not to start, or is done where it starts, makes no steps. -/
lemma run_eq_nil {settings : Settings α} {demands : List (Demand α)} {start : Iterate α}
    (idle : settings.maxIterations = 0 ∨ start.isDone settings.tolerance) :
    run settings demands start = [] := by
  rw [run]
  cases cap : settings.maxIterations with
  | zero => rfl
  | succ n =>
    rw [cap] at idle
    rw [Iteration.trail, if_pos (idle.resolve_left n.succ_ne_zero)]

/-! ### Settings -/

section

variable {v : Value α} {x : α}

lemma term_eq_ok (counts : v.CountsAs x) : Linear.term v = .ok x := by
  cases counts with
  | flag inRange | int inRange => exact Value.ofIntOrFault_eq_ok inRange
  | real x => rfl

lemma leastPivot_eq_ok (counts : v.CountsAs x) : Linear.leastPivot v = .ok x := by
  cases counts with
  | flag inRange | int inRange => exact Value.ofIntOrFault_eq_ok inRange
  | real x => rfl

lemma gain_eq_ok (counts : v.CountsAs x) (count : ℕ) :
    Linear.Gain.ofValue count v = .ok (.uniform x) := by
  cases counts with
  | flag inRange | int inRange =>
    exact congrArg (Except.map _) (Value.ofIntOrFault_eq_ok inRange)
  | real x => rfl

end

/-- Options settle the steps, unless none is made. -/
lemma Settings.ofOptions_of_uniform {o : NewtonOptions α} {epsilon pivotTolerance damping : α}
    (term_eq : Linear.term o.epsilon = .ok epsilon)
    (pivot_eq : Linear.leastPivot o.pivotTolerance = .ok pivotTolerance)
    (gain_eq : ∀ count, Linear.Gain.ofValue count o.damping = .ok (.uniform damping))
    (maxIterations : ℕ) (tolerance : α) (start : Iterate α) :
    Settings.ofOptions o maxIterations tolerance start =
      .ok (if maxIterations = 0 ∨ start.isDone tolerance then
        ⟨maxIterations, tolerance, 0, 0, .uniform 0⟩
      else ⟨maxIterations, tolerance, epsilon, pivotTolerance, .uniform damping⟩) := by
  rw [ofOptions]
  split
  · rfl
  · rw [term_eq, pivot_eq, gain_eq]
    rfl

/-- Options that are numbers settle the steps, unless none is made. -/
lemma Settings.ofOptions_eq_ok {o : NewtonOptions α} {epsilon pivotTolerance damping : α}
    (epsilon_eq : o.epsilon.IsNumber epsilon)
    (pivotTolerance_eq : o.pivotTolerance.IsNumber pivotTolerance)
    (damping_eq : o.damping.IsNumber damping) (maxIterations : ℕ) (tolerance : α)
    (start : Iterate α) :
    Settings.ofOptions o maxIterations tolerance start =
      .ok (if maxIterations = 0 ∨ start.isDone tolerance then
        ⟨maxIterations, tolerance, 0, 0, .uniform 0⟩
      else ⟨maxIterations, tolerance, epsilon, pivotTolerance, .uniform damping⟩) :=
  ofOptions_of_uniform (term_eq_ok epsilon_eq.countsAs)
    (leastPivot_eq_ok pivotTolerance_eq.countsAs) (gain_eq_ok damping_eq.countsAs) maxIterations
    tolerance start

/-- The settings that a step needs, for some number of slots. -/
def Settings.forSteps (o : NewtonOptions α) (count : ℕ) : Except (Fault α) (Settings α) := do
  let epsilon ← Linear.term o.epsilon
  let pivotTolerance ← Linear.leastPivot o.pivotTolerance
  let damping ← Linear.Gain.ofValue count o.damping
  return ⟨0, 0, epsilon, pivotTolerance, damping⟩

lemma Settings.ofOptions_eq (o : NewtonOptions α) (maxIterations : ℕ) (tolerance : α)
    (start : Iterate α) : Settings.ofOptions o maxIterations tolerance start =
      if maxIterations = 0 ∨ start.isDone tolerance then
        .ok ⟨maxIterations, tolerance, 0, 0, .uniform 0⟩
      else (Settings.forSteps o start.params.length).map fun settings =>
        { settings with maxIterations, tolerance } := by
  rw [ofOptions, forSteps]
  split
  · rfl
  · cases Linear.term o.epsilon with
    | error fault => rfl
    | ok epsilon =>
      cases Linear.leastPivot o.pivotTolerance with
      | error fault => rfl
      | ok pivotTolerance => cases Linear.Gain.ofValue start.params.length o.damping <;> rfl

/-- Settings have the cap and the tolerance that they are made with. -/
lemma Settings.ofOptions_of_ok {o : NewtonOptions α} {maxIterations : ℕ} {tolerance : α}
    {start : Iterate α} {settings : Settings α}
    (made : Settings.ofOptions o maxIterations tolerance start = .ok settings) :
    settings.maxIterations = maxIterations ∧ settings.tolerance = tolerance := by
  rw [ofOptions_eq] at made
  split at made
  · cases made
    exact ⟨rfl, rfl⟩
  · cases found : forSteps o start.params.length with
    | error fault =>
      rw [found] at made
      cases made
    | ok settings' =>
      rw [found] at made
      cases made
      exact ⟨rfl, rfl⟩

/-- Settings that options amount to, with one damping for all unknowns. -/
structure Settings.IsOf (settings : Settings α) (o : NewtonOptions α) : Prop where
  cap : o.maxIterations.iterationCap = .ok settings.maxIterations
  bound : o.tolerance.bound = .ok settings.tolerance
  term : Linear.term o.epsilon = .ok settings.epsilon
  pivot : Linear.leastPivot o.pivotTolerance = .ok settings.pivotTolerance
  gain : ∃ x, settings.damping = .uniform x ∧
    ∀ count, Linear.Gain.ofValue count o.damping = .ok (.uniform x)

/-- Settings whose steps on `count` numbers are those that options tell. -/
structure Settings.StepsAs (settings : Settings α) (o : NewtonOptions α) (count : ℕ) : Prop where
  term : Linear.term o.epsilon = .ok settings.epsilon
  pivot : Linear.leastPivot o.pivotTolerance = .ok settings.pivotTolerance
  gain : Linear.Gain.ofValue count o.damping = .ok settings.damping

lemma Settings.stepsAs_of_ok {o : NewtonOptions α} {maxIterations : ℕ} {tolerance : α}
    {start : Iterate α} {settings : Settings α}
    (made : Settings.ofOptions o maxIterations tolerance start = .ok settings)
    (busy : ¬(maxIterations = 0 ∨ start.isDone tolerance)) :
    settings.StepsAs o start.params.length := by
  rw [ofOptions, if_neg busy] at made
  obtain ⟨epsilon, term, made⟩ := Except.bind_eq_ok.mp made
  obtain ⟨pivotTolerance, pivot, made⟩ := Except.bind_eq_ok.mp made
  obtain ⟨damping, gain, made⟩ := Except.bind_eq_ok.mp made
  cases made
  exact ⟨term, pivot, gain⟩

/-! ### Solves -/

namespace Drawing

variable [Named ν α] {d : Drawing ν α}

lemma conclude_of_short (diagnostics : Diagnostics α) (tolerance : α) (start : Iterate α)
    (iterates : List (Iterate α))
    (short : (Iteration.last start iterates).params.length < d.unknowns.length) :
    (d.conclude diagnostics tolerance start iterates).result.toOption = none := by
  rw [conclude, Attempt.andThen, commit_of_short short]
  rfl

lemma drawing_conclude (d : Drawing ν α) (diagnostics : Diagnostics α) (tolerance : α)
    (start : Iterate α) (iterates : List (Iterate α)) :
    (d.conclude diagnostics tolerance start iterates).drawing =
      (d.commit (Iteration.last start iterates).params).drawing := by
  rw [conclude, Attempt.andThen]
  split <;> rfl

/-- A run leaves its last numbers in the slots, even if they cannot all be written back. -/
lemma params_conclude (d : Drawing ν α) (diagnostics : Diagnostics α) (tolerance : α)
    (start : Iterate α) (iterates : List (Iterate α)) :
    (d.conclude diagnostics tolerance start iterates).drawing.params =
      (Iteration.last start iterates).params := by
  rw [drawing_conclude, params_commit]

/-- That a drawing is left with the numbers of a run on its demands, which are those at the start if
no step is made. -/
structure Takes (d d' : Drawing ν α) (plan : Plan α) (settings : Settings α)
    (demands : List (Demand α)) : Prop where
  plan_eq_ok : d.plan = .ok plan
  demands_eq_ok : d.demands plan = .ok demands
  steps : run settings demands (.of demands d.params) = [] ∨
    settings.StepsAs d.options d.params.length
  drawing_eq : d' = (d.commit (Iteration.last (.of demands d.params)
    (run settings demands (.of demands d.params))).params).drawing

/-- Whatever its result, a solve leaves a drawing as it is, or with the numbers of a run. -/
lemma solve_drawing_cases (d : Drawing ν α) : d.solve.drawing = d ∨
    ∃ plan settings demands, d.Takes d.solve.drawing plan settings demands := by
  rw [solve]
  cases planned : d.plan with
  | error fault => exact .inl rfl
  | ok plan =>
    rw [given]
    split
    · exact .inl rfl
    · cases made : d.demands plan with
      | error fault => exact .inl rfl
      | ok demands =>
        rw [given, solveDemands]
        split
        · exact .inl rfl
        -- without a bound, no step is made, but the numbers are written back
        · refine .inr ⟨plan, ⟨0, 0, 0, 0, .uniform 0⟩, demands, planned, made,
            .inl (run_eq_nil (.inl rfl)), ?_⟩
          rw [run_eq_nil (.inl rfl), Attempt.andThen]
          split <;> rfl
        · exact .inl rfl
        · next maxIterations tolerance _ _ =>
          cases settled : Settings.ofOptions d.options maxIterations tolerance
              (.of demands d.params) with
          | error fault => exact .inl rfl
          | ok settings =>
            obtain ⟨rfl, rfl⟩ := Settings.ofOptions_of_ok settled
            refine .inr ⟨plan, settings, demands, planned, made, ?_, drawing_conclude _ _ _ _ _⟩
            by_cases idle : settings.maxIterations = 0 ∨
                (Iterate.of demands d.params).isDone settings.tolerance
            · exact .inl (run_eq_nil idle)
            · exact .inr (Settings.stepsAs_of_ok settled idle)

lemma solveDemands_of_short (short : d.params.length < d.unknowns.length)
    (diagnostics : Diagnostics α) (demands : List (Demand α)) :
    (d.solveDemands diagnostics demands).result.toOption = none := by
  rw [solveDemands]
  split
  · rfl
  · rw [Attempt.andThen, commit_of_short short]
    rfl
  · rfl
  · next maxIterations tolerance _ _ =>
    cases Settings.ofOptions d.options maxIterations tolerance (.of demands d.params) with
    | error fault => rfl
    | ok settings =>
      refine conclude_of_short _ _ _ _ (Nat.lt_of_le_of_lt ?_ short)
      exact length_params_run_le settings demands (.of demands d.params)

/-- That a solve steps from the numbers in the slots, with these settings and demands. -/
structure StepsWith (d : Drawing ν α) (plan : Plan α) (settings : Settings α)
    (demands : List (Demand α)) : Prop where
  plan_eq_ok : d.plan = .ok plan
  busy : d.isIdle plan = false
  demands_eq_ok : d.demands plan = .ok demands
  cap_eq_ok : d.options.maxIterations.iterationCap = .ok settings.maxIterations
  bound_eq_ok : d.options.tolerance.bound = .ok settings.tolerance
  settings_eq_ok : Settings.ofOptions d.options settings.maxIterations settings.tolerance
    (.of demands d.params) = .ok settings

/-- A solve that steps takes over what its run comes to. -/
lemma StepsWith.solve_eq {plan : Plan α} {settings : Settings α} {demands : List (Demand α)}
    (steps : d.StepsWith plan settings demands) :
    d.solve = d.conclude plan.diagnostics settings.tolerance (.of demands d.params)
      (run settings demands (.of demands d.params)) := by
  have stepping : d.solveDemands plan.diagnostics demands = d.conclude plan.diagnostics
      settings.tolerance (.of demands d.params) (run settings demands (.of demands d.params)) := by
    simp only [solveDemands, steps.cap_eq_ok, steps.bound_eq_ok, steps.settings_eq_ok, given]
  rw [solve, steps.plan_eq_ok, given, if_neg (Bool.eq_false_iff.mp steps.busy),
    steps.demands_eq_ok, given, stepping]

/-- A solve that comes to a solution had nothing to do, or has stepped and kept a number for each
unknown. -/
lemma exists_stepsWith {solution : Solution ν α} (ok : d.solve.result = .ok solution) :
    ∃ plan, d.plan = .ok plan ∧ (d.isIdle plan = true ∨
      ∃ settings demands, d.StepsWith plan settings demands ∧ d.unknowns.length ≤
        (Iteration.last (.of demands d.params)
          (run settings demands (.of demands d.params))).params.length) := by
  rw [solve] at ok
  cases planned : d.plan with
  | error fault =>
    rw [planned] at ok
    cases ok
  | ok plan =>
    refine ⟨plan, rfl, ?_⟩
    rw [planned, given] at ok
    split at ok
    · next idle => exact .inl idle
    · next busy =>
      cases made : d.demands plan with
      | error fault =>
        rw [made] at ok
        cases ok
      | ok demands =>
        rw [made, given, solveDemands] at ok
        split at ok
        · cases ok
        · rw [Attempt.andThen] at ok
          split at ok <;> cases ok
        · cases ok
        · next maxIterations tolerance capped bounded =>
          cases settled : Settings.ofOptions d.options maxIterations tolerance
              (.of demands d.params) with
          | error fault =>
            rw [settled] at ok
            cases ok
          | ok settings =>
            rw [settled, given] at ok
            obtain ⟨rfl, rfl⟩ := Settings.ofOptions_of_ok settled
            refine .inr ⟨settings, demands, ⟨planned, Bool.eq_false_iff.mpr busy, made, capped,
              bounded, settled⟩, Nat.le_of_not_lt fun short => ?_⟩
            have none := conclude_of_short plan.diagnostics settings.tolerance _ _ short
            rw [ok] at none
            cases none

variable [LawfulName ν]

/-- A run is told by its last iterate. -/
lemma conclude_of_full (diagnostics : Diagnostics α) (tolerance : α) (start : Iterate α)
    (iterates : List (Iterate α))
    (full : d.unknowns.length ≤ (Iteration.last start iterates).params.length) :
    (d.conclude diagnostics tolerance start iterates).result =
      .ok { success := (Iteration.last start iterates).isDone tolerance
            history := iterates.map Iterate.norm
            residual := (Iteration.last start iterates).norm
            values := .ofList (numbered { d with params := (Iteration.last start iterates).params })
            diagnostics } := by
  let final := Iteration.last start iterates
  have told : (writePoints (writeVariables { d with params := final.params })).values =
      .ok (.ofList (numbered { d with params := final.params })) := by
    rw [values_of_full full, numbered_written]
  rw [conclude, commit_of_full full]
  exact congrArg (Except.map _) told

/-- A drawing with fewer numbers than unknowns cannot be solved. -/
theorem solve_of_short (short : d.params.length < d.unknowns.length) :
    d.solve.result.toOption = none := by
  rw [solve]
  cases d.plan with
  | error fault => rfl
  | ok plan =>
    rw [given]
    split
    · rw [trivial, values_of_short short]
      rfl
    · cases d.demands plan with
      | error fault => rfl
      | ok demands => exact solveDemands_of_short short plan.diagnostics demands

/-- A solution tells the numbers of the drawing that the solve leaves, by id. -/
lemma values_of_solve_eq_ok {solution : Solution ν α} (ok : d.solve.result = .ok solution) :
    solution.values = .ofList d.solve.drawing.numbered := by
  have full : d.unknowns.length ≤ d.params.length := by
    refine Nat.le_of_not_lt fun short => ?_
    have none := solve_of_short short
    rw [ok] at none
    cases none
  obtain ⟨plan, planned, idle | ⟨settings, demands, steps, reached⟩⟩ := exists_stepsWith ok
  · rw [solve, planned, given, if_pos idle, trivial] at ok ⊢
    rw [values_of_full full] at ok
    cases ok
    rfl
  · rw [steps.solve_eq] at ok ⊢
    rw [conclude_of_full _ _ _ _ reached] at ok
    cases ok
    rw [drawing_conclude, numbered_commit]

/-- A solution tells what its plan leaves out. -/
lemma diagnostics_of_solve {solution : Solution ν α} (ok : d.solve.result = .ok solution) :
    ∃ plan, d.plan = .ok plan ∧ solution.diagnostics = plan.diagnostics := by
  obtain ⟨plan, planned, idle | ⟨settings, demands, steps, reached⟩⟩ := exists_stepsWith ok
  · refine ⟨plan, planned, ?_⟩
    rw [solve, planned, given, if_pos idle, trivial] at ok
    obtain ⟨values, -, rfl⟩ := Except.map_eq_ok.mp ok
    rfl
  · refine ⟨plan, planned, ?_⟩
    rw [steps.solve_eq, conclude_of_full _ _ _ _ reached] at ok
    cases ok
    rfl

end Drawing

end Drafting.Plane
