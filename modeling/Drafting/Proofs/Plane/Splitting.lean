import Drafting.Proofs.Plane.Overwriting

/-!
# Solving in two parts

All that a solve carries from one step to the next are the numbers in the slots, and what it writes
back it does not read again. A solve that is stopped after some steps and taken up again therefore
comes to what one solve comes to that may make as many steps as both, wherever it is stopped, and
fails just if that fails; after a success nothing is left to do (`History.isResumable`).
-/

namespace Drafting.Plane

variable {α : Type} [Scalar α]

/-! ### Steps -/

/-- That options lead from an iterate to others, in up to some number of steps. -/
def Leads (o : NewtonOptions α) (demands : List (Demand α)) (tolerance : α) (cap : ℕ)
    (start : Iterate α) (iterates : List (Iterate α)) : Prop :=
  ∃ settings, Settings.ofOptions o cap tolerance start = .ok settings ∧
    run settings demands start = iterates

section

variable {o : NewtonOptions α} {demands : List (Demand α)} {tolerance : α} {cap m n : ℕ}
  {start : Iterate α} {iterates first second : List (Iterate α)}

/-- Options lead nowhere if no step is to be made, and else along the trail of their steps. -/
lemma leads_iff : Leads o demands tolerance cap start iterates ↔
    ((cap = 0 ∨ start.isDone tolerance) ∧ iterates = []) ∨
      ∃ settings, Settings.forSteps o start.params.length = .ok settings ∧
        iterates = Iteration.trail cap (Iterate.isDone tolerance)
          (Iterate.next settings demands) start := by
  constructor
  · rintro ⟨settings, made, rfl⟩
    rw [Settings.ofOptions_eq] at made
    split at made
    · next idle =>
      cases made
      exact .inl ⟨idle, run_eq_nil idle⟩
    · cases found : Settings.forSteps o start.params.length with
      | error fault =>
        rw [found] at made
        cases made
      | ok settings' =>
        rw [found] at made
        cases made
        exact .inr ⟨settings', rfl, rfl⟩
  · by_cases idle : cap = 0 ∨ start.isDone tolerance
    -- the trail is empty, whether a step could be made or not
    · have still : Leads o demands tolerance cap start [] :=
        ⟨⟨cap, tolerance, 0, 0, .uniform 0⟩, if_pos idle, run_eq_nil idle⟩
      rintro (⟨-, rfl⟩ | ⟨settings, -, rfl⟩)
      · exact still
      · rw [Iteration.trail_of_idle idle]
        exact still
    · rintro (⟨rest, -⟩ | ⟨settings, found, rfl⟩)
      · exact absurd rest idle
      · refine ⟨{ settings with maxIterations := cap, tolerance }, ?_, rfl⟩
        rw [Settings.ofOptions_eq, if_neg idle, found]
        rfl

lemma Leads.length_params_le (leads : Leads o demands tolerance cap start iterates) :
    (Iteration.last start iterates).params.length ≤ start.params.length := by
  obtain ⟨settings, -, rfl⟩ := leads
  exact length_params_run_le settings demands start

/-- Iterates hold the residuals of the numbers that they hold. -/
lemma Leads.of_last {params : List α}
    (leads : Leads o demands tolerance cap (.of demands params) iterates) :
    .of demands (Iteration.last (.of demands params) iterates).params =
      Iteration.last (.of demands params) iterates := by
  obtain ⟨settings, -, rfl⟩ := leads
  rw [last_run]
  rfl

section

variable {settings : Settings α}

lemma Leads.eq_trail (leads : Leads o demands tolerance cap start iterates)
    (made : Settings.forSteps o start.params.length = .ok settings) :
    iterates = Iteration.trail cap (Iterate.isDone tolerance)
      (Iterate.next settings demands) start := by
  obtain ⟨idle, rfl⟩ | ⟨settings', made', rfl⟩ := leads_iff.mp leads
  · exact (Iteration.trail_of_idle idle).symm
  · rw [Except.ok.inj (made.symm.trans made')]

lemma Leads.idle {fault : Fault α} (leads : Leads o demands tolerance cap start iterates)
    (failed : Settings.forSteps o start.params.length = .error fault) :
    (cap = 0 ∨ start.isDone tolerance) ∧ iterates = [] := by
  obtain idle | ⟨settings, made, -⟩ := leads_iff.mp leads
  · exact idle
  · rw [failed] at made
    cases made

end

/-- Steps lead on from where steps have led, as long as no number is lost. -/
lemma Leads.append (leads : Leads o demands tolerance m start first)
    (on : Leads o demands tolerance n (Iteration.last start first) second)
    (kept : (Iteration.last start first).params.length = start.params.length) :
    Leads o demands tolerance (m + n) start (first ++ second) := by
  rw [leads_iff]
  cases made : Settings.forSteps o start.params.length with
  | ok settings =>
    refine .inr ⟨settings, rfl, ?_⟩
    rw [Iteration.trail_add, ← leads.eq_trail made, ← on.eq_trail (kept ▸ made)]
  | error fault =>
    obtain ⟨idle, rfl⟩ := leads.idle made
    obtain ⟨idle', rfl⟩ := on.idle made
    refine .inl ⟨?_, rfl⟩
    obtain rfl | settled := idle
    · exact idle'.imp (Nat.zero_add n).trans id
    · exact .inr settled

/-- Steps that lose no number can be broken off and taken up again. -/
lemma Leads.split (leads : Leads o demands tolerance (m + n) start iterates)
    (kept : start.params.length ≤ (Iteration.last start iterates).params.length) :
    ∃ first second, iterates = first ++ second ∧ Leads o demands tolerance m start first ∧
      Leads o demands tolerance n (Iteration.last start first) second := by
  cases made : Settings.forSteps o start.params.length with
  | ok settings =>
    have both := leads.eq_trail made
    have before : Leads o demands tolerance m start (Iteration.trail m (Iterate.isDone tolerance)
        (Iterate.next settings demands) start) := leads_iff.mpr (.inr ⟨settings, made, rfl⟩)
    rw [Iteration.trail_add] at both
    generalize Iteration.trail m (Iterate.isDone tolerance)
      (Iterate.next settings demands) start = first at both before
    have after := length_params_run_le ⟨n, tolerance, settings.epsilon, settings.pivotTolerance,
      settings.damping⟩ demands (Iteration.last start first)
    rw [both, Iteration.last_append] at kept
    -- the settings depend on how many numbers there are, which no step has changed
    have length := before.length_params_le.antisymm (kept.trans after)
    exact ⟨first, _, both, before, leads_iff.mpr (.inr ⟨settings, length ▸ made, rfl⟩)⟩
  | error fault =>
    obtain ⟨idle, rfl⟩ := leads.idle made
    refine ⟨[], [], rfl, leads_iff.mpr (.inl ⟨?_, rfl⟩), leads_iff.mpr (.inl ⟨?_, rfl⟩)⟩
    · exact idle.imp Nat.eq_zero_of_add_eq_zero_right id
    · exact idle.imp Nat.eq_zero_of_add_eq_zero_left id

end

namespace Drawing

/-! ### Solves -/

/-- What is told of iterates that a solve has come to. -/
def told (d : Drawing String α) (diagnostics : Diagnostics α) (tolerance : α) (start : Iterate α)
    (iterates : List (Iterate α)) : Solution String α where
  success := (Iteration.last start iterates).isDone tolerance
  history := iterates.map Iterate.norm
  residual := (Iteration.last start iterates).norm
  values := .ofList (numbered { d with params := (Iteration.last start iterates).params })
  diagnostics

/-- That a solve of a drawing has these demands to step for. -/
structure IsBusyWith (d : Drawing String α) (plan : Plan α) (demands : List (Demand α))
    (tolerance : α) : Prop where
  plan_eq_ok : d.plan = .ok plan
  busy : d.isIdle plan = false
  demands_eq_ok : d.demands plan = .ok demands
  bound_eq_ok : d.options.tolerance.bound = .ok tolerance

/-- That a solve of a drawing steps through iterates, and has a number for each unknown in the
end. -/
structure StepsTo (d : Drawing String α) (plan : Plan α) (demands : List (Demand α)) (tolerance : α)
    (iterates : List (Iterate α)) : Prop extends d.IsBusyWith plan demands tolerance where
  leads : ∃ cap, d.options.maxIterations.iterationCap = .ok cap ∧
    Leads d.options demands tolerance cap (.of demands d.params) iterates
  full : d.unknowns.length ≤ (Iteration.last (.of demands d.params) iterates).params.length

section

variable {d : Drawing String α} {plan : Plan α} {demands : List (Demand α)} {tolerance : α}
  {iterates : List (Iterate α)}

lemma StepsTo.solve_eq (steps : d.StepsTo plan demands tolerance iterates) : d.solve =
    ⟨d.showing (Iteration.last (.of demands d.params) iterates).params,
      .ok (d.told plan.diagnostics tolerance (.of demands d.params) iterates)⟩ := by
  obtain ⟨cap, capped, settings, made, reached⟩ := steps.leads
  obtain ⟨rfl, rfl⟩ := Settings.ofOptions_of_ok made
  have stepped : d.StepsWith plan settings demands :=
    ⟨steps.plan_eq_ok, steps.busy, steps.demands_eq_ok, capped, steps.bound_eq_ok, made⟩
  have result := conclude_of_full plan.diagnostics settings.tolerance _ _ steps.full
  have left : (d.conclude plan.diagnostics settings.tolerance (.of demands d.params)
      iterates).drawing = d.showing (Iteration.last (.of demands d.params) iterates).params := by
    rw [conclude, commit_of_full steps.full]
    rfl
  rw [stepped.solve_eq, reached, ← left]
  exact congrArg (Attempt.mk _) result

lemma StepsTo.length_eq (bound : d.IsBound) (steps : d.StepsTo plan demands tolerance iterates) :
    (Iteration.last (.of demands d.params) iterates).params.length = d.params.length := by
  obtain ⟨cap, -, leads⟩ := steps.leads
  exact leads.length_params_le.antisymm (bound.short.trans steps.full)

lemma StepsTo.full_eq (bound : d.IsBound) (steps : d.StepsTo plan demands tolerance iterates) :
    (Iteration.last (.of demands d.params) iterates).params.length = d.unknowns.length :=
  ((steps.length_eq bound).trans_le bound.short).antisymm steps.full

/-- A solve that comes to a solution had nothing to do, or has stepped. -/
lemma exists_stepsTo {solution : Solution String α} (ok : d.solve.result = .ok solution) :
    ∃ plan, d.plan = .ok plan ∧ (d.isIdle plan = true ∨
      ∃ demands tolerance iterates, d.StepsTo plan demands tolerance iterates) := by
  obtain ⟨plan, planned, idle | ⟨settings, demands, steps, full⟩⟩ := exists_stepsWith ok
  · exact ⟨plan, planned, .inl idle⟩
  · have busy : d.IsBusyWith plan demands settings.tolerance :=
      ⟨planned, steps.busy, steps.demands_eq_ok, steps.bound_eq_ok⟩
    have leads : Leads d.options demands settings.tolerance settings.maxIterations
        (.of demands d.params) (run settings demands (.of demands d.params)) :=
      ⟨settings, steps.settings_eq_ok, rfl⟩
    exact ⟨plan, planned, .inr ⟨demands, settings.tolerance, _, busy, ⟨_, steps.cap_eq_ok, leads⟩,
      full⟩⟩

/-- Numbers that a solve has come to leave it busy with the same demands. -/
lemma IsBusyWith.showing (bound : d.IsBound) (busy : d.IsBusyWith plan demands tolerance)
    {params : List α} (same : params.length = d.params.length) :
    (d.showing params).IsBusyWith plan demands tolerance where
  plan_eq_ok := (bound.plan_showing (same.trans_le bound.short)).trans busy.plan_eq_ok
  busy := (isIdle_showing same plan).trans busy.busy
  demands_eq_ok := (bound.demands_showing same busy.plan_eq_ok).trans busy.demands_eq_ok
  bound_eq_ok := busy.bound_eq_ok

end

/-! ### Parts of solves -/

/-- A drawing that is solved in a given number of steps at most. -/
def withCap (d : Drawing String α) (cap : ℕ) : Drawing String α :=
  { d with options := { d.options with maxIterations := .int cap } }

section

variable {d : Drawing String α} {plan : Plan α} {demands : List (Demand α)} {tolerance : α}
  {iterates first second : List (Iterate α)} {m n : ℕ}

lemma IsBound.withCap (bound : d.IsBound) (n : ℕ) : (d.withCap n).IsBound := bound.withOptions _

lemma isBusyWith_withCap_iff : (d.withCap n).IsBusyWith plan demands tolerance ↔
    d.IsBusyWith plan demands tolerance :=
  ⟨fun busy => ⟨busy.plan_eq_ok, busy.busy, busy.demands_eq_ok, busy.bound_eq_ok⟩,
    fun busy => ⟨busy.plan_eq_ok, busy.busy, busy.demands_eq_ok, busy.bound_eq_ok⟩⟩

lemma StepsTo.leads_withCap (steps : (d.withCap n).StepsTo plan demands tolerance iterates) :
    Leads d.options demands tolerance n (.of demands d.params) iterates := by
  obtain ⟨cap, capped, leads⟩ := steps.leads
  cases capped
  exact leads

lemma StepsTo.solve_withCap (steps : (d.withCap n).StepsTo plan demands tolerance iterates) :
    (d.withCap n).solve =
      ⟨(d.showing (Iteration.last (.of demands d.params) iterates).params).withCap n,
        .ok (d.told plan.diagnostics tolerance (.of demands d.params) iterates)⟩ :=
  steps.solve_eq

lemma StepsTo.length_withCap (bound : d.IsBound)
    (steps : (d.withCap n).StepsTo plan demands tolerance iterates) :
    (Iteration.last (.of demands d.params) iterates).params.length = d.params.length :=
  (StepsTo.length_eq (bound.withCap n) steps :)

lemma StepsTo.full_withCap (bound : d.IsBound)
    (steps : (d.withCap n).StepsTo plan demands tolerance iterates) :
    (Iteration.last (.of demands d.params) iterates).params.length = d.unknowns.length :=
  (StepsTo.full_eq (bound.withCap n) steps :)

/-- A solve that goes on from where a solve has come to makes further steps. -/
lemma StepsTo.append (bound : d.IsBound)
    (steps : (d.withCap m).StepsTo plan demands tolerance first)
    (on : ((d.showing (Iteration.last (.of demands d.params) first).params).withCap n).StepsTo
      plan demands tolerance second) :
    (d.withCap (m + n)).StepsTo plan demands tolerance (first ++ second) where
  toIsBusyWith :=
    isBusyWith_withCap_iff.mpr (isBusyWith_withCap_iff.mp steps.toIsBusyWith)
  leads := by
    have later := on.leads_withCap
    have there : Iterate.of demands
        (d.showing (Iteration.last (.of demands d.params) first).params).params = _ :=
      steps.leads_withCap.of_last
    rw [there] at later
    exact ⟨m + n, rfl, steps.leads_withCap.append later (steps.length_withCap bound)⟩
  full := by
    have full : d.unknowns.length ≤ (Iteration.last (.of demands
      (Iteration.last (.of demands d.params) first).params) second).params.length := on.full
    rw [steps.leads_withCap.of_last] at full
    rw [Iteration.last_append]
    exact full

/-- A solve can be broken off, and gone on with from where it has come to. -/
lemma StepsTo.split (bound : d.IsBound)
    (steps : (d.withCap (m + n)).StepsTo plan demands tolerance iterates) :
    ∃ first second, iterates = first ++ second ∧
      (d.withCap m).StepsTo plan demands tolerance first ∧
      ((d.showing (Iteration.last (.of demands d.params) first).params).withCap n).StepsTo
        plan demands tolerance second := by
  obtain ⟨first, second, rfl, before, after⟩ :=
    steps.leads_withCap.split (steps.length_withCap bound).ge
  have full : d.unknowns.length ≤ (Iteration.last (Iteration.last (.of demands d.params) first)
      second).params.length := by
    rw [← Iteration.last_append]
    exact steps.full
  have full' : d.unknowns.length ≤ (Iteration.last (.of demands d.params) first).params.length :=
    full.trans after.length_params_le
  have busy := isBusyWith_withCap_iff.mp steps.toIsBusyWith
  have early : (d.withCap m).StepsTo plan demands tolerance first :=
    ⟨isBusyWith_withCap_iff.mpr busy, ⟨m, rfl, before⟩, full'⟩
  rw [← before.of_last] at after full
  have later := busy.showing bound (early.length_withCap bound)
  exact ⟨first, second, rfl, early, isBusyWith_withCap_iff.mpr later, ⟨n, rfl, after⟩, full⟩

end

end Drawing

/-- A solution that comes of two, the second of which goes on from where the first ends. -/
structure Solution.IsSplitInto (whole first second : Solution String α) : Prop where
  values : second.values = whole.values
  residual : second.residual = whole.residual
  success : second.success = whole.success
  diagnostics : second.diagnostics = whole.diagnostics
  history : first.history ++ second.history = whole.history
  iterations : first.iterations + second.iterations = whole.iterations

namespace Drawing

/-- That a solve in up to `m` steps and then one in up to `n` come to what a solve in up to `m + n`
steps comes to, with the same objects left. -/
structure SplitsInto (d : Drawing String α) (m n : ℕ) (whole first second : Solution String α) :
    Prop where
  first_eq_ok : (d.withCap m).solve.result = .ok first
  second_eq_ok : ((d.withCap m).solve.drawing.withCap n).solve.result = .ok second
  whole_eq_ok : (d.withCap (m + n)).solve.result = .ok whole
  drawing_eq : ((d.withCap m).solve.drawing.withCap n).solve.drawing.withCap (m + n) =
    (d.withCap (m + n)).solve.drawing
  solution : whole.IsSplitInto first second

section

variable {d : Drawing String α} {plan : Plan α} {m n : ℕ}

lemma splitsInto_of_idle (planned : d.plan = .ok plan) (idle : d.isIdle plan = true)
    (full : d.unknowns.length ≤ d.params.length) (m n : ℕ) :
    ∃ solution, d.SplitsInto m n solution solution solution := by
  have still (cap : ℕ) : (d.withCap cap).solve =
      ⟨d.withCap cap, .ok ⟨true, [], 0, .ofList d.numbered, plan.diagnostics⟩⟩ :=
    solve_of_idle planned idle full
  refine ⟨⟨true, [], 0, .ofList d.numbered, plan.diagnostics⟩, ?_⟩
  have again : ((d.withCap m).solve.drawing.withCap n).solve =
      ⟨d.withCap n, .ok ⟨true, [], 0, .ofList d.numbered, plan.diagnostics⟩⟩ := by
    rw [still m]
    exact still n
  constructor
  case first_eq_ok => rw [still]
  case second_eq_ok => rw [again]
  case whole_eq_ok => rw [still]
  case drawing_eq =>
    rw [again, still]
    rfl
  case solution => exact ⟨rfl, rfl, rfl, rfl, rfl, rfl⟩

/-- What is told of iterates is split where they are. -/
lemma isSplitInto_told (d : Drawing String α) (diagnostics : Diagnostics α) (tolerance : α)
    (start : Iterate α) (params : List α) (first second : List (Iterate α)) :
    (d.told diagnostics tolerance start (first ++ second)).IsSplitInto
      (d.told diagnostics tolerance start first)
      ((d.showing params).told diagnostics tolerance (Iteration.last start first) second) := by
  have last := Iteration.last_append start first second
  constructor
  case values =>
    rw [told, told, numbered_showing, last]
  case residual => exact congrArg Iterate.norm last.symm
  case success => exact congrArg (Iterate.isDone tolerance) last.symm
  case diagnostics => rfl
  case history => exact List.map_append.symm
  case iterations =>
    rw [Solution.iterations, Solution.iterations, Solution.iterations, ← List.length_append]
    exact congrArg List.length List.map_append.symm

lemma StepsTo.splitsInto {demands : List (Demand α)} {tolerance : α}
    {first second : List (Iterate α)} (bound : d.IsBound)
    (steps : (d.withCap m).StepsTo plan demands tolerance first)
    (on : ((d.showing (Iteration.last (.of demands d.params) first).params).withCap n).StepsTo
      plan demands tolerance second) :
    ∃ whole part rest, d.SplitsInto m n whole part rest := by
  have early := steps.solve_withCap
  have late := on.solve_withCap
  have all := (steps.append bound on).solve_withCap
  have full := steps.full_withCap bound
  have full' := on.full_withCap (bound.showing full)
  -- the second part starts from the iterate that the first ends in
  have there : Iterate.of demands
      (d.showing (Iteration.last (.of demands d.params) first).params).params = _ :=
    steps.leads_withCap.of_last
  rw [there] at late full'
  have again := (congrArg (fun a => (a.drawing.withCap n).solve) early).trans late
  refine ⟨_, _, _, congrArg Attempt.result early, congrArg Attempt.result again,
    congrArg Attempt.result all, ?_, isSplitInto_told d plan.diagnostics tolerance _ _ _ _⟩
  rw [again, all, Iteration.last_append]
  exact congrArg (·.withCap (m + n)) (bound.showing_showing full full')

end

/-- A drawing that can be solved in parts, and that is at rest once it is solved. -/
structure IsResumable (d : Drawing String α) : Prop where
  /-- A solve that comes to a solution can be broken off anywhere. -/
  parts : ∀ m n whole, (d.withCap (m + n)).solve.result = .ok whole →
    ∃ first second, d.SplitsInto m n whole first second
  /-- Two solves that come to solutions can be made into one. -/
  whole : ∀ m n first second, (d.withCap m).solve.result = .ok first →
    ((d.withCap m).solve.drawing.withCap n).solve.result = .ok second →
    ∃ whole, d.SplitsInto m n whole first second
  /-- A typed drawing is solved in parts and as a whole. -/
  typed : ∀ cap settings, d.IsTyped cap settings → ∀ m n,
    ∃ whole first second, d.SplitsInto m n whole first second
  /-- After a success, a solve makes no step and changes nothing. -/
  rest : ∀ solution, d.solve.result = .ok solution → solution.success = true →
    ∃ again, d.solve.drawing.solve = ⟨d.solve.drawing, .ok again⟩ ∧ again.iterations = 0 ∧
      again.success = true ∧ again.residual = solution.residual ∧ again.values = solution.values

section

variable {d : Drawing String α} {m n : ℕ}

lemma length_le_of_solve_eq_ok {solution : Solution String α}
    (ok : d.solve.result = .ok solution) : d.unknowns.length ≤ d.params.length := by
  refine Nat.le_of_not_lt fun short => ?_
  have none := solve_of_short short
  rw [ok] at none
  cases none

lemma IsBound.exists_splitsInto_of_whole (bound : d.IsBound) {whole : Solution String α}
    (ok : (d.withCap (m + n)).solve.result = .ok whole) :
    ∃ first second, d.SplitsInto m n whole first second := by
  suffices splits : ∃ whole' first second, d.SplitsInto m n whole' first second by
    obtain ⟨whole', first, second, splits⟩ := splits
    obtain rfl := Except.ok.inj (splits.whole_eq_ok.symm.trans ok)
    exact ⟨first, second, splits⟩
  obtain ⟨plan, planned, idle | ⟨demands, tolerance, iterates, steps⟩⟩ := exists_stepsTo ok
  · obtain ⟨solution, splits⟩ :=
      splitsInto_of_idle (d := d) planned idle (length_le_of_solve_eq_ok (d := d.withCap _) ok) m n
    exact ⟨_, _, _, splits⟩
  · obtain ⟨first, second, -, early, late⟩ := steps.split bound
    exact early.splitsInto bound late

/-- Solves that come to solutions, one after the other, can be made into one. -/
lemma IsBound.exists_splitsInto_of_parts (bound : d.IsBound) {first second : Solution String α}
    (ok : (d.withCap m).solve.result = .ok first)
    (ok' : ((d.withCap m).solve.drawing.withCap n).solve.result = .ok second) :
    ∃ whole, d.SplitsInto m n whole first second := by
  suffices splits : ∃ whole first' second', d.SplitsInto m n whole first' second' by
    obtain ⟨whole, first', second', splits⟩ := splits
    obtain rfl := Except.ok.inj (splits.first_eq_ok.symm.trans ok)
    obtain rfl := Except.ok.inj (splits.second_eq_ok.symm.trans ok')
    exact ⟨whole, splits⟩
  obtain ⟨plan, planned, idle | ⟨demands, tolerance, iterates, steps⟩⟩ := exists_stepsTo ok
  · obtain ⟨solution, splits⟩ :=
      splitsInto_of_idle (d := d) planned idle (length_le_of_solve_eq_ok (d := d.withCap _) ok) m n
    exact ⟨_, _, _, splits⟩
  · rw [steps.solve_withCap] at ok'
    have busy := (isBusyWith_withCap_iff.mp steps.toIsBusyWith).showing bound
      (steps.length_withCap bound)
    -- the second solve has the same plan and demands, and so steps on from where the first ended
    obtain ⟨plan', again, rest⟩ := exists_stepsTo ok'
    obtain rfl := Except.ok.inj (busy.plan_eq_ok.symm.trans again)
    obtain idle | ⟨demands', tolerance', iterates', on⟩ := rest
    · exact absurd (busy.busy.symm.trans idle) Bool.false_ne_true
    · obtain rfl := Except.ok.inj (busy.demands_eq_ok.symm.trans on.demands_eq_ok)
      obtain rfl := Except.ok.inj (busy.bound_eq_ok.symm.trans on.bound_eq_ok)
      exact steps.splitsInto bound on

lemma IsTyped.exists_solve_withCap {cap : ℤ} {settings : Settings α}
    (typed : d.IsTyped cap settings) (n : ℕ) :
    ∃ solution, (d.withCap n).solve.result = .ok solution := by
  have isOf : Settings.IsOf { settings with maxIterations := n } (d.withCap n).options :=
    { typed.options.isOf with cap := rfl }
  exact IsPlannable.exists_solve (d := d.withCap n) ⟨typed.board.isPlannable, typed.constraints⟩
    typed.indexed.full typed.indexed.slots isOf

/-- Where a solve has succeeded, a solve has nothing to do. -/
lemma IsBound.solve_of_success (bound : d.IsBound) {solution : Solution String α}
    (ok : d.solve.result = .ok solution) (succeeded : solution.success = true) :
    ∃ again, d.solve.drawing.solve = ⟨d.solve.drawing, .ok again⟩ ∧ again.iterations = 0 ∧
      again.success = true ∧ again.residual = solution.residual ∧
      again.values = solution.values := by
  obtain ⟨plan, planned, idle | ⟨demands, tolerance, iterates, steps⟩⟩ := exists_stepsTo ok
  · have still := solve_of_idle planned idle (length_le_of_solve_eq_ok ok)
    rw [still] at ok ⊢
    obtain rfl := Except.ok.inj ok
    exact ⟨_, still, rfl, rfl, rfl, rfl⟩
  · obtain ⟨cap, capped, leads⟩ := steps.leads
    have full := steps.full_eq bound
    rw [steps.solve_eq] at ok ⊢
    obtain rfl := Except.ok.inj ok
    -- the next solve starts from the iterate that this one has ended in
    have there := leads.of_last
    have settled := (congrArg (Iterate.isDone tolerance) there).trans succeeded
    have on : (d.showing (Iteration.last (.of demands d.params) iterates).params).StepsTo plan
        demands tolerance [] :=
      ⟨steps.toIsBusyWith.showing bound (steps.length_eq bound),
        ⟨cap, capped, leads_iff.mpr (.inl ⟨.inr settled, rfl⟩)⟩, full.ge⟩
    have again := on.solve_eq.trans
      (congrArg (Attempt.mk · _) (bound.showing_showing full full))
    exact ⟨_, again, rfl, settled, congrArg Iterate.norm there,
      congrArg Table.ofList (numbered_showing _ _ _)⟩

end

end Drawing

/-- In every history, whatever fails in its course, a drawing can be solved in parts. -/
theorem History.isResumable {admits : Drawing String α → Operation α → Prop}
    {d : Drawing String α} {log : List String} (history : History admits d log) :
    d.IsResumable where
  parts _ _ _ ok := history.isBound.exists_splitsInto_of_whole ok
  whole _ _ _ _ ok ok' := history.isBound.exists_splitsInto_of_parts ok ok'
  typed cap settings typed m n := by
    obtain ⟨whole, ok⟩ := typed.exists_solve_withCap (m + n)
    exact ⟨whole, history.isBound.exists_splitsInto_of_whole ok⟩
  rest _ ok succeeded := history.isBound.solve_of_success ok succeeded

/-- A solve of two steps and one of three more are a solve of five. -/
theorem handedOver_isResumable :
    History (fun d op => op.Succeeds d) (handedOver.addConstraint (.constraint 0))
        ["p.x", "p.y", "p.x"] ∧
      (handedOver.addConstraint (.constraint 0)).IsResumable ∧
      ∃ whole first second,
        (handedOver.addConstraint (.constraint 0)).SplitsInto 2 3 whole first second := by
  have history : History (fun d op => op.Succeeds d) (handedOver.addConstraint (.constraint 0))
      ["p.x", "p.y", "p.x"] := history_handedOver.operate (.addConstraint 0) Nat.zero_lt_one trivial
  have resumable := history.isResumable
  have run : Run (handedOver.addConstraint (.constraint 0)) ["p.x"] :=
    run_handedOver.operate (.addConstraint 0) Nat.zero_lt_one
  obtain ⟨cap, settings, typed⟩ := run.isTyped
  exact ⟨history, resumable, resumable.typed cap settings typed 2 3⟩

end Drafting.Plane
