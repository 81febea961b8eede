import Drafting.Proofs.Gradient.Run
import Drafting.Proofs.Gradient.Survey
import Drafting.Sketch.Basic

/-!
# Solving typed sketches

A sketch is typed if its options, and the marks of its constraints, have the types that they are
declared with, and if every constraint is stored under its own id. Solving such a sketch leaves it
as it is and never fails: it runs the descent with the settings that its options amount to
(`Sketch.IsTyped.solve_eq`).
-/

namespace Drafting

variable {ν α : Type} [Name ν] [Scalar α]

/-- A sketch whose options are the numbers given, and whose constraints are active or not and stored
under their ids. -/
structure Sketch.IsTyped (s : Sketch ν α α) (cap : ℤ) (tolerance damping : α) : Prop where
  cap : s.options.maxIterations = .int cap
  tolerance : s.options.tolerance.IsNumber tolerance
  damping : s.options.damping.IsNumber damping
  verbose : ∃ b, s.options.verbose = .flag b
  active : ∀ c ∈ s.constraints.values, ∃ b, c.active = .flag b
  constraint_id : ∀ entry ∈ s.constraints.entries, entry.2.id = entry.1

/-! ### Reals are never at fault -/

lemma Entity.fault?_eq_none [Named ν α] (e : Entity ν α) :
    (e.fault? : Option (Fault α)) = none := by
  have position : e.position.bind (Vector3.fault? : Vector3 α → Option (Fault α)) = none := by
    cases e.position <;> rfl
  have parameters : (e.parameterFault? : Option (Fault α)) = none := by
    rw [parameterFault?, List.findSome?_eq_none_iff]
    exact fun _ _ => rfl
  rw [fault?, position, parameters]
  rfl

lemma Residual.fault?_eq_none (r : Residual α) : (r.fault? : Option (Fault α)) = none := by
  cases r <;> rfl

namespace Gradient

lemma measureFault?_eq_none (plan : List (Constraint ν α)) (entities : Snapshot ν α) :
    measureFault? plan entities = none := by
  rw [measureFault?, List.findSome?_eq_none_iff]
  exact fun c _ => (c.residual entities).fault?_eq_none

lemma stepFault?_eq_none [Named ν α] (damping : α) (plan : List (Constraint ν α))
    (entities : Table ν (Entity ν α)) : stepFault? damping plan entities = none := by
  have slopes : slopeFault? plan entities = none := by
    rw [slopeFault?, List.findSome?_eq_none_iff]
    intro t _
    rw [Trial.fault?, t.moved.fault?_eq_none, t.residual.fault?_eq_none]
    rfl
  have moved : (descend damping plan entities).values.findSome?
      (Entity.fault? : Entity ν α → Option (Fault α)) = none := by
    rw [List.findSome?_eq_none_iff]
    exact fun e _ => e.fault?_eq_none
  rw [stepFault?, slopes, moved, measureFault?_eq_none]
  rfl

/-- Constraints that are active or not can be planned if what they name can be looked up. -/
lemma requirePlannable_eq_ok {constraints : List (Constraint ν α)}
    (active : ∀ c ∈ constraints, ∃ b, c.active = .flag b)
    (named : ∀ c ∈ constraints, Name.requireAll c.entities = (.ok () : Except (Fault α) Unit)) :
    requirePlannable constraints = .ok () := by
  induction constraints with
  | nil => rfl
  | cons c rest ih =>
    obtain ⟨⟨b, flag⟩, others⟩ := List.forall_mem_cons.mp active
    obtain ⟨first, others'⟩ := List.forall_mem_cons.mp named
    have truth : c.active.truth = .ok b := by rw [flag]; rfl
    rw [requirePlannable, truth]
    cases b with
    | false => exact ih others others'
    | true =>
      simp only [bind, Except.bind, if_true, first]
      exact ih others others'

/-- Without a step to make, the damping is of no consequence. -/
lemma run_of_idle {settings : Settings α} {plan : List (Constraint ν α)} {start : Iterate ν α}
    (idle : settings.maxIterations = 0 ∨ start.isDone settings.tolerance = true) :
    run settings plan start = [] := by
  rw [run]
  cases h : settings.maxIterations with
  | zero => rfl
  | succ n =>
    have done := idle.resolve_left (by rw [h]; exact Nat.succ_ne_zero n)
    rw [Iteration.trail, if_pos done]

lemma solve_of_idle {cap : Nat} {tolerance : α} (damping damping' : α)
    {entities : Table ν (Entity ν α)} {constraints : List (Constraint ν α)}
    (idle : cap = 0 ∨
      (Iterate.of (plan entities constraints) entities).isDone tolerance = true) :
    solve ⟨cap, tolerance, damping⟩ entities constraints =
      solve ⟨cap, tolerance, damping'⟩ entities constraints := by
  by_cases planned : plan entities constraints = []
  · rw [solve_eq_trivial planned, solve_eq_trivial planned]
  · rw [solve_eq_ofRun planned, solve_eq_ofRun planned, run_of_idle, run_of_idle]
    · rfl
    · exact idle
    · exact idle

lemma mem_of_mem_upToFirst {β : Type} {test : β → Bool} {xs : List β} {x : β}
    (there : x ∈ upToFirst test xs) : x ∈ xs := by
  induction xs with
  | nil => exact there
  | cons y rest ih =>
    rw [upToFirst] at there
    split at there
    · rw [List.mem_singleton.mp there]
      exact List.mem_cons_self
    · cases List.mem_cons.mp there with
      | inl here => exact here ▸ List.mem_cons_self
      | inr later => exact List.mem_cons_of_mem y (ih later)

end Gradient

namespace Sketch

/-- Plain numbers are not worn by a solve. -/
lemma worn_eq_self [Named ν α] [Scalar.IsPlain α] (s : Sketch ν α α) : s.worn = s := by
  rw [worn]
  split
  · have kept : ∀ t ∈ Gradient.upToFirst (fun t => (t.fault? : Option (Fault α)).isSome)
        (Gradient.survey s.plan s.entities), t.left = s.entities :=
      fun t made => Gradient.survey_left s.plan s.entities t (Gradient.mem_of_mem_upToFirst made)
    simp only [Gradient.leftBy_eq_self kept]
  · rfl

/-- The tolerance of the settings is the one that the options give. -/
lemma bound_of_settings_eq_ok [Named ν α] {s : Sketch ν α α} {settings : Gradient.Settings α}
    (settled : s.settings = .ok settings) : s.options.tolerance.bound = .ok settings.tolerance := by
  obtain ⟨limits, limited, settled⟩ := Except.bind_eq_ok.mp settled
  obtain ⟨cap, -, limited⟩ := Except.bind_eq_ok.mp limited
  obtain ⟨tolerance, bound, limited⟩ := Except.bind_eq_ok.mp limited
  cases limited
  dsimp only at settled
  split at settled
  · cases settled
    exact bound
  · obtain ⟨damping, -, settled⟩ := Except.bind_eq_ok.mp settled
    obtain ⟨-, settled⟩ := Except.bind_unit_eq_ok.mp settled
    cases settled
    exact bound

/-- Whatever the options are, a solve that does not fail runs the descent with some settings. If
there is anything to solve for, their tolerance is the one that the options give. -/
lemma exists_eq_solve [Named ν α] {s : Sketch ν α α} {solution : Gradient.Solution ν α}
    (solved : s.solve.result = .ok solution) : ∃ settings,
      (s.plan ≠ [] → s.options.tolerance.bound = .ok settings.tolerance) ∧
        solution = Gradient.solve settings s.entities s.constraints.values := by
  obtain ⟨solution', descended, reported⟩ := Except.bind_eq_ok.mp solved
  obtain ⟨-, made⟩ := Except.bind_unit_eq_ok.mp reported
  cases made
  obtain ⟨-, ran⟩ := Except.bind_unit_eq_ok.mp descended
  split at ran
  · next nothing =>
    cases ran
    have nothing := List.isEmpty_iff.mp nothing
    exact ⟨⟨0, 0, 0⟩, absurd nothing, (Gradient.solve_eq_trivial nothing).symm⟩
  · obtain ⟨settings, settled, made⟩ := Except.bind_eq_ok.mp ran
    exact ⟨settings, fun _ => bound_of_settings_eq_ok settled, (Except.ok.inj made).symm⟩

/-- Whatever the options are, a solve that does not fail comes to what some number of steps leads
to. -/
lemma exists_entities_eq [Named ν α] {s : Sketch ν α α} {solution : Gradient.Solution ν α}
    (solved : s.solve.result = .ok solution) : ∃ damping, solution.entities =
      Gradient.entitiesAfter damping s.plan s.entities solution.iterations := by
  obtain ⟨settings, -, rfl⟩ := exists_eq_solve solved
  exact ⟨settings.damping, Gradient.solve_entities⟩

/-- Whatever the options are, a solution says what is not planned of the sketch. -/
lemma diagnostics_of_solve [Named ν α] {s : Sketch ν α α} {solution : Gradient.Solution ν α}
    (solved : s.solve.result = .ok solution) : solution.diagnostics = s.diagnose := by
  obtain ⟨settings, -, rfl⟩ := exists_eq_solve solved
  exact Gradient.solve_diagnostics

/-- Constraints that are active or not can be measured, if it is known whether that is told. -/
lemma requireMeasurable_of_active {s : Sketch ν α α}
    (active : ∀ c ∈ s.constraints.values, ∃ b, c.active = .flag b)
    (named : ∀ c ∈ s.constraints.values,
      Name.requireAll c.entities = (.ok () : Except (Fault α) Unit))
    (verbose : ∃ b, s.options.verbose.truth = .ok b) : s.requireMeasurable = .ok () := by
  obtain ⟨b, truth⟩ := verbose
  rw [requireMeasurable, Gradient.requirePlannable_eq_ok active named,
    Gradient.measureFault?_eq_none, truth]
  cases s.plan.isEmpty <;> rfl

/-- A failed solve can be reported if its tolerance is a factor. -/
lemma requireReportable_of_factor {s : Sketch ν α α} {x : α}
    (factor : s.options.tolerance.factor = .ok x) (solution : Gradient.Solution ν α) :
    s.requireReportable solution = .ok () := by
  have factor' : (Component.factor s.options.tolerance : Except (Fault α) α) = .ok x := factor
  rw [requireReportable, factor']
  cases solution.success with
  | true => rfl
  | false =>
    generalize s.options.tolerance = v at factor
    cases v with
    | array kind shape data =>
      cases shape with
      | nil => rfl
      | cons n shape => cases factor
    | _ => rfl

/-- A sketch whose options are of use, and whose constraints are active or not and name what can be
looked up. -/
structure IsSolvable (s : Sketch ν α α) : Prop where
  cap : ∃ count, s.options.maxIterations.iterationCap = .ok count
  bound : ∃ x, s.options.tolerance.bound = .ok x
  tolerance : ∃ x, s.options.tolerance.factor = .ok x
  damping : ∃ x, s.options.damping.factor = .ok x
  verbose : ∃ b, s.options.verbose.truth = .ok b
  active : ∀ c ∈ s.constraints.values, ∃ b, c.active = .flag b
  named : ∀ c ∈ s.constraints.values, Name.requireAll c.entities = (.ok () : Except (Fault α) Unit)

/-- A solve of such a sketch comes to a solution. -/
theorem IsSolvable.exists_solve [Named ν α] {s : Sketch ν α α}
    (solvable : s.IsSolvable) : ∃ solution, s.solve.result = .ok solution := by
  have settings : ∃ settings, s.settings = .ok settings := by
    obtain ⟨count, cap⟩ := solvable.cap
    obtain ⟨x, bound⟩ := solvable.bound
    obtain ⟨y, factor⟩ := solvable.damping
    have bound' : (Component.bound s.options.tolerance : Except (Fault α) α) = .ok x := bound
    have factor' : (Component.factor s.options.damping : Except (Fault α) α) = .ok y := factor
    rw [Sketch.settings, limits, cap, bound']
    simp only [bind, Except.bind, pure, Except.pure, factor', Gradient.stepFault?_eq_none]
    split
    · exact ⟨_, rfl⟩
    · exact ⟨_, rfl⟩
  obtain ⟨settings, settled⟩ := settings
  have descended : ∃ solution, s.descend = .ok solution := by
    rw [descend, requireMeasurable_of_active solvable.active solvable.named solvable.verbose,
      settled]
    cases s.plan.isEmpty <;> exact ⟨_, rfl⟩
  obtain ⟨solution, descended⟩ := descended
  obtain ⟨x, factor⟩ := solvable.tolerance
  refine ⟨solution, ?_⟩
  rw [solve, conclude, descended]
  simp only [bind, Except.bind, requireReportable_of_factor factor]
  rfl

variable {s : Sketch ν α α} {cap : ℤ} {tolerance damping : α}

/-- The numbers that a solve of a typed sketch needs can all be found out. -/
lemma IsTyped.limits_eq_ok (typed : s.IsTyped cap tolerance damping) :
    s.limits = .ok (cap.toNat, tolerance,
      !(cap.toNat = 0 ∨ (Gradient.Iterate.of s.plan s.entities).isDone tolerance)) := by
  have iterationCap : s.options.maxIterations.iterationCap = .ok cap.toNat := by
    rw [typed.cap]
    rfl
  have bound : (Component.bound s.options.tolerance : Except (Fault α) α) = .ok tolerance :=
    typed.tolerance.bound_eq_ok
  rw [limits, iterationCap, bound]
  rfl

lemma IsTyped.requireMeasurable_eq_ok [LawfulName ν] (typed : s.IsTyped cap tolerance damping) :
    s.requireMeasurable = .ok () := by
  obtain ⟨b, verbose⟩ := typed.verbose
  exact requireMeasurable_of_active typed.active (fun c _ => Name.requireAll_eq_ok c.entities)
    ⟨b, by rw [verbose]; rfl⟩

/-- A failed solve of a typed sketch can be reported. -/
lemma IsTyped.requireReportable_eq_ok (typed : s.IsTyped cap tolerance damping)
    (solution : Gradient.Solution ν α) : s.requireReportable solution = .ok () :=
  requireReportable_of_factor typed.tolerance.factor_eq_ok solution

variable [Named ν α]

lemma IsTyped.settings_eq_ok (typed : s.IsTyped cap tolerance damping) :
    ∃ damping', s.settings = .ok ⟨cap.toNat, tolerance, damping'⟩ ∧
      (damping' = damping ∨ cap.toNat = 0 ∨
        (Gradient.Iterate.of s.plan s.entities).isDone tolerance = true) := by
  have factor : (Component.factor s.options.damping : Except (Fault α) α) = .ok damping :=
    typed.damping.factor_eq_ok
  rw [settings, typed.limits_eq_ok, factor]
  by_cases idle : cap.toNat = 0 ∨
      (Gradient.Iterate.of s.plan s.entities).isDone tolerance = true
  · refine ⟨0, ?_, .inr idle⟩
    rw [decide_eq_true idle]
    rfl
  · refine ⟨damping, ?_, .inl rfl⟩
    rw [decide_eq_false idle]
    simp only [bind, Except.bind, Gradient.stepFault?_eq_none]
    rfl

/-- The descent of a typed sketch comes to a solution. -/
lemma IsTyped.descend_eq_ok [LawfulName ν] (typed : s.IsTyped cap tolerance damping) :
    s.descend =
      .ok (Gradient.solve ⟨cap.toNat, tolerance, damping⟩ s.entities s.constraints.values) := by
  obtain ⟨damping', settings, same⟩ := typed.settings_eq_ok
  rw [descend, typed.requireMeasurable_eq_ok, settings]
  cases h : s.plan with
  | nil =>
    have nothing : Gradient.plan s.entities s.constraints.values = [] := h
    simp only [Gradient.solve, nothing]
    rfl
  | cons c rest =>
    have solved : Gradient.solve ⟨cap.toNat, tolerance, damping'⟩ s.entities s.constraints.values =
        Gradient.solve ⟨cap.toNat, tolerance, damping⟩ s.entities s.constraints.values := by
      cases same with
      | inl same => rw [same]
      | inr idle => exact Gradient.solve_of_idle damping' damping idle
    rw [← solved]
    rfl

/-- A solve of a typed sketch leaves the sketch as it is and runs the descent. -/
theorem IsTyped.solve_eq [LawfulName ν] [Scalar.IsPlain α]
    (typed : s.IsTyped cap tolerance damping) :
    s.solve = ⟨s, .ok (Gradient.solve ⟨cap.toNat, tolerance, damping⟩ s.entities
      s.constraints.values)⟩ := by
  rw [solve, worn_eq_self, typed.descend_eq_ok, conclude]
  simp only [bind, Except.bind, typed.requireReportable_eq_ok]
  rfl

end Sketch

end Drafting
