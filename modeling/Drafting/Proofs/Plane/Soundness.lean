import Drafting.Proofs.Plane.Registration
import Drafting.Proofs.Plane.Typing

/-!
# What a solution says of a drawing

In exact arithmetic a solution can be taken at its word (`Drawing.IsTyped.solve_isSolvedBy`): its
diagnostics and the planned rows account for every enabled constraint, its residual is the length of
the residuals of the rows at the numbers that it holds, it claims success if that is within the
tolerance, and then no single residual of a row exceeds the tolerance.
-/

namespace Drafting.Plane

/-! ### Lengths -/

section

variable {xs : List ℝ}

lemma norm_eq_sqrt_sum (xs : List ℝ) : Linear.norm xs = √(xs.map (· ^ 2)).sum := by
  have squares : List.zipWith (· * ·) xs xs = xs.map (· ^ 2) := by
    rw [List.zipWith_self]
    exact List.map_congr_left fun x _ => (pow_two x).symm
  rw [Linear.norm, Linear.dot, squares, Scalar.sum_eq_sum]
  rfl

/-- No number of a list is greater than its length as a vector. -/
lemma abs_le_norm {x : ℝ} (there : x ∈ xs) : |x| ≤ Linear.norm xs := by
  have single : x ^ 2 ≤ (xs.map (· ^ 2)).sum :=
    List.single_le_sum (List.forall_mem_map.mpr fun y _ => sq_nonneg y) _
      (List.mem_map_of_mem there)
  rw [norm_eq_sqrt_sum]
  exact Real.abs_le_sqrt single

end

/-! ### Steps -/

section

variable {α : Type} [Scalar α]

/-- The numbers that steps lead to. -/
def paramsAfter (settings : Settings α) (demands : List (Demand α)) (params : List α)
    (count : ℕ) : List α :=
  ((Iterate.next settings demands)^[count] (.of demands params)).params

/-- Iterates hold the residuals of the numbers that they hold. -/
lemma iterate_next (settings : Settings α) (demands : List (Demand α)) (params : List α)
    (count : ℕ) : (Iterate.next settings demands)^[count] (.of demands params) =
      .of demands (paramsAfter settings demands params count) := by
  cases count with
  | zero => rfl
  | succ n =>
    rw [paramsAfter, Function.iterate_succ_apply']
    rfl

lemma last_run (settings : Settings α) (demands : List (Demand α)) (params : List α) :
    Iteration.last (.of demands params) (run settings demands (.of demands params)) =
      .of demands (paramsAfter settings demands params
        (run settings demands (.of demands params)).length) := by
  rw [← iterate_next, run, Iteration.last_trail]

lemma length_paramsAfter {settings : Settings α} {damping : α}
    (uniform : settings.damping = .uniform damping) (demands : List (Demand α)) (params : List α)
    (count : ℕ) : (paramsAfter settings demands params count).length = params.length :=
  Iterate.length_params_iterate demands uniform count

/-! ### Numbers by id -/

namespace Drawing

/-- A drawing whose options and objects are typed, with settings that its options amount to. -/
structure IsTyped (d : Drawing String α) (cap : ℤ) (settings : Settings α) : Prop where
  options : settings.IsGivenBy d.options cap
  board : d.board.IsTyped
  constraints : d.HasConstraints
  indexed : d.IsIndexed

end Drawing

end

/-! ### Exact solutions -/

lemma isDone_of_iff {tolerance : ℝ} {demands : List (Demand ℝ)} {params : List ℝ} :
    (Iterate.of demands params).isDone tolerance = true ↔
      √((Demand.allResiduals demands params).map (· ^ 2)).sum ≤ tolerance := by
  rw [Iterate.isDone, decide_eq_true_iff, ← norm_eq_sqrt_sum]
  rfl

namespace Drawing

/-- What a solution has to say to be right about a drawing with a plan and its demands. -/
structure IsSolvedBy (d : Drawing String ℝ) (cap : ℤ) (settings : Settings ℝ) (plan : Plan ℝ)
    (demands : List (Demand ℝ)) (solution : Solution String ℝ) : Prop where
  /-- Every constraint has a standing, and the diagnostics tell of those that are left out. -/
  accounted : d.IsPlannedAs plan ∧ solution.diagnostics = plan.diagnostics
  /-- Every enabled constraint counts once, as skipped, not supported or planned. -/
  counted : d.constraints.countP d.isEnabled = solution.diagnostics.skipped.length +
    solution.diagnostics.unsupported.length + plan.rows.length
  /-- The numbers are those that the steps lead to, by the ids of their unknowns. -/
  reached : solution.values.entries = numbered
    { d with params := paramsAfter settings demands d.params solution.iterations }
  /-- A success bounds every residual of each row. -/
  bounded : solution.success = true → ∀ demand ∈ demands,
    ∀ r ∈ demand.residuals solution.values.values, |r| ≤ settings.tolerance
  /-- The residual is the length of all residuals. -/
  length : solution.residual =
    √((Demand.allResiduals demands solution.values.values).map (· ^ 2)).sum
  /-- It is zero if nothing is planned. -/
  idle : plan.rows = [] → solution.residual = 0
  /-- A success is what the residual makes one. -/
  within : solution.success = true ↔ plan.rows = [] ∨ solution.residual ≤ settings.tolerance
  /-- A failure has made all of its steps. -/
  exhausted : solution.success = false → (solution.iterations : ℤ) = max 0 cap
  /-- A success has made no more steps than it had to. -/
  least : solution.success = true → IsLeast { count | plan.rows = [] ∨
    √((Demand.allResiduals demands (paramsAfter settings demands d.params count)).map
      (· ^ 2)).sum ≤ settings.tolerance } solution.iterations

variable {d : Drawing String ℝ} {cap : ℤ} {settings : Settings ℝ} {plan : Plan ℝ}
  {demands : List (Demand ℝ)}

/-- Without rows, the solution that there is nothing to solve is right. -/
lemma IsTyped.isSolvedBy_of_idle (typed : d.IsTyped cap settings) (planned : d.IsPlannedAs plan)
    (made : d.demands plan = .ok demands) (nothing : plan.rows = []) :
    d.IsSolvedBy cap settings plan demands
      ⟨true, [], 0, .ofList d.numbered, plan.diagnostics⟩ := by
  obtain rfl : demands = [] := by
    rw [Drawing.demands, nothing] at made
    exact (Except.ok.inj made).symm
  constructor
  case accounted => exact ⟨planned, rfl⟩
  case counted => exact planned.countP_isEnabled
  case reached => exact typed.indexed.entries_ofList typed.indexed.full
  case bounded => exact fun _ => List.forall_mem_nil _
  case length => exact Real.sqrt_zero.symm
  case idle => exact fun _ => rfl
  case within => exact ⟨fun _ => .inl nothing, fun _ => rfl⟩
  case exhausted => nofun
  case least => exact fun _ => ⟨.inl nothing, fun count _ => Nat.zero_le count⟩

/-- A run is right about the drawing that it is made for. -/
lemma IsTyped.isSolvedBy_run (typed : d.IsTyped cap settings) (planned : d.IsPlannedAs plan)
    (busy : plan.rows ≠ []) {steps : ℕ}
    (stops : (run settings demands (.of demands d.params)).length = steps) :
    d.IsSolvedBy cap settings plan demands
      { success := (Iterate.of demands (paramsAfter settings demands d.params steps)).isDone
          settings.tolerance
        history := (run settings demands (.of demands d.params)).map Iterate.norm
        residual := (Iterate.of demands (paramsAfter settings demands d.params steps)).norm
        values := .ofList
          (numbered { d with params := paramsAfter settings demands d.params steps })
        diagnostics := plan.diagnostics } := by
  obtain ⟨damping, -, uniform⟩ := typed.options.damping
  have full : (paramsAfter settings demands d.params steps).length = d.unknowns.length :=
    (length_paramsAfter uniform demands d.params steps).trans typed.indexed.full
  have entries := typed.indexed.entries_ofList full
  have values : (Table.ofList (numbered
      { d with params := paramsAfter settings demands d.params steps })).values =
        paramsAfter settings demands d.params steps := by
    rw [Table.values, entries, map_snd_numbered full]
  -- the run is the trail of the iterates, as far as it goes
  have counted : ((run settings demands (.of demands d.params)).map Iterate.norm).length = steps :=
    (List.length_map _).trans stops
  have not_done {count : ℕ} (early : count < steps) :
      (Iterate.of demands (paramsAfter settings demands d.params count)).isDone
        settings.tolerance = false := by
    rw [← iterate_next]
    exact Iteration.not_done_of_lt_length (stops ▸ early)
  constructor
  case accounted => exact ⟨planned, rfl⟩
  case counted => exact planned.countP_isEnabled
  case reached =>
    rw [Solution.iterations, counted]
    exact entries
  case bounded =>
    intro succeeded demand there r component
    rw [values] at component
    have small : (Iterate.of demands (paramsAfter settings demands d.params steps)).norm ≤
        settings.tolerance := of_decide_eq_true succeeded
    exact (abs_le_norm (List.mem_flatMap.mpr ⟨demand, there, component⟩)).trans small
  case length =>
    rw [values]
    exact norm_eq_sqrt_sum _
  case idle => exact fun nothing => absurd nothing busy
  case within =>
    rw [or_iff_right busy]
    exact decide_eq_true_iff
  case exhausted =>
    intro failed
    have all : steps = settings.maxIterations := by
      rw [← stops]
      refine Iteration.length_trail_of_not_done ?_
      show Iterate.isDone settings.tolerance ((Iterate.next settings demands)^[
        (run settings demands (.of demands d.params)).length] (.of demands d.params)) = false
      rw [stops, iterate_next]
      exact failed
    rw [Solution.iterations, counted, all, typed.options.cap, Int.toNat_eq_max, max_comm]
  case least =>
    intro succeeded
    rw [Solution.iterations, counted]
    refine ⟨.inr (isDone_of_iff.mp succeeded), fun count settled => ?_⟩
    refine Nat.le_of_not_lt fun early => ?_
    have done := isDone_of_iff.mpr (settled.resolve_left busy)
    rw [not_done early] at done
    cases done

/-- Solving a typed drawing comes to a solution that is right about it. -/
theorem IsTyped.solve_isSolvedBy (typed : d.IsTyped cap settings) (nonempty : d.params ≠ []) :
    ∃ plan demands solution, d.plan = .ok plan ∧ d.demands plan = .ok demands ∧
      d.solve.result = .ok solution ∧ d.IsSolvedBy cap settings plan demands solution := by
  obtain ⟨plan, planned, stands⟩ := exists_plan typed.board typed.constraints
  obtain ⟨demands, made⟩ :=
    exists_demands typed.indexed.slots typed.board typed.constraints stands
  by_cases nothing : plan.rows = []
  · have idle : d.isIdle plan = true := by rw [isIdle, nothing, List.isEmpty_nil, Bool.or_true]
    refine ⟨plan, demands, _, planned, made, ?_, typed.isSolvedBy_of_idle stands made nothing⟩
    rw [solve_of_idle planned idle typed.indexed.full.ge]
  · have busy : d.isIdle plan = false := by
      rw [isIdle, List.isEmpty_eq_false_iff.mpr nonempty, List.isEmpty_eq_false_iff.mpr nothing]
      rfl
    have full : d.unknowns.length ≤ (Iteration.last (.of demands d.params)
        (run settings demands (.of demands d.params))).params.length := by
      rw [length_params_last typed.options]
      exact typed.indexed.full.ge
    refine ⟨plan, demands, _, planned, made, ?_, typed.isSolvedBy_run stands nothing rfl⟩
    rw [solve_of_busy typed.options planned busy made, conclude_of_full _ _ _ _ full, last_run]
    rfl

/-- A drawing of one point with slots and a constraint of each standing: that the point is at the
origin, that it is level with a point that is not there, that it is tangent to itself, and one that
is not enabled. -/
noncomputable def assorted (cap : ℤ) (tolerance : ℝ) : Drawing String ℝ where
  options := ⟨.int cap, .real tolerance, .real 1, .real 0.5, .real 0.5⟩
  board :=
    { points := [⟨.real 3, .real 4, some "p", .flag false, []⟩]
      unknowns := [⟨"p.x", .real 3, .member .x, []⟩, ⟨"p.y", .real 4, .member .y, []⟩]
      constraints := [⟨.member .fixed, .references [.item (.point 0)],
          .tuple [.real 0, .real 0], .text "pin", .flag true, []⟩,
        ⟨.member .horizontal, .references [.item (.point 0), .value (.text "q")],
          .null, .text "level", .flag true, []⟩,
        ⟨.member .tangent, .references [.item (.point 0), .item (.point 0)],
          .null, .null, .flag true, []⟩,
        ⟨.member .distance, .references [], .real 1, .text "", .flag false, []⟩] }
  unknowns := [.variable 0, .variable 1]
  slots := .ofList [("p.x", 0), ("p.y", 1)]
  params := [3, 4]
  points := .ofList [("p", .point 0)]
  constraints := [.constraint 0, .constraint 1, .constraint 2, .constraint 3]

lemma isTyped_assorted (cap : ℤ) (tolerance : ℝ) :
    (assorted cap tolerance).IsTyped cap ⟨cap.toNat, tolerance, 0.5, 0.5, .uniform 1⟩ where
  options := ⟨rfl, rfl, .real _, .real _, .real _, 1, .real _, rfl⟩
  board :=
    { points := List.forall_mem_singleton.mpr ⟨⟨_, .real _⟩, ⟨_, .real _⟩⟩
      unknowns := by
        refine List.forall_mem_cons.mpr ⟨⟨_, .real _⟩, ?_⟩
        exact List.forall_mem_singleton.mpr ⟨_, .real _⟩
      constraints := by
        refine List.forall_mem_cons.mpr ⟨?_, List.forall_mem_cons.mpr ⟨?_,
          List.forall_mem_cons.mpr ⟨?_, List.forall_mem_singleton.mpr ?_⟩⟩⟩
        · exact ⟨⟨_, rfl⟩, ⟨_, rfl⟩, .tuple ⟨_, .real _⟩ ⟨_, .real _⟩, .inr ⟨_, rfl⟩, ⟨_, rfl⟩⟩
        · exact ⟨⟨_, rfl⟩, ⟨_, rfl⟩, .null, .inr ⟨_, rfl⟩, ⟨_, rfl⟩⟩
        · exact ⟨⟨_, rfl⟩, ⟨_, rfl⟩, .null, .inl rfl, ⟨_, rfl⟩⟩
        · exact ⟨⟨_, rfl⟩, ⟨_, rfl⟩, .number ⟨_, .real _⟩, .inr ⟨_, rfl⟩, ⟨_, rfl⟩⟩ }
  constraints item used := by
    cases item with
    | constraint place =>
      have among : place = 0 ∨ place = 1 ∨ place = 2 ∨ place = 3 := by simpa [assorted] using used
      refine ⟨place, ?_, rfl⟩
      show place < 4
      omega
    | point place | «variable» place => simp [assorted] at used
  indexed :=
    { full := rfl
      slots := fun id slot found => by
        have there : (id, slot) ∈ [("p.x", 0), ("p.y", 1)] := Table.mem_of_get? found
        obtain ⟨-, rfl⟩ | ⟨-, rfl⟩ := by simpa using there
        · exact Nat.zero_lt_succ _
        · exact Nat.one_lt_succ_succ _
      nodup := by
        show ["p.x", "p.y"].Nodup
        decide }

theorem assorted_solve_isSolvedBy :
    (assorted 7 0.5).IsTyped 7 ⟨7, 0.5, 0.5, 0.5, .uniform 1⟩ ∧ (assorted 7 0.5).params ≠ [] ∧
      ∃ plan demands solution, (assorted 7 0.5).plan = .ok plan ∧
        (assorted 7 0.5).demands plan = .ok demands ∧
        (assorted 7 0.5).solve.result = .ok solution ∧
        (assorted 7 0.5).IsSolvedBy 7 ⟨7, 0.5, 0.5, 0.5, .uniform 1⟩ plan demands solution :=
  ⟨isTyped_assorted 7 0.5, List.cons_ne_nil _ _,
    (isTyped_assorted 7 0.5).solve_isSolvedBy (List.cons_ne_nil _ _)⟩

end Drawing

end Drafting.Plane
