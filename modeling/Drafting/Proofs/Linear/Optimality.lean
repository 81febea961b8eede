import Drafting.Proofs.Linear.LeastSquares

/-!
# What a Newton step achieves

In exact arithmetic the normal equations of a system say that what is left over is orthogonal to
every column (`isSolution_normalEquations_iff`). They always have a solution
(`exists_isSolution_normalEquations`), and each solution leaves the least sum of squares
(`IsSolution.dot_excess_le`). So a step by least squares is one of the best there are, and a step by
elimination as well if the system has a solution. If it has none, elimination drops the equations
that its pivots leave over: what it makes hold spans the system, but a smaller sum of squares may be
possible (`isBestStep_newtonStep`, `not_forall_norm_residualsAfter_le`).
-/

namespace Drafting.Linear

variable {n : ℕ} {system : List (Equation ℝ)}

/-! ### Inner products and norms -/

lemma norm_le_norm_iff {xs ys : List ℝ} : norm xs ≤ norm ys ↔ dot xs xs ≤ dot ys ys :=
  Real.sqrt_le_sqrt_iff (dot_self_nonneg ys)

lemma dot_of_getD_eq_zero {xs ys : List ℝ} (zero : ∀ i < ys.length, xs.getD i 0 = 0) :
    dot xs ys = 0 := by
  induction xs generalizing ys with
  | nil => exact dot_nil_left ys
  | cons x rest ih =>
    cases ys with
    | nil => exact dot_nil_right _
    | cons y ys =>
      have first : x = 0 := zero 0 (Nat.succ_pos _)
      have others : dot rest ys = 0 :=
        ih fun i inside => zero (i + 1) (Nat.succ_lt_succ inside)
      rw [dot_cons_cons, first, others, zero_mul, zero_add]

lemma dot_append_singleton (xs ys : List ℝ) (y : ℝ) :
    dot xs (ys ++ [y]) = dot xs ys + xs.getD ys.length 0 * y := by
  induction xs generalizing ys with
  | nil => simp
  | cons x rest ih =>
    cases ys with
    | nil => simp
    | cons z zs =>
      rw [List.cons_append, dot_cons_cons, dot_cons_cons, ih, List.length_cons, List.getD_cons_succ,
        add_assoc]

/-! ### What values leave over -/

/-- By how much each equation of a system is missed. -/
noncomputable def excess (system : List (Equation ℝ)) (xs : List ℝ) : List ℝ :=
  system.map fun e => e.eval xs - e.value

lemma isSolution_iff_excess_eq_zero {xs : List ℝ} :
    IsSolution system xs ↔ ∀ x ∈ excess system xs, x = 0 := by
  rw [excess, List.forall_mem_map]
  exact forall₂_congr fun e _ => sub_eq_zero.symm

/-- What is orthogonal to the columns that have a weight is orthogonal to what the weights make of
the system. -/
lemma dot_eval_eq_zero (wide : HasWidth n system) {xs rest : List ℝ}
    (orthogonal : ∀ unknown < n, unknown < xs.length →
      dot (coefficientsOf system unknown) rest = 0) :
    dot (system.map fun e => e.eval xs) rest = 0 := by
  rw [← dot_columns wide]
  refine dot_of_getD_eq_zero fun i weighed => ?_
  by_cases inside : i < n
  · rw [List.getD_eq_getElem _ _ (by simpa using inside), List.getElem_map, List.getElem_range]
    exact orthogonal i inside weighed
  · exact List.getD_eq_default _ _ (by simpa using inside)

lemma isSolution_normalEquations_iff (wide : HasWidth n system) {xs : List ℝ} :
    IsSolution (normalEquations n system) xs ↔
      ∀ unknown < n, dot (coefficientsOf system unknown) (excess system xs) = 0 := by
  rw [IsSolution, normalEquations_eq_map, List.forall_mem_map]
  refine forall_congr' fun unknown => ?_
  rw [List.mem_range]
  refine imp_congr_right fun _ => ?_
  have value : (normalEquation n system unknown).value =
      dot (system.map Equation.value) (coefficientsOf system unknown) := dot_comm _ _
  rw [eval_normalEquation wide, value, dot_comm _ (excess system xs), excess, dot_map_sub]
  exact sub_eq_zero.symm

theorem IsSolution.dot_excess_le (wide : HasWidth n system) {xs : List ℝ}
    (solution : IsSolution (Linear.normalEquations n system) xs) (ys : List ℝ) :
    dot (excess system xs) (excess system xs) ≤ dot (excess system ys) (excess system ys) := by
  have orthogonal := (isSolution_normalEquations_iff wide).mp solution
  let way (e : Equation ℝ) : ℝ := e.eval ys - e.eval xs
  have across : dot (system.map way) (excess system xs) = 0 := by
    rw [dot_map_sub, dot_eval_eq_zero wide fun unknown inside _ => orthogonal unknown inside,
      dot_eval_eq_zero wide fun unknown inside _ => orthogonal unknown inside, sub_zero]
  have sum : excess system ys = system.map fun e => way e + (e.eval xs - e.value) :=
    List.map_congr_left fun e _ => (sub_add_sub_cancel _ _ _).symm
  -- the squares add up, as the way from one to the other is orthogonal to what is left over
  have squares : dot (excess system ys) (excess system ys) =
      dot (system.map way) (system.map way) + dot (excess system xs) (excess system xs) := by
    have back : dot (excess system xs) (excess system ys) =
        dot (excess system xs) (excess system xs) := by
      rw [dot_comm, sum, dot_map_add, across, zero_add]
      rfl
    have forth : dot (system.map way) (excess system ys) =
        dot (system.map way) (system.map way) := by
      rw [dot_comm, sum, dot_map_add, dot_comm (system.map fun e => e.eval xs - e.value)]
      exact add_eq_left.mpr across
    rw [← forth, ← back]
    nth_rewrite 1 [sum]
    exact dot_map_add _ _ _ _
  rw [squares]
  exact le_add_of_nonneg_left (dot_self_nonneg _)

/-- Weights of the first columns of a system for which what is left over is orthogonal to them. -/
def IsOrthogonalBelow (system : List (Equation ℝ)) (xs : List ℝ) : Prop :=
  ∀ unknown < xs.length, dot (coefficientsOf system unknown) (excess system xs) = 0

/-- One more column is weighed by the part of it that the columns before do not make up. -/
lemma IsOrthogonalBelow.extend (wide : HasWidth n system) {xs weights : List ℝ}
    (orthogonal : IsOrthogonalBelow system xs) (same : xs.length = weights.length)
    (apart : IsOrthogonalBelow (system.map (aim xs.length)) weights) :
    ∃ factor, IsOrthogonalBelow system (subtract factor xs weights ++ [factor]) := by
  let column := coefficientsOf system xs.length
  let rest := excess (system.map (aim xs.length)) weights
  have columns (unknown : ℕ) : coefficientsOf (system.map (aim xs.length)) unknown =
      coefficientsOf system unknown := List.map_map
  have rest_eq : rest = system.map fun e => e.eval weights - e.coefficients.getD xs.length 0 :=
    List.map_map
  have length (factor : ℝ) : (subtract factor xs weights).length = xs.length := by
    rw [subtract, List.length_zipWith, ← same, Nat.min_self]
  have left (factor : ℝ) (ys : List ℝ) :
      dot ys (excess system (subtract factor xs weights ++ [factor])) =
        dot ys (excess system xs) - dot ys rest * factor := by
    have pointwise : excess system (subtract factor xs weights ++ [factor]) =
        system.map fun e => e.eval xs - e.value -
          (e.eval weights - e.coefficients.getD xs.length 0) * factor := by
      refine List.map_congr_left fun e _ => ?_
      rw [Equation.eval, dot_append_singleton, length, dot_comm, dot_subtract factor same,
        dot_comm xs, dot_comm weights]
      simp only [Equation.eval]
      ring
    rw [pointwise, dot_comm, dot_map_sub, dot_map_mul, ← rest_eq, dot_comm rest]
    exact congrArg (· - _) (dot_comm _ _)
  have weighed : dot (system.map fun e => e.eval weights) rest = 0 :=
    dot_eval_eq_zero wide fun unknown _ inside => by
      rw [← columns]
      exact apart unknown inside
  have square : dot rest rest = -dot column rest := by
    nth_rewrite 1 [rest_eq]
    rw [dot_map_sub, weighed, zero_sub]
    rfl
  refine ⟨dot column (excess system xs) / dot column rest, fun unknown inside => ?_⟩
  rw [List.length_append, length, List.length_singleton, Nat.lt_succ_iff_lt_or_eq] at inside
  rw [left]
  obtain before | rfl := inside
  · have first := orthogonal unknown before
    have second := apart unknown (same ▸ before)
    rw [columns] at second
    rw [first, second, zero_mul, sub_zero]
  · by_cases made : dot column rest = 0
    -- the columns before make up this one, so that what is left over is orthogonal to it as well
    · have zero : ∀ x ∈ rest, x = 0 :=
        eq_zero_of_dot_self_eq_zero (by rw [square, made, neg_zero])
      have column_eq : column = system.map fun e => e.eval weights := by
        refine List.map_congr_left fun e there => ?_
        rw [rest_eq, List.forall_mem_map] at zero
        exact (sub_eq_zero.mp (zero e there)).symm
      have across : dot column (excess system xs) = 0 := by
        rw [column_eq]
        exact dot_eval_eq_zero wide fun unknown _ inside => orthogonal unknown (same ▸ inside)
      rw [across, zero_div, mul_zero, sub_zero]
    · rw [mul_div_cancel₀ _ made]
      exact sub_self _

theorem exists_isSolution_normalEquations (wide : HasWidth n system) :
    ∃ xs, IsSolution (normalEquations n system) xs := by
  have below : ∀ count, ∀ system, HasWidth n system →
      ∃ xs : List ℝ, xs.length = count ∧ IsOrthogonalBelow system xs := by
    intro count
    induction count with
    | zero => exact fun _ _ => ⟨[], rfl, nofun⟩
    | succ count ih =>
      intro system wide
      -- the columns before are weighed for the values and for the next column, one like the other
      obtain ⟨xs, rfl, orthogonal⟩ := ih system wide
      obtain ⟨weights, same, apart⟩ := ih _ (wide.map_aim xs.length)
      obtain ⟨factor, orthogonal⟩ := orthogonal.extend wide same.symm apart
      refine ⟨_, ?_, orthogonal⟩
      rw [List.length_append, subtract, List.length_zipWith, same, Nat.min_self]
      rfl
  obtain ⟨xs, rfl, orthogonal⟩ := below n system wide
  exact ⟨xs, (isSolution_normalEquations_iff wide).mpr orthogonal⟩

/-! ### What elimination makes hold -/

lemma forall_mem_perm {p : Equation ℝ → Prop} {system' : List (Equation ℝ)}
    (perm : system.Perm system') : (∀ e ∈ system, p e) ↔ ∀ e ∈ system', p e :=
  forall_congr' fun _ => imp_congr_left perm.mem_iff

/-- What is left of an equation makes of values what the equation and the pivot make of them. -/
lemma eval_reduce_tail {pivot e : Equation ℝ}
    (same : e.coefficients.length = pivot.coefficients.length) (nonzero : pivot.leading ≠ 0)
    (xs : List ℝ) : (pivot.reduce e).eval xs.tail =
      e.eval xs - e.leading / pivot.leading * pivot.eval xs := by
  rw [Equation.eval_reduce same, e.eval_eq_leading_mul_add, pivot.eval_eq_leading_mul_add]
  field_simp
  ring

lemma eval_reduce_eq_value_iff {pivot e : Equation ℝ}
    (same : e.coefficients.length = pivot.coefficients.length) (nonzero : pivot.leading ≠ 0)
    {xs : List ℝ} (holds : pivot.eval xs = pivot.value) :
    (pivot.reduce e).eval xs.tail = (pivot.reduce e).value ↔ e.eval xs = e.value := by
  rw [eval_reduce_tail same nonzero, holds]
  exact sub_left_inj

/-- The equations that elimination makes hold span the system: numbers that are orthogonal to all of
them are orthogonal to the others too. -/
theorem eval_eq_zero_of_forall_solved {t : ℝ} (positive : 0 < t) (wide : HasWidth n system)
    (decisive : IsDecisive t n system) {xs : List ℝ}
    (zero : ∀ e ∈ system, e.eval (eliminate t n system) = e.value → e.eval xs = 0) :
    ∀ e ∈ system, e.eval xs = 0 := by
  induction n, system using elimination_induction t generalizing xs with
  | zero system =>
    intro e there
    rw [Equation.eval, List.length_eq_zero_iff.mp (wide e there), dot_nil_left]
  | nil n => exact List.forall_mem_nil _
  | free n first rest small ih =>
    obtain ⟨null, decisive⟩ := decisive.of_free small
    -- no equation has a coefficient in the first column, so that nothing is lost with it
    have dropped {e : Equation ℝ} (there : e ∈ first :: rest) (ys : List ℝ) :
        e.eval ys = e.dropFirst.eval ys.tail := by
      rw [e.eval_eq_leading_mul_add, null e there, zero_mul, zero_add]
    rw [eliminate_of_free small] at zero
    have others : ∀ e ∈ (first :: rest).map Equation.dropFirst, e.eval xs.tail = 0 := by
      refine ih wide.dropFirst decisive (List.forall_mem_map.mpr fun e there solved => ?_)
      rw [← dropped there]
      exact zero e there ((dropped there _).trans solved)
    intro e there
    rw [dropped there]
    exact others _ (List.mem_map_of_mem there)
  | pivot n first rest large ih =>
    obtain ⟨nonzero, decisive⟩ := decisive.of_pivot positive large
    obtain ⟨widePivot, wideOthers⟩ := List.forall_mem_cons.mp wide.takePivot
    have same {e : Equation ℝ} (there : e ∈ (takePivot first rest).2) :=
      (wideOthers e there).trans widePivot.symm
    rw [← forall_mem_perm (takePivot_perm first rest), eliminate_of_pivot large] at zero
    rw [← forall_mem_perm (takePivot_perm first rest)]
    obtain ⟨zeroPivot, zeroOthers⟩ := List.forall_mem_cons.mp zero
    have holds := (eval_cons_eq_value_iff nonzero).mpr (Eq.refl ((takePivot first rest).1.solveFirst
      (eliminate t n ((takePivot first rest).2.map (takePivot first rest).1.reduce))))
    -- the pivot always holds, and the others differ from what is left of them by multiples of it
    have pivotal := zeroPivot holds
    have others : ∀ e ∈ (takePivot first rest).2.map (takePivot first rest).1.reduce,
        e.eval xs.tail = 0 := by
      refine ih wide.takePivot.reduce decisive (List.forall_mem_map.mpr fun e there solved => ?_)
      rw [eval_reduce_tail (same there) nonzero, pivotal, mul_zero, sub_zero]
      exact zeroOthers e there ((eval_reduce_eq_value_iff (same there) nonzero holds).mp solved)
    refine List.forall_mem_cons.mpr ⟨pivotal, fun e there => ?_⟩
    have left := others _ (List.mem_map_of_mem there)
    rwa [eval_reduce_tail (same there) nonzero, pivotal, mul_zero, sub_zero] at left

/-! ### Steps -/

/-- The residuals that a step leaves over, as far as they are linear. -/
noncomputable def residualsAfter (jacobian : List (List ℝ)) (residuals step : List ℝ) : List ℝ :=
  List.zipWith (fun row residual => dot row step + residual) jacobian residuals

lemma residualsAfter_eq_excess (jacobian : List (List ℝ)) (residuals step : List ℝ) :
    residualsAfter jacobian residuals step = excess (stepEquations jacobian residuals) step := by
  rw [residualsAfter, excess, stepEquations, List.map_zipWith]
  simp only [sub_neg_eq_add]
  rfl

/-- The system that a step eliminates: its equations, or their normal equations if there are more
than unknowns. -/
noncomputable def stepSystem (n : ℕ) (jacobian : List (List ℝ)) (residuals : List ℝ) :
    List (Equation ℝ) :=
  let system := stepEquations jacobian residuals
  if system.length ≤ n then system else normalEquations n system

lemma newtonStep_eq_eliminate (t : ℝ) (n : ℕ) (jacobian : List (List ℝ)) (residuals : List ℝ) :
    newtonStep t n jacobian residuals = eliminate t n (stepSystem n jacobian residuals) := by
  rw [newtonStep, stepSystem]
  split
  · rfl
  · next many =>
    have nonempty : stepEquations jacobian residuals ≠ [] := by
      intro none
      rw [none] at many
      exact many (Nat.zero_le n)
    rw [leastSquares, List.isEmpty_eq_false_iff.mpr nonempty]
    rfl

/-- What a step of `n` unknowns achieves. -/
structure IsBestStep (n : ℕ) (jacobian : List (List ℝ)) (residuals step : List ℝ) : Prop where
  length : step.length = n
  /-- It makes up for all residuals if any step does. -/
  solves : ∀ other, (∀ x ∈ residualsAfter jacobian residuals other, x = 0) →
    ∀ x ∈ residualsAfter jacobian residuals step, x = 0
  /-- It leaves the least residuals if there are more rows than unknowns, or if none need be
  left. -/
  least : (n < jacobian.length ∨
      ∃ other, ∀ x ∈ residualsAfter jacobian residuals other, x = 0) →
    ∀ other, norm (residualsAfter jacobian residuals step) ≤
      norm (residualsAfter jacobian residuals other)
  /-- Where there are not more rows than unknowns, the rows whose residuals it makes up for span
  all of them. -/
  spans : jacobian.length ≤ n → ∀ xs,
    (∀ p ∈ jacobian.zip residuals, dot p.1 step + p.2 = 0 → dot p.1 xs = 0) →
      ∀ row ∈ jacobian, dot row xs = 0

/-- A decisive step solves the normal equations if it is one by least squares, or if the equations
themselves have a solution. -/
lemma isSolution_normalEquations_newtonStep {t : ℝ} (positive : 0 < t)
    {jacobian : List (List ℝ)} {residuals : List ℝ}
    (wide : HasWidth n (stepEquations jacobian residuals))
    (decisive : IsDecisive t n (stepSystem n jacobian residuals))
    (possible : n < (stepEquations jacobian residuals).length ∨
      ∃ xs, IsSolution (stepEquations jacobian residuals) xs) :
    IsSolution (normalEquations n (stepEquations jacobian residuals))
      (newtonStep t n jacobian residuals) := by
  rw [newtonStep_eq_eliminate]
  rw [stepSystem] at decisive ⊢
  split at decisive
  · next few =>
    rw [if_pos few]
    obtain many | ⟨xs, solution⟩ := possible
    · exact absurd few (Nat.not_le_of_lt many)
    · exact (isSolution_eliminate positive wide decisive solution).normalEquations wide
  · next many =>
    rw [if_neg many]
    obtain ⟨xs, solution⟩ := exists_isSolution_normalEquations wide
    exact isSolution_eliminate positive hasWidth_normalEquations decisive solution

/-- A decisive step makes up for all residuals if any step does, and leaves the least ones if there
are more rows than unknowns. Otherwise it makes up for those of rows that span the others. -/
theorem isBestStep_newtonStep {t : ℝ} (positive : 0 < t) {jacobian : List (List ℝ)}
    (wide : ∀ row ∈ jacobian, row.length = n) {residuals : List ℝ}
    (same : residuals.length = jacobian.length)
    (decisive : IsDecisive t n (stepSystem n jacobian residuals)) :
    IsBestStep n jacobian residuals (newtonStep t n jacobian residuals) := by
  have wide := hasWidth_stepEquations wide residuals
  have rows : (stepEquations jacobian residuals).length = jacobian.length := by
    rw [stepEquations, List.length_zipWith, same, Nat.min_self]
  have zero_iff (step : List ℝ) : (∀ x ∈ residualsAfter jacobian residuals step, x = 0) ↔
      IsSolution (stepEquations jacobian residuals) step := by
    rw [residualsAfter_eq_excess, isSolution_iff_excess_eq_zero]
  have least (possible : n < jacobian.length ∨
      ∃ other, ∀ x ∈ residualsAfter jacobian residuals other, x = 0) (other : List ℝ) :
      norm (residualsAfter jacobian residuals (newtonStep t n jacobian residuals)) ≤
        norm (residualsAfter jacobian residuals other) := by
    simp only [zero_iff, ← rows] at possible
    rw [norm_le_norm_iff, residualsAfter_eq_excess, residualsAfter_eq_excess]
    exact (isSolution_normalEquations_newtonStep positive wide decisive possible).dot_excess_le
      wide other
  refine ⟨length_newtonStep t n _ _, fun other zero => ?_, least, fun few xs zero => ?_⟩
  · have bound := norm_le_norm_iff.mp (least (.inr ⟨other, zero⟩) other)
    rw [dot_of_forall_eq_zero zero] at bound
    exact eq_zero_of_dot_self_eq_zero (le_antisymm bound (dot_self_nonneg _))
  · have system : stepSystem n jacobian residuals = stepEquations jacobian residuals :=
      if_pos (rows.trans_le few)
    rw [system] at decisive
    rw [newtonStep_eq_eliminate, system] at zero
    have equations : stepEquations jacobian residuals =
        (jacobian.zip residuals).map fun p => ⟨p.1, -p.2⟩ :=
      (List.map_uncurry_zip_eq_zipWith).symm
    rw [equations] at wide decisive zero
    have spanned := eval_eq_zero_of_forall_solved positive wide decisive <|
      List.forall_mem_map.mpr fun p there solved =>
        zero p there (eq_neg_iff_add_eq_zero.mp solved)
    intro row there
    rw [← List.map_fst_zip same.ge] at there
    obtain ⟨p, member, rfl⟩ := List.mem_map.mp there
    exact spanned _ (List.mem_map_of_mem member)

lemma takePivot_singleton (e : Equation ℝ) : takePivot e [] = (e, []) :=
  takePivot_of_best e [] nofun

/-- Three measurements of one unknown, which a step fits at their mean. -/
theorem isBestStep_of_measurements :
    IsBestStep 1 [[1], [1], [1]] [-1, -2, -3] (newtonStep 1 1 [[1], [1], [1]] [-1, -2, -3]) ∧
      newtonStep 1 1 [[1], [1], [1]] [-1, -2, -3] = [(2 : ℝ)] := by
  have system : stepSystem 1 [[1], [1], [1]] [-1, -2, -3] = [⟨[3], 6⟩] := by
    norm_num [stepSystem, stepEquations, normalEquations, coefficientsOf]
  refine ⟨isBestStep_newtonStep one_pos (by simp) rfl ?_, ?_⟩
  · rw [system, IsDecisive]
    norm_num [takePivot_singleton, Equation.leading, IsDecisive]
  · rw [newtonStep_eq_eliminate, system, eliminate_of_best (List.forall_mem_nil _)]
    · norm_num [eliminate_zero, Equation.solveFirst, Equation.leading, Equation.dropFirst,
        Equation.eval]
    · norm_num [Equation.leading]

/-- Where two rows contradict each other, but there are unknowns enough for them, a step need not
leave the least residuals: it drops the second one. -/
theorem not_forall_norm_residualsAfter_le :
    ¬∀ (t : ℝ) (n : ℕ) (jacobian : List (List ℝ)) (residuals : List ℝ), 0 < t →
      (∀ row ∈ jacobian, row.length = n) → residuals.length = jacobian.length →
      IsDecisive t n (stepSystem n jacobian residuals) → ∀ step,
        norm (residualsAfter jacobian residuals (newtonStep t n jacobian residuals)) ≤
          norm (residualsAfter jacobian residuals step) := by
  intro least
  let first : Equation ℝ := ⟨[1, 0], 0⟩
  let second : Equation ℝ := ⟨[1, 0], 2⟩
  have system : stepSystem 2 [[1, 0], [1, 0]] [0, -2] = [first, second] := by
    norm_num [stepSystem, stepEquations, first, second]
  have pivot : takePivot first [second] = (first, [second]) :=
    takePivot_of_best first [second] (by simp [first, second, Equation.leading])
  have left : [second].map first.reduce = [⟨[0], 2⟩] := by
    norm_num [first, second, Equation.reduce, Equation.leading, subtract]
  have decisive : IsDecisive 1 2 [first, second] := by
    rw [IsDecisive, pivot]
    dsimp only
    rw [left]
    norm_num [IsDecisive, takePivot_singleton, first, Equation.leading]
  have found : newtonStep 1 2 [[1, 0], [1, 0]] [0, -2] = [(0 : ℝ), 0] := by
    have free : eliminate 1 1 [(⟨[0], 2⟩ : Equation ℝ)] = [0] := by
      rw [eliminate_of_free, eliminate_zero]
      norm_num [takePivot_singleton, Equation.leading]
    rw [newtonStep_eq_eliminate, system, eliminate_of_pivot, pivot]
    · dsimp only
      rw [left, free]
      norm_num [first, Equation.solveFirst, Equation.leading, Equation.dropFirst, Equation.eval]
    · norm_num [pivot, first, Equation.leading]
  have more := norm_le_norm_iff.mp (least 1 2 [[1, 0], [1, 0]] [0, -2] one_pos (by simp) rfl
    (system ▸ decisive) [1, 0])
  rw [found] at more
  norm_num [residualsAfter] at more

end Drafting.Linear
