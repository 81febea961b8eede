import Drafting.Linear.LeastSquares
import Drafting.Proofs.Linear.Elimination

/-!
# Normal equations

In exact arithmetic the normal equations of a system have its solutions, and they have no dependent
columns but its own. So on a system that has a solution, least squares and elimination find the same
numbers, as far as both are decisive (`leastSquares_eq_eliminate`). Unknowns that no equation has
are zero in a Newton step and change nothing else of it, provided they do not decide which of the
two is used (`newtonStep_pad`).
-/

namespace Drafting.Linear

variable {n : ℕ} {system : List (Equation ℝ)}

/-! ### Columns -/

/-- The coefficients of an equation, read one by one. -/
lemma map_getD_range {e : Equation ℝ} (wide : e.coefficients.length = n) :
    (List.range n).map (fun unknown => e.coefficients.getD unknown 0) = e.coefficients := by
  refine List.ext_getElem (by simp [wide]) fun i inside inside' => ?_
  rw [List.getElem_map, List.getElem_range, List.getD_eq_getElem _ _ inside']

/-- The columns of a system, read across, are its rows. -/
lemma map_getD_columns (wide : HasWidth n system) :
    ((List.range system.length).map fun row =>
      ((List.range n).map (coefficientsOf system)).map fun column => column.getD row 0) =
        system.map Equation.coefficients := by
  refine List.ext_getElem (by simp) fun row inside inside' => ?_
  have there : row < system.length := by simpa using inside'
  rw [List.getElem_map, List.getElem_map, List.getElem_range, List.map_map,
    ← map_getD_range (wide _ (List.getElem_mem there))]
  refine List.map_congr_left fun unknown _ => ?_
  have within : row < (coefficientsOf system unknown).length := by
    rwa [coefficientsOf, List.length_map]
  rw [Function.comp_apply, List.getD_eq_getElem _ _ within]
  exact List.getElem_map _

/-- Weighing the columns of a system is weighing its unknowns. -/
lemma dot_columns (wide : HasWidth n system) (xs ys : List ℝ) :
    dot ((List.range n).map fun unknown => dot (coefficientsOf system unknown) ys) xs =
      dot (system.map fun e => e.eval xs) ys := by
  induction system generalizing ys with
  | nil =>
    rw [List.map_nil, dot_nil_left]
    refine dot_of_forall_eq_zero (List.forall_mem_map.mpr fun unknown _ => ?_) xs
    exact dot_nil_left ys
  | cons e rest ih =>
    obtain ⟨first, others⟩ := List.forall_mem_cons.mp wide
    cases ys with
    | nil =>
      rw [dot_nil_right]
      exact dot_of_forall_eq_zero (List.forall_mem_map.mpr fun unknown _ => dot_nil_right _) xs
    | cons y ys =>
      have column (unknown : ℕ) : dot (coefficientsOf (e :: rest) unknown) (y :: ys) =
          e.coefficients.getD unknown 0 * y + dot (coefficientsOf rest unknown) ys :=
        dot_cons_cons _ _ _ _
      simp only [column]
      rw [dot_map_add, dot_map_mul, map_getD_range first, ih others, List.map_cons, dot_cons_cons]
      rfl

/-! ### Solutions of normal equations -/

/-- The normal equation of one unknown. -/
noncomputable def normalEquation (n : ℕ) (system : List (Equation ℝ)) (unknown : ℕ) : Equation ℝ :=
  ⟨(List.range n).map fun other =>
      dot (coefficientsOf system unknown) (coefficientsOf system other),
    dot (coefficientsOf system unknown) (system.map Equation.value)⟩

lemma normalEquations_eq_map :
    normalEquations n system = (List.range n).map (normalEquation n system) := by
  simp only [normalEquations, List.map_map]
  rfl

lemma hasWidth_normalEquations : HasWidth n (normalEquations n system) := by
  rw [normalEquations_eq_map]
  refine List.forall_mem_map.mpr fun unknown _ => ?_
  rw [normalEquation, List.length_map, List.length_range]

lemma eval_normalEquation (wide : HasWidth n system) (unknown : ℕ) (xs : List ℝ) :
    (normalEquation n system unknown).eval xs =
      dot (system.map fun e => e.eval xs) (coefficientsOf system unknown) := by
  rw [← dot_columns wide, normalEquation, Equation.eval]
  simp only [dot_comm (coefficientsOf system unknown)]

/-- What solves a system solves its normal equations. -/
lemma IsSolution.normalEquations (wide : HasWidth n system) {xs : List ℝ}
    (solution : IsSolution system xs) : IsSolution (normalEquations n system) xs := by
  rw [normalEquations_eq_map]
  refine List.forall_mem_map.mpr fun unknown _ => ?_
  have values : (system.map fun e => e.eval xs) = system.map Equation.value :=
    List.map_congr_left solution
  rw [eval_normalEquation wide, values, dot_comm]
  rfl

/-- Columns that are dependent in the normal equations are so in the system: what they leave over is
orthogonal to every column, and so to itself. -/
lemma isDependent_of_normalEquations (wide : HasWidth n system) {unknown : ℕ}
    (inside : unknown < n) (dependent : IsDependent (normalEquations n system) unknown) :
    IsDependent system unknown := by
  obtain ⟨weights, length, solution⟩ := dependent
  refine ⟨weights, length, ?_⟩
  let rest := system.map fun e => e.eval weights - e.coefficients.getD unknown 0
  have orthogonal : ∀ other < n, dot (coefficientsOf system other) rest = 0 := by
    intro other there
    have holds := solution _ (List.mem_map_of_mem (normalEquations_eq_map ▸
      List.mem_map_of_mem (List.mem_range.mpr there)))
    have value : (aim unknown (normalEquation n system other)).value =
        dot (coefficientsOf system unknown) (coefficientsOf system other) := by
      rw [aim, normalEquation, List.getD_eq_getElem _ _ (by simpa using inside), List.getElem_map,
        List.getElem_range]
      exact dot_comm _ _
    have eval : (aim unknown (normalEquation n system other)).eval weights =
        dot (system.map fun e => e.eval weights) (coefficientsOf system other) :=
      eval_normalEquation wide other weights
    rw [value, eval] at holds
    rw [dot_comm, dot_map_sub, holds]
    exact sub_self _
  have zero : dot rest rest = 0 := by
    have first : dot (system.map fun e => e.eval weights) rest = 0 := by
      rw [← dot_columns wide]
      refine dot_of_forall_eq_zero (List.forall_mem_map.mpr fun other there => ?_) weights
      exact orthogonal other (List.mem_range.mp there)
    rw [dot_map_sub, first]
    exact sub_eq_zero.mpr (orthogonal unknown inside).symm
  refine List.forall_mem_map.mpr fun e there => ?_
  exact sub_eq_zero.mp (List.forall_mem_map.mp (eq_zero_of_dot_self_eq_zero zero) e there)

/-- On a system that has a solution, least squares and elimination find the same numbers. -/
theorem leastSquares_eq_eliminate {t : ℝ} (positive : 0 < t) (wide : HasWidth n system)
    (nonempty : system ≠ []) (decisive : IsDecisive t n system)
    (decisiveNormal : IsDecisive t n (normalEquations n system)) {ys : List ℝ}
    (solution : IsSolution system ys) : leastSquares t n system = eliminate t n system := by
  have solved := isSolution_eliminate positive wide decisive solution
  -- the normal equations may have other solutions, but only one that is zero at dependent columns
  rw [leastSquares, List.isEmpty_eq_false_iff.mpr nonempty]
  refine eliminate_eq_of_isSolution positive hasWidth_normalEquations decisiveNormal
    (length_eliminate t n system) (solved.normalEquations wide) fun unknown inside dependent => ?_
  exact eliminate_getD_of_isDependent positive wide decisive
    (isDependent_of_normalEquations wide inside dependent)

/-! ### Newton steps -/

lemma length_newtonStep {α : Type} [Scalar α] (t : α) (n : ℕ) (jacobian : List (List α))
    (residuals : List α) : (newtonStep t n jacobian residuals).length = n := by
  rw [newtonStep, leastSquares]
  split
  · exact length_eliminate _ _ _
  · split
    · exact List.length_replicate
    · exact length_eliminate _ _ _

lemma stepEquations_pad (jacobian : List (List ℝ)) (residuals : List ℝ) (count : ℕ) :
    stepEquations (jacobian.map (· ++ List.replicate count 0)) residuals =
      (stepEquations jacobian residuals).map (pad count) := by
  rw [stepEquations, stepEquations, List.zipWith_map_left, List.map_zipWith]
  rfl

lemma hasWidth_stepEquations {jacobian : List (List ℝ)}
    (wide : ∀ row ∈ jacobian, row.length = n) (residuals : List ℝ) :
    HasWidth n (stepEquations jacobian residuals) := by
  intro e there
  rw [stepEquations] at there
  obtain ⟨i, inside, rfl⟩ := List.getElem_of_mem there
  rw [List.getElem_zipWith]
  exact wide _ (List.getElem_mem _)

lemma coefficientsOf_map_pad (wide : HasWidth n system) (count : ℕ) {unknown : ℕ}
    (inside : unknown < n) :
    coefficientsOf (system.map (pad count)) unknown = coefficientsOf system unknown := by
  rw [coefficientsOf, List.map_map]
  refine List.map_congr_left fun e there => ?_
  exact List.getD_append _ _ _ _ (by rwa [wide e there])

lemma coefficientsOf_map_pad_eq_zero (wide : HasWidth n system) (count : ℕ) {unknown : ℕ}
    (outside : n ≤ unknown) : ∀ x ∈ coefficientsOf (system.map (pad count)) unknown, x = 0 := by
  rw [coefficientsOf, List.map_map]
  refine List.forall_mem_map.mpr fun e there => ?_
  exact (List.getD_append_right _ _ _ _ (by rwa [wide e there])).trans
    (getD_of_forall_eq_zero (forall_mem_replicate_eq_zero count) _)

/-- The normal equation of an unknown has no unknown that the system does not have. -/
lemma normalEquation_map_pad (wide : HasWidth n system) (count : ℕ) {unknown : ℕ}
    (inside : unknown < n) :
    normalEquation (n + count) (system.map (pad count)) unknown =
      pad count (normalEquation n system unknown) := by
  have column := coefficientsOf_map_pad wide count inside
  have values : (system.map (pad count)).map Equation.value = system.map Equation.value := by
    rw [List.map_map]
    rfl
  have others : ((List.range n).map fun other => dot (coefficientsOf system unknown)
      (coefficientsOf (system.map (pad count)) other)) =
        (List.range n).map fun other =>
          dot (coefficientsOf system unknown) (coefficientsOf system other) :=
    List.map_congr_left fun other there => by
      rw [coefficientsOf_map_pad wide count (List.mem_range.mp there)]
  have further : (((List.range count).map (n + ·)).map fun other =>
      dot (coefficientsOf system unknown) (coefficientsOf (system.map (pad count)) other)) =
        List.replicate count 0 := by
    rw [List.eq_replicate_iff]
    refine ⟨by simp, List.forall_mem_map.mpr (List.forall_mem_map.mpr fun other _ => ?_)⟩
    rw [dot_comm]
    exact dot_of_forall_eq_zero
      (coefficientsOf_map_pad_eq_zero wide count (Nat.le_add_right n other)) _
  rw [normalEquation, normalEquation, column, values, List.range_add, List.map_append, others,
    further]
  rfl

/-- Unknowns that no equation has add null equations to the normal ones. -/
lemma normalEquations_map_pad (wide : HasWidth n system) (count : ℕ) :
    ∃ extra, (∀ e ∈ extra, IsNull e) ∧
      normalEquations (n + count) (system.map (pad count)) =
        (normalEquations n system).map (pad count) ++ extra := by
  refine ⟨((List.range count).map (n + ·)).map
    (normalEquation (n + count) (system.map (pad count))), ?_, ?_⟩
  · refine List.forall_mem_map.mpr (List.forall_mem_map.mpr fun unknown _ => ?_)
    refine List.forall_mem_map.mpr fun other _ => ?_
    exact dot_of_forall_eq_zero
      (coefficientsOf_map_pad_eq_zero wide count (Nat.le_add_right n unknown)) _
  · have first : (List.range n).map (normalEquation (n + count) (system.map (pad count))) =
        ((List.range n).map (normalEquation n system)).map (pad count) := by
      rw [List.map_map]
      exact List.map_congr_left fun unknown there =>
        normalEquation_map_pad wide count (List.mem_range.mp there)
    rw [normalEquations_eq_map, normalEquations_eq_map, List.range_add, List.map_append, first]

lemma leastSquares_map_pad {t : ℝ} (positive : 0 < t) (wide : HasWidth n system) (count : ℕ) :
    leastSquares t (n + count) (system.map (pad count)) =
      leastSquares t n system ++ List.replicate count 0 := by
  rw [leastSquares, leastSquares, List.isEmpty_map]
  split
  · rw [List.replicate_append_replicate]
  · obtain ⟨extra, null, normal⟩ := normalEquations_map_pad wide count
    rw [normal, eliminate_append_of_isNull positive null,
      eliminate_map_pad positive hasWidth_normalEquations]

/-- That further unknowns, `count` of them, do not change how the unknowns of a system with `n` are
found: the same method is used with them, or the two methods agree. -/
def IsSteady (t : ℝ) (n count : ℕ) (system : List (Equation ℝ)) : Prop :=
  system.length ≤ n ∨ n + count < system.length ∨
    ((∃ xs, IsSolution system xs) ∧ IsDecisive t n system ∧
      IsDecisive t n (normalEquations n system))

/-- Further unknowns that no row has are zero in a step, and change nothing else of it. -/
theorem newtonStep_pad {t : ℝ} (positive : 0 < t) {jacobian : List (List ℝ)}
    (wide : ∀ row ∈ jacobian, row.length = n) {residuals : List ℝ} {count : ℕ}
    (steady : IsSteady t n count (stepEquations jacobian residuals)) :
    newtonStep t (n + count) (jacobian.map (· ++ List.replicate count 0)) residuals =
      newtonStep t n jacobian residuals ++ List.replicate count 0 := by
  have wide := hasWidth_stepEquations wide residuals
  rw [newtonStep, newtonStep, stepEquations_pad]
  generalize stepEquations jacobian residuals = system at wide steady
  simp only [List.length_map]
  -- with the further unknowns, elimination may be used where least squares were used without them
  by_cases few : system.length ≤ n
  · rw [if_pos (Nat.le_add_right_of_le few), if_pos few, eliminate_map_pad positive wide]
  · rw [if_neg few]
    split
    · next enough =>
      obtain few' | many | ⟨⟨xs, solution⟩, decisive, decisiveNormal⟩ := steady
      · exact absurd few' few
      · exact absurd enough (Nat.not_le_of_lt many)
      · have nonempty : system ≠ [] := by
          rintro rfl
          exact few (Nat.zero_le n)
        rw [eliminate_map_pad positive wide,
          leastSquares_eq_eliminate positive wide nonempty decisive decisiveNormal solution]
    · exact leastSquares_map_pad positive wide count

/-! ### Unknowns that no row has -/

/-- What a system does not have, its normal equations do not have either. -/
lemma IsUnused.normalEquations {unknown : ℕ} (unused : IsUnused system unknown) :
    IsUnused (normalEquations n system) unknown := by
  have column : ∀ x ∈ coefficientsOf system unknown, x = 0 := List.forall_mem_map.mpr unused
  rw [normalEquations_eq_map]
  refine List.forall_mem_map.mpr fun other _ => ?_
  by_cases inside : unknown < n
  · rw [normalEquation, List.getD_eq_getElem _ _ (by simpa using inside), List.getElem_map,
      List.getElem_range, dot_comm]
    exact dot_of_forall_eq_zero column _
  · exact List.getD_eq_default _ _ (by simpa [normalEquation] using inside)

/-- An unknown that no row has is zero in a step, by whichever method. -/
theorem newtonStep_getD_of_forall_eq_zero {t : ℝ} (positive : 0 < t) {jacobian : List (List ℝ)}
    (wide : ∀ row ∈ jacobian, row.length = n) {unknown : ℕ}
    (unused : ∀ row ∈ jacobian, row.getD unknown 0 = 0) (residuals : List ℝ) :
    (newtonStep t n jacobian residuals).getD unknown 0 = 0 := by
  have wide := hasWidth_stepEquations wide residuals
  have unused : IsUnused (stepEquations jacobian residuals) unknown := by
    intro e there
    obtain ⟨i, inside, rfl⟩ := List.getElem_of_mem there
    simp only [stepEquations, List.getElem_zipWith]
    exact unused _ (List.getElem_mem _)
  rw [newtonStep, leastSquares]
  split
  · exact eliminate_getD_of_isUnused positive wide unused
  · split
    · exact getD_of_forall_eq_zero (forall_mem_replicate_eq_zero n) unknown
    · exact eliminate_getD_of_isUnused positive hasWidth_normalEquations unused.normalEquations

end Drafting.Linear
