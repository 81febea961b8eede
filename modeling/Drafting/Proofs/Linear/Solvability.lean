import Drafting.Proofs.Linear.Optimality

/-!
# Systems that have a solution

In exact arithmetic a system that has a solution has one that is zero for each unknown whose column
depends on those before it, and only one (`IsBasicSolution`). A decisive elimination finds it, in
whatever order the equations stand (`isBasicSolution_eliminate`); but where equations tie for a
pivot, another order of them can lead to a pivot that is too small (`not_forall_eliminate_perm`).
Least squares leave as little as possible of any system (`isLeastFit_leastSquares`). Where there is
a solution, they find the same one as elimination, so that it does not matter which of the two a
Newton step uses (`leastSquares_and_newtonStep_eq_eliminate`). A share of a Newton step makes up for
that share of what is left over (`excess_newtonStep`), or, by least squares, for that share of what
the columns make of it (`transposeMul_excess_newtonStep`).
-/

namespace Drafting.Linear

variable {t : ℝ} {n : ℕ} {system : List (Equation ℝ)}

/-! ### Pivots that stand first -/

section

variable {first : Equation ℝ} {rest : List (Equation ℝ)}

lemma takePivot_of_null (null : ∀ e ∈ first :: rest, e.leading = 0) :
    takePivot first rest = (first, rest) := by
  obtain ⟨zero, zeros⟩ := List.forall_mem_cons.mp null
  apply takePivot_of_best
  intro e there
  rw [zeros e there, zero]

lemma isDecisive_of_null (null : ∀ e ∈ first :: rest, e.leading = 0)
    (decisive : IsDecisive t n ((first :: rest).map Equation.dropFirst)) :
    IsDecisive t (n + 1) (first :: rest) := by
  rw [IsDecisive, takePivot_of_null null]
  exact .inl ⟨null first List.mem_cons_self, decisive⟩

lemma isDecisive_of_best (best : ∀ e ∈ rest, |e.leading| ≤ |first.leading|)
    (large : t ≤ |first.leading|) (decisive : IsDecisive t n (rest.map first.reduce)) :
    IsDecisive t (n + 1) (first :: rest) := by
  rw [IsDecisive, takePivot_of_best first rest best]
  exact .inr ⟨large, decisive⟩

end

/-! ### Basic solutions -/

/-- A solution that is zero for each of `n` unknowns whose column is a linear combination of those
before it. -/
structure IsBasicSolution (n : ℕ) (system : List (Equation ℝ)) (xs : List ℝ) : Prop where
  length : xs.length = n
  solves : IsSolution system xs
  zero : ∀ unknown < n, IsDependent system unknown → xs.getD unknown 0 = 0

namespace IsBasicSolution

variable {xs : List ℝ}

lemma perm (basic : IsBasicSolution n system xs) {system' : List (Equation ℝ)}
    (perm : system.Perm system') : IsBasicSolution n system' xs where
  length := basic.length
  solves := (isSolution_perm perm).mp basic.solves
  zero unknown inside dependent := by
    apply basic.zero unknown inside
    exact (isDependent_perm perm).mpr dependent

lemma eq_eliminate (basic : IsBasicSolution n system xs) (positive : 0 < t)
    (wide : HasWidth n system) (decisive : IsDecisive t n system) : xs = eliminate t n system := by
  symm
  exact eliminate_eq_of_isSolution positive wide decisive basic.length basic.solves basic.zero

end IsBasicSolution

lemma isBasicSolution_of_isSolution (positive : 0 < t) (wide : HasWidth n system)
    (decisive : IsDecisive t n system) {ys : List ℝ} (solution : IsSolution system ys) :
    IsBasicSolution n system (eliminate t n system) where
  length := length_eliminate t n system
  solves := isSolution_eliminate positive wide decisive solution
  zero _ _ dependent := eliminate_getD_of_isDependent positive wide decisive dependent

/-- A decisive elimination finds the basic solution of every system that has a solution. There is
only one, so that the order of the equations is of no consequence if another order is decisive as
well. -/
theorem isBasicSolution_eliminate (positive : 0 < t) (wide : HasWidth n system)
    (decisive : IsDecisive t n system) (solvable : ∃ ys, IsSolution system ys) :
    IsBasicSolution n system (eliminate t n system) ∧
      (∀ xs, IsBasicSolution n system xs → xs = eliminate t n system) ∧
      ∀ system', system.Perm system' → IsDecisive t n system' →
        eliminate t n system' = eliminate t n system := by
  obtain ⟨ys, solution⟩ := solvable
  refine ⟨isBasicSolution_of_isSolution positive wide decisive solution, ?_, ?_⟩
  · intro xs basic
    exact basic.eq_eliminate positive wide decisive
  · intro system' perm decisive'
    have wide' : HasWidth n system' := fun e there => wide e (perm.mem_iff.mpr there)
    have basic := isBasicSolution_of_isSolution positive wide' decisive'
      ((isSolution_perm perm).mp solution)
    exact (basic.perm perm.symm).eq_eliminate positive wide decisive

/-- Three equations for three unknowns, of which two are enough: the second column is twice the
first, and the equations differ by multiples of the third. -/
theorem singular_isBasicSolution_eliminate :
    let system : List (Equation ℝ) := [⟨[1, 2, 1], 3⟩, ⟨[1, 2, 0], 2⟩, ⟨[1, 2, 2], 4⟩]
    IsDecisive 1 3 system ∧ IsDecisive 1 3 system.reverse ∧ IsSolution system [2, 0, 1] ∧
      IsBasicSolution 3 system (eliminate 1 3 system) ∧
      (∀ xs, IsBasicSolution 3 system xs → xs = eliminate 1 3 system) ∧
      eliminate 1 3 system.reverse = eliminate 1 3 system := by
  intro system
  have decisive : IsDecisive 1 3 system := by
    refine isDecisive_of_best ?_ ?_ (isDecisive_of_null ?_ (isDecisive_of_best ?_ ?_ trivial)) <;>
      norm_num [Equation.leading, Equation.reduce, Equation.dropFirst, subtract]
  have decisive' : IsDecisive 1 3 system.reverse := by
    refine isDecisive_of_best ?_ ?_ (isDecisive_of_null ?_ (isDecisive_of_best ?_ ?_ trivial)) <;>
      norm_num [Equation.leading, Equation.reduce, Equation.dropFirst, subtract]
  have wide : HasWidth 3 system := by simp [HasWidth, system]
  have solution : IsSolution system [2, 0, 1] := by
    norm_num [IsSolution, system, Equation.eval]
  obtain ⟨basic, unique, perm⟩ :=
    isBasicSolution_eliminate one_pos wide decisive ⟨_, solution⟩
  refine ⟨decisive, decisive', solution, basic, unique, ?_⟩
  exact perm _ (List.reverse_perm system).symm decisive'

/-- The order of the equations can matter where two of them tie for the first pivot: then the best
one for the next unknown may be large enough in one order and too small in the other. -/
theorem not_forall_eliminate_perm :
    ¬∀ (t : ℝ) (n : ℕ) (system system' : List (Equation ℝ)), 0 < t → HasWidth n system →
      IsDecisive t n system → (∃ ys, IsSolution system ys) → system.Perm system' →
        eliminate t n system' = eliminate t n system := by
  intro same
  let system : List (Equation ℝ) := [⟨[2, 0], 0⟩, ⟨[1, 2], 4⟩, ⟨[2, 1], 2⟩]
  have decisive : IsDecisive 2 2 system := by
    refine isDecisive_of_best ?_ ?_ (isDecisive_of_best ?_ ?_ trivial) <;>
      norm_num [Equation.leading, Equation.reduce, subtract]
  have wide : HasWidth 2 system := by simp [HasWidth, system]
  have solution : IsSolution system [0, 2] := by norm_num [IsSolution, system, Equation.eval]
  have equal := same 2 2 system system.reverse two_pos wide decisive ⟨_, solution⟩
    (List.reverse_perm system).symm
  have forth : eliminate 2 2 system = [0, 2] := by
    rw [eliminate_of_best, List.map_cons, eliminate_of_best, eliminate_zero]
    · norm_num [Equation.solveFirst, Equation.reduce, Equation.leading, Equation.eval,
        Equation.dropFirst, subtract]
    all_goals norm_num [Equation.reduce, Equation.leading, subtract]
  have back : eliminate 2 2 [⟨[2, 1], 2⟩, ⟨[1, 2], 4⟩, ⟨[2, 0], 0⟩] = [(1 : ℝ), 0] := by
    rw [eliminate_of_best, List.map_cons, eliminate_of_free, eliminate_zero]
    · norm_num [Equation.solveFirst, Equation.leading, Equation.eval, Equation.dropFirst]
    · rw [takePivot_of_best]
      all_goals norm_num [Equation.reduce, Equation.leading, subtract]
    all_goals norm_num [Equation.leading]
  rw [forth] at equal
  have zero := back.symm.trans equal
  norm_num at zero

/-! ### Least squares -/

/-- What solves the normal equations of a system solves the system, if anything does. -/
lemma IsSolution.of_normalEquations (wide : HasWidth n system) {xs ys : List ℝ}
    (normal : IsSolution (Linear.normalEquations n system) xs) (solution : IsSolution system ys) :
    IsSolution system xs := by
  rw [isSolution_iff_excess_eq_zero] at solution ⊢
  have least := normal.dot_excess_le wide ys
  rw [dot_of_forall_eq_zero solution] at least
  exact eq_zero_of_dot_self_eq_zero (le_antisymm least (dot_self_nonneg _))

lemma isSolution_normalEquations_leastSquares (positive : 0 < t) (wide : HasWidth n system)
    (decisive : IsDecisive t n (normalEquations n system)) :
    IsSolution (normalEquations n system) (leastSquares t n system) := by
  cases system with
  | nil =>
    -- without equations nothing is left over, whatever the unknowns are
    rw [isSolution_normalEquations_iff wide]
    intro unknown _
    exact dot_nil_left _
  | cons e rest =>
    obtain ⟨xs, solution⟩ := exists_isSolution_normalEquations wide
    exact isSolution_eliminate positive hasWidth_normalEquations decisive solution

lemma length_leastSquares (t : ℝ) (n : ℕ) (system : List (Equation ℝ)) :
    (leastSquares t n system).length = n := by
  rw [leastSquares]
  split
  · exact List.length_replicate
  · exact length_eliminate _ _ _

/-- Numbers that leave over of a system what is orthogonal to every column, and no longer than what
any others leave. -/
structure IsLeastFit (n : ℕ) (system : List (Equation ℝ)) (xs : List ℝ) : Prop where
  length : xs.length = n
  orthogonal : ∀ unknown < n, dot (coefficientsOf system unknown) (excess system xs) = 0
  least : ∀ ys, norm (excess system xs) ≤ norm (excess system ys)

/-- Least squares whose elimination is decisive leave as little as possible of a system. -/
theorem isLeastFit_leastSquares (positive : 0 < t) (wide : HasWidth n system)
    (decisive : IsDecisive t n (normalEquations n system)) :
    IsLeastFit n system (leastSquares t n system) := by
  have normal := isSolution_normalEquations_leastSquares positive wide decisive
  constructor
  case length => exact length_leastSquares t n system
  case orthogonal => exact (isSolution_normalEquations_iff wide).mp normal
  case least =>
    intro ys
    rw [norm_le_norm_iff]
    exact normal.dot_excess_le wide ys

/-- Two measurements of the sum of two unknowns, which are fitted at their mean. -/
theorem isLeastFit_of_sums :
    IsDecisive 1 2 (normalEquations 2 [⟨[1, 1], 1⟩, ⟨[1, 1], 3⟩]) ∧
      IsLeastFit 2 [⟨[1, 1], 1⟩, ⟨[1, 1], 3⟩] (leastSquares 1 2 [⟨[1, 1], 1⟩, ⟨[1, 1], 3⟩]) := by
  have normal : normalEquations 2 [⟨[1, 1], 1⟩, ⟨[1, 1], 3⟩] =
      ([⟨[2, 2], 4⟩, ⟨[2, 2], 4⟩] : List (Equation ℝ)) := by
    norm_num [normalEquations, coefficientsOf, List.range_succ]
  have decisive : IsDecisive 1 2 (normalEquations 2 [⟨[1, 1], 1⟩, ⟨[1, 1], 3⟩]) := by
    rw [normal]
    refine isDecisive_of_best ?_ ?_ (isDecisive_of_null ?_ trivial) <;>
      norm_num [Equation.leading, Equation.reduce, subtract]
  exact ⟨decisive, isLeastFit_leastSquares one_pos (by simp [HasWidth]) decisive⟩

/-! ### Both ways -/

/-- A decisive step solves the equations that it is for, if anything does. -/
lemma isSolution_newtonStep (positive : 0 < t) {jacobian : List (List ℝ)} {residuals : List ℝ}
    (wide : ∀ row ∈ jacobian, row.length = n)
    (decisive : IsDecisive t n (stepSystem n jacobian residuals)) {ys : List ℝ}
    (solution : IsSolution (stepEquations jacobian residuals) ys) :
    IsSolution (stepEquations jacobian residuals) (newtonStep t n jacobian residuals) := by
  have wide := hasWidth_stepEquations wide residuals
  have normal :=
    isSolution_normalEquations_newtonStep positive wide decisive (.inr ⟨ys, solution⟩)
  exact normal.of_normalEquations wide solution

/-- On a system that has a solution, least squares and elimination find the same numbers, as far as
both are decisive, so that a Newton step is the same by either of them. -/
theorem leastSquares_and_newtonStep_eq_eliminate (positive : 0 < t) (wide : HasWidth n system)
    (decisive : IsDecisive t n system) (decisiveNormal : IsDecisive t n (normalEquations n system))
    (solvable : ∃ ys, IsSolution system ys) :
    leastSquares t n system = eliminate t n system ∧
      ∀ jacobian residuals, stepEquations jacobian residuals = system →
        newtonStep t n jacobian residuals = eliminate t n system ∧
          newtonStep t n jacobian residuals = leastSquares t n system := by
  obtain ⟨ys, solution⟩ := solvable
  have same : leastSquares t n system = eliminate t n system := by
    cases system with
    | nil => exact (eliminate_nil t n).symm
    | cons e rest =>
      exact leastSquares_eq_eliminate positive wide (List.cons_ne_nil e rest) decisive
        decisiveNormal solution
  refine ⟨same, ?_⟩
  rintro jacobian residuals rfl
  rw [newtonStep, same, ite_self]
  exact ⟨rfl, rfl⟩

/-- Three multiples of one equation for two unknowns, of which the second is zero. -/
theorem newtonStep_of_multiples :
    let system : List (Equation ℝ) := [⟨[4, 2], 4⟩, ⟨[2, 1], 2⟩, ⟨[2, 1], 2⟩]
    IsDecisive 1 2 system ∧ IsDecisive 1 2 (normalEquations 2 system) ∧
      IsSolution system [1, 0] ∧ leastSquares 1 2 system = eliminate 1 2 system ∧
      newtonStep 1 2 [[4, 2], [2, 1], [2, 1]] [-4, -2, -2] = eliminate 1 2 system := by
  intro system
  have normal : normalEquations 2 system = [⟨[24, 12], 24⟩, ⟨[12, 6], 12⟩] := by
    norm_num [normalEquations, coefficientsOf, List.range_succ, system]
  have decisive : IsDecisive 1 2 system := by
    refine isDecisive_of_best ?_ ?_ (isDecisive_of_null ?_ trivial) <;>
      norm_num [Equation.leading, Equation.reduce, subtract]
  have decisiveNormal : IsDecisive 1 2 (normalEquations 2 system) := by
    rw [normal]
    refine isDecisive_of_best ?_ ?_ (isDecisive_of_null ?_ trivial) <;>
      norm_num [Equation.leading, Equation.reduce, subtract]
  have solution : IsSolution system [1, 0] := by norm_num [IsSolution, system, Equation.eval]
  obtain ⟨same, steps⟩ := leastSquares_and_newtonStep_eq_eliminate one_pos
    (by simp [HasWidth, system]) decisive decisiveNormal ⟨_, solution⟩
  refine ⟨decisive, decisiveNormal, solution, same, (steps _ _ ?_).1⟩
  norm_num [stepEquations, system]

/-! ### Steps towards a solution -/

lemma eval_add_map_mul (e : Equation ℝ) {xs step : List ℝ} (same : xs.length = step.length)
    (factor : ℝ) : e.eval (List.zipWith (· + ·) xs (step.map (factor * ·))) =
      e.eval xs + factor * e.eval step := by
  have moved : List.zipWith (· + ·) xs (step.map (factor * ·)) = subtract (-factor) xs step := by
    rw [List.zipWith_map_right, subtract]
    congr 1
    funext x y
    ring
  rw [moved, Equation.eval, dot_comm, dot_subtract _ same, dot_comm xs, dot_comm step]
  simp only [Equation.eval]
  ring

lemma stepEquations_excess (system : List (Equation ℝ)) (xs : List ℝ) :
    stepEquations (system.map Equation.coefficients) (excess system xs) =
      system.map fun e => ⟨e.coefficients, -(e.eval xs - e.value)⟩ := by
  rw [stepEquations, excess, List.zipWith_map, List.zipWith_self]

/-- The way to a solution is a step that makes up for everything. -/
lemma IsSolution.subtract {ys : List ℝ} (solution : IsSolution system ys) {xs : List ℝ}
    (same : ys.length = xs.length) :
    IsSolution (stepEquations (system.map Equation.coefficients) (excess system xs))
      (Linear.subtract 1 ys xs) := by
  rw [stepEquations_excess]
  refine List.forall_mem_map.mpr fun e there => ?_
  have holds := solution e there
  rw [Equation.eval] at holds
  rw [Equation.eval, dot_comm, dot_subtract 1 same, dot_comm ys, dot_comm xs, holds, Equation.eval]
  ring

/-- A share of a step changes what is left over by that share of what the step changes. -/
lemma excess_add_map_mul (system : List (Equation ℝ)) {xs step : List ℝ}
    (same : xs.length = step.length) (share : ℝ) :
    excess system (List.zipWith (· + ·) xs (step.map (share * ·))) =
      system.map fun e => e.eval xs - e.value + e.eval step * share := by
  refine List.map_congr_left fun e _ => ?_
  rw [eval_add_map_mul e same]
  ring

/-- A decisive step towards a solution, of which a share is made, leaves the same share over of
everything. -/
lemma excess_newtonStep (positive : 0 < t) (wide : HasWidth n system) {xs ys : List ℝ}
    (length : xs.length = n) (same : ys.length = n) (solution : IsSolution system ys)
    (decisive : IsDecisive t n (stepSystem n (system.map Equation.coefficients)
      (excess system xs))) (share : ℝ) :
    excess system (List.zipWith (· + ·) xs ((newtonStep t n (system.map Equation.coefficients)
      (excess system xs)).map (share * ·))) = (excess system xs).map ((1 - share) * ·) := by
  have rows : ∀ row ∈ system.map Equation.coefficients, row.length = n :=
    List.forall_mem_map.mpr wide
  have step := isSolution_newtonStep positive rows decisive
    (solution.subtract (same.trans length.symm))
  have long := length.trans (length_newtonStep t n (system.map Equation.coefficients)
    (excess system xs)).symm
  generalize newtonStep t n (system.map Equation.coefficients) (excess system xs) = delta
    at step long
  rw [stepEquations_excess] at step
  rw [excess_add_map_mul system long, excess, List.map_map]
  refine List.map_congr_left fun e there => ?_
  have made : e.eval delta = -(e.eval xs - e.value) := List.forall_mem_map.mp step e there
  rw [made, Function.comp_apply]
  ring

/-! ### Steps towards a compromise -/

/-- The product of numbers, one for each row, with the transposed rows, which have `n` columns. -/
noncomputable def transposeMul (n : ℕ) (rows : List (List ℝ)) (xs : List ℝ) : List ℝ :=
  (List.range n).map fun column => dot (rows.map fun row => row.getD column 0) xs

lemma transposeMul_coefficients (n : ℕ) (system : List (Equation ℝ)) (xs : List ℝ) :
    transposeMul n (system.map Equation.coefficients) xs =
      (List.range n).map fun unknown => dot (coefficientsOf system unknown) xs := by
  simp only [transposeMul, List.map_map]
  rfl

/-- What a step by least squares leaves over is orthogonal to every column. -/
lemma dot_excess_stepEquations (positive : 0 < t) (wide : HasWidth n system) {xs : List ℝ}
    (many : n < system.length)
    (decisive : IsDecisive t n (stepSystem n (system.map Equation.coefficients)
      (excess system xs))) {unknown : ℕ} (inside : unknown < n) :
    dot (coefficientsOf system unknown) (system.map fun e =>
      e.eval (newtonStep t n (system.map Equation.coefficients) (excess system xs)) +
        (e.eval xs - e.value)) = 0 := by
  have rows : ∀ row ∈ system.map Equation.coefficients, row.length = n :=
    List.forall_mem_map.mpr wide
  have wider := hasWidth_stepEquations rows (excess system xs)
  have count : (stepEquations (system.map Equation.coefficients) (excess system xs)).length =
      system.length := by rw [stepEquations_excess, List.length_map]
  have normal := (isSolution_normalEquations_iff wider).mp
    (isSolution_normalEquations_newtonStep positive wider decisive (.inl (count ▸ many)))
    unknown inside
  generalize newtonStep t n (system.map Equation.coefficients) (excess system xs) = delta
    at normal
  rw [stepEquations_excess, excess, coefficientsOf, List.map_map, List.map_map] at normal
  simp only [← sub_neg_eq_add]
  exact normal

/-- A decisive step by least squares, of which a share is made, leaves the same share over of what
the columns make of everything, whether the system has a solution or not. -/
lemma transposeMul_excess_newtonStep (positive : 0 < t) (wide : HasWidth n system) {xs : List ℝ}
    (length : xs.length = n) (many : n < system.length)
    (decisive : IsDecisive t n (stepSystem n (system.map Equation.coefficients)
      (excess system xs))) (share : ℝ) :
    transposeMul n (system.map Equation.coefficients) (excess system (List.zipWith (· + ·) xs
      ((newtonStep t n (system.map Equation.coefficients)
        (excess system xs)).map (share * ·)))) =
      (transposeMul n (system.map Equation.coefficients) (excess system xs)).map
        ((1 - share) * ·) := by
  have long := length.trans (length_newtonStep t n (system.map Equation.coefficients)
    (excess system xs)).symm
  rw [excess_add_map_mul system long, transposeMul_coefficients, transposeMul_coefficients,
    List.map_map]
  refine List.map_congr_left fun unknown there => ?_
  have orthogonal := dot_excess_stepEquations positive wide many decisive (List.mem_range.mp there)
  generalize newtonStep t n (system.map Equation.coefficients) (excess system xs) = delta
    at orthogonal
  rw [dot_comm, dot_map_add] at orthogonal
  rw [Function.comp_apply, dot_comm, dot_map_add, dot_map_mul, dot_comm _ (excess system xs),
    excess]
  linear_combination share * orthogonal

end Drafting.Linear
