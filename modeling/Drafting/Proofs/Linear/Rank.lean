import Drafting.Proofs.Linear.Labels
import Drafting.Proofs.Linear.Solvability
import Mathlib.Analysis.InnerProductSpace.PiL2
import Mathlib.LinearAlgebra.FiniteDimensional.Lemmas
import Mathlib.LinearAlgebra.Matrix.Rank

/-!
# The rank that an analysis finds

An analysis compares each row with the rows kept before it alone. The kept rows span what all rows
so far span, and none of them can be spared (`Survey.IsRight`). So in exact arithmetic, with any
exact method of least squares and with rows that are clearly in the span of those kept before them
or clearly not, an analysis finds the rank of the matrix, and labels the rows that are linear
combinations of the rows before them (`analyzeRows_isRightAbout`).
-/

namespace Drafting.Linear

/-! ### Rows as vectors -/

/-- The vector of the first `n` numbers of a row. -/
noncomputable def vector (n : ℕ) (row : List ℝ) : EuclideanSpace ℝ (Fin n) :=
  WithLp.toLp _ fun j => row.getD j 0

section

variable {n : ℕ} {row : List ℝ} {rows : List (List ℝ)}

lemma vector_apply (n : ℕ) (row : List ℝ) (j : Fin n) : vector n row j = row.getD j 0 := rfl

lemma norm_vector (wide : row.length = n) : ‖vector n row‖ = norm row := by
  subst wide
  have squares : ∑ j, ‖vector row.length row j‖ ^ 2 = dot row row := by
    have single (j : Fin row.length) :
        ‖vector row.length row j‖ ^ 2 = (fun x : ℝ => x * x) row[j] := by
      rw [vector_apply, List.getD_eq_getElem _ _ j.isLt, Real.norm_eq_abs, sq_abs, sq]
      rfl
    rw [Finset.sum_congr rfl fun j _ => single j, dot_eq_sum, List.zipWith_self]
    exact Fin.sum_univ_fun_getElem row fun x => x * x
  rw [EuclideanSpace.norm_eq, squares]
  rfl

lemma vector_subtract {xs ys : List ℝ} (same : xs.length = ys.length) :
    vector n (subtract 1 xs ys) = vector n xs - vector n ys := by
  ext j
  rw [PiLp.sub_apply, vector_apply, vector_apply, vector_apply, getD_subtract 1 same, one_mul]

lemma length_transposeMul (n : ℕ) (rows : List (List ℝ)) (weights : List ℝ) :
    (transposeMul n rows weights).length = n := by
  rw [transposeMul, List.length_map, List.length_range]

lemma vector_transposeMul_apply (rows : List (List ℝ)) (weights : List ℝ) (j : Fin n) :
    vector n (transposeMul n rows weights) j = dot (rows.map fun row => row.getD j 0) weights := by
  rw [vector_apply, List.getD_eq_getElem _ _ (by rw [length_transposeMul]; exact j.isLt)]
  simp only [transposeMul, List.getElem_map, List.getElem_range]

lemma vector_transposeMul_cons (row : List ℝ) (rows : List (List ℝ)) (weight : ℝ)
    (weights : List ℝ) :
    vector n (transposeMul n (row :: rows) (weight :: weights)) =
      weight • vector n row + vector n (transposeMul n rows weights) := by
  ext j
  rw [PiLp.add_apply, PiLp.smul_apply, vector_transposeMul_apply, vector_transposeMul_apply,
    List.map_cons, dot_cons_cons, vector_apply, smul_eq_mul, mul_comm]

lemma vector_transposeMul_nil_right (rows : List (List ℝ)) :
    vector n (transposeMul n rows []) = 0 := by
  ext j
  rw [vector_transposeMul_apply, dot_nil_right]
  rfl

lemma vector_transposeMul_nil_left (weights : List ℝ) :
    vector n (transposeMul n [] weights) = 0 := by
  ext j
  rw [vector_transposeMul_apply, List.map_nil, dot_nil_left]
  rfl

/-! ### What rows span -/

/-- The linear combinations of rows. -/
def rowSpan (n : ℕ) (rows : List (List ℝ)) : Submodule ℝ (EuclideanSpace ℝ (Fin n)) :=
  Submodule.span ℝ {v | ∃ row ∈ rows, vector n row = v}

lemma rowSpan_nil (n : ℕ) : rowSpan n [] = ⊥ := by
  simp [rowSpan]

lemma rowSpan_singleton (n : ℕ) (row : List ℝ) :
    rowSpan n [row] = Submodule.span ℝ {vector n row} := by
  simp [rowSpan]

lemma rowSpan_append (n : ℕ) (rows rows' : List (List ℝ)) :
    rowSpan n (rows ++ rows') = rowSpan n rows ⊔ rowSpan n rows' := by
  rw [rowSpan, rowSpan, rowSpan, ← Submodule.span_union]
  congr 1
  ext v
  simp only [List.mem_append, or_and_right, exists_or, Set.mem_ofPred_eq, Set.mem_union]

/-- The combinations of rows are what weights make of them. -/
lemma mem_rowSpan_iff {v : EuclideanSpace ℝ (Fin n)} :
    v ∈ rowSpan n rows ↔ ∃ weights, vector n (transposeMul n rows weights) = v := by
  induction rows generalizing v with
  | nil =>
    rw [rowSpan_nil, Submodule.mem_bot]
    simp only [vector_transposeMul_nil_left, exists_const]
    exact eq_comm
  | cons row rest ih =>
    rw [← List.singleton_append, rowSpan_append, rowSpan_singleton, Submodule.mem_sup]
    simp only [Submodule.mem_span_singleton, ih]
    constructor
    · rintro ⟨_, ⟨weight, rfl⟩, _, ⟨weights, rfl⟩, rfl⟩
      exact ⟨weight :: weights, vector_transposeMul_cons row rest weight weights⟩
    · rintro ⟨weights, rfl⟩
      cases weights with
      | nil =>
        refine ⟨0, ⟨0, zero_smul ℝ _⟩, 0, ⟨[], vector_transposeMul_nil_right rest⟩, ?_⟩
        rw [zero_add, vector_transposeMul_nil_right]
      | cons weight weights =>
        exact ⟨_, ⟨weight, rfl⟩, _, ⟨weights, rfl⟩,
          (vector_transposeMul_cons row rest weight weights).symm⟩

/-- How far a row is from the combinations of others. -/
noncomputable def gap (n : ℕ) (rows : List (List ℝ)) (row : List ℝ) : ℝ :=
  Metric.infDist (vector n row) (rowSpan n rows)

lemma gap_eq_zero_iff : gap n rows row = 0 ↔ vector n row ∈ rowSpan n rows :=
  ((rowSpan n rows).closed_of_finiteDimensional.mem_iff_infDist_zero (rowSpan n rows).nonempty).symm

end

/-! ### Exact fits -/

/-- The fit that takes off a combination of the kept rows, with weights that are found by a method
of least squares. -/
noncomputable def fitBy (lstsq : List (List ℝ) → List ℝ → List ℝ) : Fit ℝ ℕ := fun s row =>
  if s.kept.isEmpty then row
  else subtract 1 (transposeMul row.length s.kept (lstsq s.kept row)) row

/-- That no weights leave less of a row with `n` numbers than those that a method finds. -/
def IsLeastSquares (n : ℕ) (lstsq : List (List ℝ) → List ℝ → List ℝ) : Prop :=
  ∀ rows row, rows ≠ [] → (∀ r ∈ rows, r.length = n) → row.length = n → ∀ weights,
    norm (subtract 1 (transposeMul n rows (lstsq rows row)) row) ≤
      norm (subtract 1 (transposeMul n rows weights) row)

section

variable {n : ℕ} {lstsq : List (List ℝ) → List ℝ → List ℝ} {row : List ℝ}

lemma norm_subtract_transposeMul (wide : row.length = n) (rows : List (List ℝ))
    (weights : List ℝ) : norm (subtract 1 (transposeMul n rows weights) row) =
      dist (vector n row) (vector n (transposeMul n rows weights)) := by
  have same : (transposeMul n rows weights).length = row.length :=
    (length_transposeMul n rows weights).trans wide.symm
  have long : (subtract 1 (transposeMul n rows weights) row).length = n := by
    rw [subtract, List.length_zipWith, same, Nat.min_self, wide]
  rw [← norm_vector long, vector_subtract same, dist_comm, dist_eq_norm]

/-- What an exact fit leaves of a row is how far it is from the combinations of the kept rows. -/
lemma norm_fitBy (exact_ : IsLeastSquares n lstsq) {s : Survey ℝ ℕ}
    (wideKept : ∀ r ∈ s.kept, r.length = n) (wide : row.length = n) :
    norm (fitBy lstsq s row) = gap n s.kept row := by
  rw [fitBy]
  split
  · next none =>
    rw [gap, List.isEmpty_iff.mp none, rowSpan_nil, Submodule.bot_coe, Metric.infDist_singleton,
      dist_zero_right, norm_vector wide]
  · next some =>
    have nonempty : s.kept ≠ [] := fun none => some (List.isEmpty_iff.mpr none)
    rw [wide, norm_subtract_transposeMul wide]
    refine le_antisymm ((Metric.le_infDist (rowSpan n s.kept).nonempty).mpr ?_) ?_
    · intro v among
      obtain ⟨weights, rfl⟩ := mem_rowSpan_iff.mp among
      rw [← norm_subtract_transposeMul wide, ← norm_subtract_transposeMul wide]
      exact exact_ s.kept row nonempty wideKept wide weights
    · exact Metric.infDist_le_dist_of_mem (mem_rowSpan_iff.mpr ⟨_, rfl⟩)

end

section

variable {n : ℕ} {rows : List (List ℝ)} {row : List ℝ}

/-- The equations that weights of rows make up a row with `n` numbers. -/
def fitEquations (n : ℕ) (rows : List (List ℝ)) (row : List ℝ) : List (Equation ℝ) :=
  (List.range n).map fun j => ⟨rows.map fun r => r.getD j 0, row.getD j 0⟩

lemma hasWidth_fitEquations (n : ℕ) (rows : List (List ℝ)) (row : List ℝ) :
    HasWidth rows.length (fitEquations n rows row) :=
  List.forall_mem_map.mpr fun _ _ => List.length_map _

lemma excess_fitEquations (wide : row.length = n) (rows : List (List ℝ)) (weights : List ℝ) :
    excess (fitEquations n rows row) weights =
      subtract 1 (transposeMul n rows weights) row := by
  have own : row = (List.range n).map fun j => row.getD j 0 :=
    (map_getD_range (e := ⟨row, 0⟩) wide).symm
  rw [excess, fitEquations, List.map_map, subtract]
  conv_rhs => rw [own]
  rw [transposeMul, List.zipWith_map, List.zipWith_self]
  refine List.map_congr_left fun j _ => ?_
  rw [one_mul]
  rfl

/-- Weights that leave the least of a row with `n` numbers. -/
noncomputable def bestWeights (n : ℕ) (rows : List (List ℝ)) (row : List ℝ) : List ℝ :=
  (exists_isSolution_normalEquations (hasWidth_fitEquations n rows row)).choose

/-- There is an exact method of least squares. -/
lemma isLeastSquares_bestWeights (n : ℕ) : IsLeastSquares n (bestWeights n) := by
  intro rows row _ _ wide weights
  have solution : IsSolution (normalEquations rows.length (fitEquations n rows row))
      (bestWeights n rows row) :=
    (exists_isSolution_normalEquations (hasWidth_fitEquations n rows row)).choose_spec
  rw [← excess_fitEquations wide, ← excess_fitEquations wide, norm_le_norm_iff]
  exact solution.dot_excess_le (hasWidth_fitEquations n rows row) weights

end

/-! ### Surveys -/

/-- That each of some rows is a combination of the rows kept before it, or farther from these than
the tolerance allows. -/
def IsClearCut (n : ℕ) (t : ℝ) : List (List ℝ) → List (List ℝ) → Prop
  | _, [] => True
  | kept, row :: rest =>
    (gap n kept row = 0 ∧ IsClearCut n t kept rest) ∨
      (t * max 1 (norm row) < gap n kept row ∧ IsClearCut n t (kept ++ [row]) rest)

/-- That a row is a linear combination of those before it. -/
def IsDependentRow (n : ℕ) (rows : List (List ℝ)) (i : ℕ) : Prop :=
  vector n (rows.getD i []) ∈ rowSpan n (rows.take i)

open Classical in
/-- The rows among the first `count` that are linear combinations of those before them. -/
noncomputable def dependentRows (n : ℕ) (rows : List (List ℝ)) (count : ℕ) : List ℕ :=
  (List.range count).filter fun i => IsDependentRow n rows i

/-- What a survey has found out about the first `count` rows. -/
structure Survey.IsRight (s : Survey ℝ ℕ) (n : ℕ) (rows : List (List ℝ)) (count : ℕ) : Prop where
  inside : count ≤ rows.length
  wide : ∀ row ∈ s.kept, row.length = n
  span : rowSpan n s.kept = rowSpan n (rows.take count)
  /-- None of the kept rows can be spared. -/
  rank : Module.finrank ℝ (rowSpan n s.kept) = s.kept.length
  redundant : s.redundant = dependentRows n rows count
  complete : s.kept.length + s.redundant.length = count

section

variable {n count : ℕ} {t : ℝ} {rows : List (List ℝ)} {lstsq : List (List ℝ) → List ℝ → List ℝ}
  {s : Survey ℝ ℕ}

lemma isNegligible_iff {row left : List ℝ} :
    isNegligible t row left = true ↔ norm left ≤ t * max 1 (norm row) := by
  rw [isNegligible, decide_eq_true_iff, Scalar.greater_eq_max]

lemma accepts_eq_true (s : Survey ℝ ℕ) (row : List ℝ) : s.accepts row = true := by
  have finite : (row :: s.kept).all (fun r => r.all Scalar.isFinite) = true := by
    simp only [List.all_eq_true]
    exact fun _ _ _ _ => rfl
  rw [Survey.accepts, finite, Bool.or_true]

open Classical in
lemma dependentRows_succ (n : ℕ) (rows : List (List ℝ)) (count : ℕ) :
    dependentRows n rows (count + 1) = dependentRows n rows count ++
      if IsDependentRow n rows count then [count] else [] := by
  rw [dependentRows, List.range_succ, List.filter_append]
  congr 1
  by_cases dependent : IsDependentRow n rows count <;> simp [dependent]

lemma lt_of_mem_dependentRows {i : ℕ} (there : i ∈ dependentRows n rows count) : i < count :=
  List.mem_range.mp (List.mem_of_mem_filter there)

namespace Survey.IsRight

variable (right : s.IsRight n rows count)

include right

/-- A row that is a combination of the kept ones is redundant. -/
lemma note {row : List ℝ} (next : rows[count]? = some row) (inside : gap n s.kept row = 0) :
    IsRight { s with redundant := noteOnce s.redundant count } n rows (count + 1) := by
  obtain ⟨lt, rfl⟩ := List.getElem?_eq_some_iff.mp next
  have among : vector n rows[count] ∈ rowSpan n (rows.take count) :=
    right.span ▸ gap_eq_zero_iff.mp inside
  have dependent : IsDependentRow n rows count := by
    rwa [IsDependentRow, List.getD_eq_getElem _ _ lt]
  have fresh : count ∉ s.redundant := fun before =>
    absurd (lt_of_mem_dependentRows (right.redundant ▸ before)) (Nat.lt_irrefl count)
  have noted : noteOnce s.redundant count = s.redundant ++ [count] := by
    rw [noteOnce, if_neg (by simpa using fresh)]
  constructor
  case inside => exact lt
  case wide => exact right.wide
  case span =>
    rw [← List.take_append_getElem lt, rowSpan_append, rowSpan_singleton, ← right.span,
      left_eq_sup, Submodule.span_singleton_le_iff_mem, right.span]
    exact among
  case rank => exact right.rank
  case redundant => rw [noted, dependentRows_succ, if_pos dependent, right.redundant]
  case complete =>
    rw [noted, List.length_append, List.length_singleton, ← Nat.add_assoc, right.complete]

/-- A row that is apart from the combinations of the kept ones is kept. -/
lemma keep {row : List ℝ} (next : rows[count]? = some row) (wide : row.length = n)
    (outside : 0 < gap n s.kept row) (basis : List (List ℝ)) :
    IsRight { s with kept := s.kept ++ [row], basis } n rows (count + 1) := by
  obtain ⟨lt, rfl⟩ := List.getElem?_eq_some_iff.mp next
  have apart : vector n rows[count] ∉ rowSpan n s.kept :=
    fun among => outside.ne' (gap_eq_zero_iff.mpr among)
  have independent : ¬IsDependentRow n rows count := by
    rwa [IsDependentRow, List.getD_eq_getElem _ _ lt, ← right.span]
  constructor
  case inside => exact lt
  case wide => exact List.forall_mem_append.mpr ⟨right.wide, List.forall_mem_singleton.mpr wide⟩
  case span => rw [← List.take_append_getElem lt, rowSpan_append, rowSpan_append, right.span]
  case rank =>
    rw [rowSpan_append, rowSpan_singleton, Submodule.finrank_sup_span_singleton apart, right.rank,
      List.length_append, List.length_singleton]
  case redundant => rw [dependentRows_succ, if_neg independent, List.append_nil, right.redundant]
  case complete =>
    rw [List.length_append, List.length_singleton, Nat.add_right_comm, right.complete]

/-- One more row that is clear-cut is taken rightly. -/
lemma add (nonneg : 0 ≤ t) (exact_ : IsLeastSquares n lstsq) {row : List ℝ}
    (next : rows[count]? = some row) (wide : row.length = n) {rest : List (List ℝ)}
    (clear : IsClearCut n t s.kept (row :: rest)) :
    (s.add t (fitBy lstsq) count row).IsRight n rows (count + 1) ∧
      IsClearCut n t (s.add t (fitBy lstsq) count row).kept rest := by
  have bound : 0 ≤ t * max 1 (norm row) := mul_nonneg nonneg (zero_le_one.trans (le_max_left _ _))
  have negligible : isNegligible t row (fitBy lstsq s row) = true ↔
      gap n s.kept row ≤ t * max 1 (norm row) := by
    rw [isNegligible_iff, norm_fitBy exact_ right.wide wide]
  obtain ⟨inside, clear⟩ | ⟨outside, clear⟩ := clear
  · rw [Survey.add, if_pos (negligible.mpr (inside.trans_le bound))]
    exact ⟨right.note next inside, clear⟩
  · rw [Survey.add, if_neg (negligible.not.mpr (not_le.mpr outside))]
    exact ⟨right.keep next wide (bound.trans_lt outside) _, clear⟩

/-- The rows that are left are taken rightly, one after the other. -/
lemma addAll (nonneg : 0 ≤ t) (exact_ : IsLeastSquares n lstsq)
    (wide : ∀ row ∈ rows, row.length = n) {rest : List (List ℝ)}
    (left : rows.drop count = rest) (clear : IsClearCut n t s.kept rest) :
    ∃ s', s.addAll t (fitBy lstsq) id count rest = .ok s' ∧ s'.IsRight n rows rows.length := by
  induction rest generalizing s count with
  | nil =>
    have all : count = rows.length :=
      Nat.le_antisymm right.inside (List.drop_eq_nil_iff.mp left)
    exact ⟨s, rfl, all ▸ right⟩
  | cons row rest ih =>
    have next : rows[count]? = some row := by
      rw [← List.head?_drop, left, List.head?_cons]
    have later : rows.drop (count + 1) = rest := by
      rw [← List.tail_drop, left, List.tail_cons]
    obtain ⟨right, clear⟩ :=
      right.add nonneg exact_ next (wide row (List.mem_of_getElem? next)) clear
    rw [Survey.addAll, if_pos (accepts_eq_true s row)]
    exact ih right later clear

end Survey.IsRight

lemma Survey.isRight_empty (n : ℕ) (rows : List (List ℝ)) :
    (⟨[], [], []⟩ : Survey ℝ ℕ).IsRight n rows 0 where
  inside := Nat.zero_le _
  wide := List.forall_mem_nil _
  span := rfl
  rank := by
    rw [rowSpan_nil, finrank_bot]
    rfl
  redundant := rfl
  complete := rfl

/-- A survey of clear-cut rows comes to an end, and is right about all of them. -/
theorem exists_survey_isRight (nonneg : 0 ≤ t) (exact_ : IsLeastSquares n lstsq)
    (wide : ∀ row ∈ rows, row.length = n) (clear : IsClearCut n t [] rows) :
    ∃ s, survey t (fitBy lstsq) id rows = .ok s ∧ s.IsRight n rows rows.length :=
  (Survey.isRight_empty n rows).addAll nonneg exact_ wide List.drop_zero clear

end

/-! ### Matrices -/

/-- The matrix with `m` rows and `n` columns that rows make. -/
def matrixOf (m n : ℕ) (rows : List (List ℝ)) : Matrix (Fin m) (Fin n) ℝ :=
  Matrix.of fun i j => (rows.getD i []).getD j 0

section

variable {n : ℕ} {rows : List (List ℝ)}

lemma rank_matrixOf (n : ℕ) (rows : List (List ℝ)) :
    (matrixOf rows.length n rows).rank = Module.finrank ℝ (rowSpan n rows) := by
  let e := WithLp.linearEquiv 2 ℝ (Fin n → ℝ)
  have image : e '' {v | ∃ row ∈ rows, vector n row = v} =
      Set.range (matrixOf rows.length n rows).row := by
    ext x
    constructor
    · rintro ⟨_, ⟨row, there, rfl⟩, rfl⟩
      obtain ⟨i, inside, rfl⟩ := List.getElem_of_mem there
      refine ⟨⟨i, inside⟩, funext fun j => ?_⟩
      show (rows.getD i []).getD j 0 = _
      rw [List.getD_eq_getElem _ _ inside]
      rfl
    · rintro ⟨i, rfl⟩
      refine ⟨_, ⟨rows[i], List.getElem_mem _, rfl⟩, funext fun j => ?_⟩
      show _ = (rows.getD i []).getD j 0
      rw [List.getD_eq_getElem _ _ i.isLt]
      rfl
  rw [Matrix.rank_eq_finrank_span_row, ← image, ← LinearEquiv.coe_coe, ← Submodule.map_span]
  exact LinearEquiv.finrank_map_eq e (rowSpan n rows)

lemma finrank_rowSpan_le (n : ℕ) (rows : List (List ℝ)) :
    Module.finrank ℝ (rowSpan n rows) ≤ n :=
  (Submodule.finrank_le _).trans_eq finrank_euclideanSpace_fin

/-- A matrix is square and invertible if its rows are as many as its columns and none of them can be
spared. -/
lemma isUnit_matrixOf_iff : rows.length = n ∧ IsUnit (matrixOf n n rows) ↔
    Module.finrank ℝ (rowSpan n rows) = n ∧ Module.finrank ℝ (rowSpan n rows) = rows.length := by
  rw [← rank_matrixOf]
  constructor
  · rintro ⟨rfl, unit⟩
    have full := Matrix.rank_of_isUnit _ unit
    rw [Fintype.card_fin] at full
    exact ⟨full, full⟩
  · rintro ⟨columns, all⟩
    obtain rfl : rows.length = n := all.symm.trans columns
    refine ⟨rfl, Matrix.linearIndependent_rows_iff_isUnit.mp ?_⟩
    rw [linearIndependent_iff_card_eq_finrank_span, Fintype.card_fin, Set.finrank,
      ← Matrix.rank_eq_finrank_span_row, all]

end

/-! ### Analyses -/

/-- That an analysis is right about a matrix of `n` columns, whose rows have labels. -/
structure Analysis.IsRightAbout (a : Analysis (Value ℝ)) (n : ℕ) (matrix : List (List ℝ))
    (labels : List String) : Prop where
  rows : a.rows = matrix.length
  columns : a.columns = n
  rank : a.rank = (matrixOf matrix.length n matrix).rank
  /-- The labels of the dependent rows are noted in the order of these, each of them once. -/
  redundant : a.redundant = (((dependentRows n matrix matrix.length).map fun i =>
    labels.getD i "").eraseDups.map Value.text)
  nodup : a.redundant.Nodup
  /-- There are never more kept rows than columns. -/
  freedom : (a.freedom : ℤ) = n - (matrixOf matrix.length n matrix).rank
  isFullyConstrained : a.isFullyConstrained = true ↔
    matrix.length = n ∧ IsUnit (matrixOf n n matrix)

/-- An analysis with an exact method of least squares is right about every matrix whose rows are
clear-cut. -/
theorem analyzeRows_isRightAbout {n : ℕ} {t : ℝ} {rows : List (List ℝ)} {labels : List String}
    {lstsq : List (List ℝ) → List ℝ → List ℝ} (nonneg : 0 ≤ t) (exact_ : IsLeastSquares n lstsq)
    (wide : ∀ row ∈ rows, row.length = n) (enough : rows.length ≤ labels.length)
    (clear : IsClearCut n t [] rows) :
    ∃ a, analyzeRows (fitBy lstsq) t (labelAt (.list (labels.map .text))) n rows = .ok a ∧
      a.IsRightAbout n rows labels := by
  obtain ⟨s, surveyed, right⟩ := exists_survey_isRight nonneg exact_ wide clear
  have named : ∀ i ∈ s.redundant, labelAt (.list (labels.map Value.text) : Value ℝ) i =
      .ok (.text (labels.getD i "")) := by
    intro i there
    have inside : i < labels.length :=
      (lt_of_mem_dependentRows (right.redundant ▸ there)).trans_le enough
    rw [labelAt_texts, List.getD_eq_getElem _ _ inside, List.getD_eq_getElem _ _ inside]
  have span : rowSpan n s.kept = rowSpan n rows := by rw [right.span, List.take_length]
  have rank : s.kept.length = Module.finrank ℝ (rowSpan n rows) := by rw [← span, right.rank]
  have least := finrank_rowSpan_le n rows
  refine ⟨_, analyzeRows_eq_ok surveyed named n, ?_⟩
  constructor
  case rows => rfl
  case columns => rfl
  case rank => rw [rank_matrixOf, ← rank]
  case redundant => rw [right.redundant]
  case nodup => exact (nodup_eraseDups _).map fun _ _ => Value.text.inj
  case freedom =>
    rw [rank_matrixOf, ← rank]
    show ((n - s.kept.length : ℕ) : ℤ) = n - s.kept.length
    exact Nat.cast_sub (rank ▸ least)
  case isFullyConstrained =>
    have none : ((s.redundant.map fun i => labels.getD i "").eraseDups.map
        (Value.text : String → Value ℝ)).isEmpty = true ↔ s.redundant.length = 0 := by
      rw [List.isEmpty_iff, List.map_eq_nil_iff, List.eq_nil_iff_forall_not_mem]
      simp only [List.mem_eraseDups]
      rw [← List.eq_nil_iff_forall_not_mem, List.map_eq_nil_iff, List.length_eq_zero_iff]
    have complete := right.complete
    rw [isUnit_matrixOf_iff, Analysis.isFullyConstrained, Bool.and_eq_true, none, beq_iff_eq,
      ← rank]
    show n - s.kept.length = 0 ∧ s.redundant.length = 0 ↔ _
    omega

/-- Rows that are zero in a column are no nearer to a row than its own number there. -/
lemma abs_getD_le_gap {n : ℕ} (rows : List (List ℝ)) (j : Fin n)
    (zero : ∀ r ∈ rows, r.getD j 0 = 0) (row : List ℝ) : |row.getD j 0| ≤ gap n rows row := by
  refine (Metric.le_infDist (rowSpan n rows).nonempty).mpr fun v among => ?_
  obtain ⟨weights, rfl⟩ := mem_rowSpan_iff.mp among
  have level : vector n (transposeMul n rows weights) j = 0 := by
    rw [vector_transposeMul_apply]
    exact dot_of_forall_eq_zero (List.forall_mem_map.mpr zero) weights
  have single := PiLp.norm_apply_le (vector n row - vector n (transposeMul n rows weights)) j
  rwa [PiLp.sub_apply, level, sub_zero, vector_apply, ← dist_eq_norm] at single

/-- Two rows for two unknowns, another that is their sum and one without unknowns. -/
theorem analyzeRows_isRightAbout_sums :
    let rows : List (List ℝ) := [[1, 0], [0, 1], [1, 1], [0, 0]]
    IsLeastSquares 2 (bestWeights 2) ∧ IsClearCut 2 0.5 [] rows ∧
      ∃ a, analyzeRows (fitBy (bestWeights 2)) 0.5
          (labelAt (.list (["fix", "fix", "sum", "sum"].map .text))) 2 rows = .ok a ∧
        a.IsRightAbout 2 rows ["fix", "fix", "sum", "sum"] := by
  intro rows
  have first : 0.5 * max 1 (norm [1, 0]) < gap 2 [] [1, 0] := by
    have apart := abs_getD_le_gap (n := 2) [] 0 nofun [1, 0]
    norm_num [norm, Scalar.sqrt] at apart ⊢
    linarith
  have second : 0.5 * max 1 (norm [0, 1]) < gap 2 [[1, 0]] [0, 1] := by
    have apart := abs_getD_le_gap (n := 2) [[1, 0]] 1 (by simp) [0, 1]
    norm_num [norm, Scalar.sqrt] at apart ⊢
    linarith
  have inside (weights : List ℝ) :
      gap 2 [[1, 0], [0, 1]] (transposeMul 2 [[1, 0], [0, 1]] weights) = 0 :=
    gap_eq_zero_iff.mpr (mem_rowSpan_iff.mpr ⟨weights, rfl⟩)
  have sum := inside [1, 1]
  have none := inside [0, 0]
  norm_num [transposeMul, List.range_succ] at sum none
  have clear : IsClearCut 2 0.5 [] rows :=
    .inr ⟨first, .inr ⟨second, .inl ⟨sum, .inl ⟨none, True.intro⟩⟩⟩⟩
  refine ⟨isLeastSquares_bestWeights 2, clear, ?_⟩
  exact analyzeRows_isRightAbout (by norm_num) (isLeastSquares_bestWeights 2) (by simp [rows])
    le_rfl clear

end Drafting.Linear
