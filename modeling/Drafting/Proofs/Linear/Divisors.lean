import Drafting.Proofs.Guarded
import Drafting.Proofs.Linear.Tableau

/-!
# Divisors

Watched numbers are guarded numbers whose arithmetic watches over divisors: a quotient by a divisor
below a bound is outside, and so is whatever is computed from it. Every quotient that elimination
in place takes goes into the value of an equation or into an unknown. It comes to the same with
watched numbers (`reduced_watch`, `IsReduced.solution_watch`), so none of its divisors is below the
tolerance. Together with what its steps keep, this is why small coefficients do no harm
(`isSafe_of_hasWidth`).
-/

namespace Drafting

/-- A quotient of guarded numbers, unless the divisor is below a bound. -/
def Guarded.quotient {α : Type} [Scalar α] (bound : α) : Guarded α → Guarded α → Guarded α
  | .inside x, .inside y => if Scalar.abs y < bound then .outside else .inside (x / y)
  | _, _ => .outside

/-- Guarded numbers that watch over divisors. -/
def Watched {α : Type} (_bound : α) : Type := Guarded α

/-- A number as a watched one. -/
def watch {α : Type} (bound x : α) : Watched bound := Guarded.inside x

/-- Watched numbers have the arithmetic of guarded numbers, apart from quotients. -/
instance {α : Type} [Scalar α] (bound : α) : Scalar (Watched bound) :=
  { (inferInstance : Scalar (Guarded α)) with div := Guarded.quotient bound }

/-- The equation with other numbers. -/
def Equation.map {α β : Type} (f : α → β) (e : Equation α) : Equation β :=
  ⟨e.coefficients.map f, f e.value⟩

namespace Linear

section

variable {α : Type} [Scalar α] {t : α}

lemma div_watch {x y : α} (large : ¬Scalar.abs y < t) :
    watch t x / watch t y = watch t (x / y) :=
  if_neg large

lemma dot_watch (xs ys : List α) : dot (xs.map (watch t)) (ys.map (watch t)) =
    watch t (dot xs ys) := by
  have products : List.zipWith (· * ·) (xs.map (watch t)) (ys.map (watch t)) =
      (List.zipWith (· * ·) xs ys).map (watch t) := by
    rw [List.zipWith_map, List.map_zipWith]
    rfl
  rw [dot, products, Scalar.sum, List.foldl_map]
  exact List.foldl_hom (watch t) fun _ _ => rfl

lemma subtract_watch (factor : α) (xs ys : List α) :
    subtract (watch t factor) (xs.map (watch t)) (ys.map (watch t)) =
      (subtract factor xs ys).map (watch t) := by
  rw [subtract, subtract, List.zipWith_map, List.map_zipWith]
  rfl

lemma bestPlace_watch (best : α) (found place : ℕ) (xs : List α) :
    bestPlace (watch t best) found place (xs.map (watch t)) = bestPlace best found place xs := by
  induction xs generalizing best found place with
  | nil => rfl
  | cons x rest ih =>
    have same : outranks (watch t x) (watch t best) = outranks x best := rfl
    rw [List.map_cons, bestPlace, bestPlace, same, ih, ih]

lemma coefficient_watch (unknown : ℕ) (e : Equation α) :
    (e.map (watch t)).coefficient unknown = watch t (e.coefficient unknown) :=
  List.getD_map _ 0 (watch t)

lemma clear_watch {unknown : ℕ} {pivot : Equation α}
    (large : ¬Scalar.abs (pivot.coefficient unknown) < t) (e : Equation α) :
    (pivot.map (watch t)).clear unknown (e.map (watch t)) =
      (pivot.clear unknown e).map (watch t) := by
  rw [Equation.clear, coefficient_watch, coefficient_watch, div_watch large, Equation.map,
    Equation.map, Equation.map, ← List.map_take, ← List.map_drop, ← List.map_drop, subtract_watch,
    ← List.map_append]
  rfl

lemma solveAt_watch {unknown : ℕ} {e : Equation α}
    (large : ¬Scalar.abs (e.coefficient unknown) < t) (xs : List α) :
    (e.map (watch t)).solveAt unknown (xs.map (watch t)) = watch t (e.solveAt unknown xs) := by
  have inner : ((e.map (watch t)).drop (unknown + 1)).eval ((xs.map (watch t)).drop (unknown + 1)) =
      watch t ((e.drop (unknown + 1)).eval (xs.drop (unknown + 1))) := by
    rw [Equation.eval, Equation.drop, Equation.map, ← List.map_drop, ← List.map_drop, dot_watch]
    rfl
  rw [Equation.solveAt, inner, coefficient_watch]
  exact div_watch large

namespace Tableau

/-- The tableau with other numbers. -/
def map {α β : Type} (f : α → β) (s : Tableau α) : Tableau β :=
  ⟨s.done.map (Equation.map f), s.rest.map (Equation.map f), s.pivots⟩

lemma takePivotAt_watch (unknown : ℕ) (first : Equation α) (rest : List (Equation α)) :
    takePivotAt unknown (first.map (watch t)) (rest.map (Equation.map (watch t))) =
      ((takePivotAt unknown first rest).1.map (watch t),
        (takePivotAt unknown first rest).2.map (Equation.map (watch t))) := by
  have size (e : Equation α) : Scalar.abs ((e.map (watch t)).coefficient unknown) =
      watch t (Scalar.abs (e.coefficient unknown)) := by
    rw [coefficient_watch]
    rfl
  have sizes : (rest.map (Equation.map (watch t))).map
        (fun e => Scalar.abs (e.coefficient unknown)) =
      (rest.map fun e => Scalar.abs (e.coefficient unknown)).map (watch t) := by
    rw [List.map_map, List.map_map]
    exact List.map_congr_left fun e _ => size e
  rw [takePivotAt, exchange_map]
  dsimp only
  rw [size, sizes, bestPlace_watch]
  rfl

/-- A step divides by nothing that is below the tolerance. -/
lemma step_watch (s : Tableau α) (unknown : ℕ) :
    (s.map (watch t)).step (watch t t) unknown = (s.step t unknown).map (watch t) := by
  cases below : s.rest with
  | nil =>
    have nothing : (s.map (watch t)).rest = [] := by rw [map, below, List.map_nil]
    rw [step, step, nothing, below]
  | cons first rest =>
    have some : (s.map (watch t)).rest =
        first.map (watch t) :: rest.map (Equation.map (watch t)) := by
      rw [map, below, List.map_cons]
    rw [step, step, some, below]
    dsimp only
    rw [takePivotAt_watch]
    generalize takePivotAt unknown first rest = chosen
    obtain ⟨pivot, others⟩ := chosen
    dsimp only
    rw [coefficient_watch]
    by_cases small : Scalar.abs (pivot.coefficient unknown) < t
    · rw [if_pos small]
      exact if_pos small
    · rw [if_neg small]
      refine (if_neg small).trans ?_
      have cleared : (others.map (Equation.map (watch t))).map
          ((pivot.map (watch t)).clear unknown) =
          (others.map (pivot.clear unknown)).map (Equation.map (watch t)) := by
        rw [List.map_map, List.map_map]
        exact List.map_congr_left fun e _ => clear_watch small e
      rw [cleared]
      simp only [map, List.map_append, List.map_cons, List.map_nil, List.length_map]

/-- Elimination in place divides by nothing that is below the tolerance. -/
lemma reduced_watch (t : α) (system : List (Equation α)) (count : ℕ) :
    reduced (watch t t) (system.map (Equation.map (watch t))) count =
      (reduced t system count).map (watch t) := by
  induction count with
  | zero => rfl
  | succ count ih => rw [reduced_succ, reduced_succ, ih, step_watch]

lemma determine_watch {rows : List (Equation α)} {p : ℕ × ℕ}
    (large : ¬Scalar.abs ((rows.getD p.1 ⟨[], 0⟩).coefficient p.2) < t) (xs : List α) :
    determine (rows.map (Equation.map (watch t))) p (xs.map (watch t)) =
      (determine rows p xs).map (watch t) := by
  have row : (rows.map (Equation.map (watch t))).getD p.1 ⟨[], 0⟩ =
      (rows.getD p.1 ⟨[], 0⟩).map (watch t) :=
    List.getD_map rows ⟨[], 0⟩ (Equation.map (watch t))
  rw [determine, determine, row, solveAt_watch large, List.map_set]

end Tableau

end

namespace Tableau

variable {t : ℝ} {n : ℕ} {s : Tableau ℝ} {system : List (Equation ℝ)}

/-- Nor do the unknowns take a quotient by a number below the tolerance. -/
lemma IsReduced.solution_watch (reduced : IsReduced t n n s) :
    (s.map (watch t)).solution n = (s.solution n).map (watch t) := by
  have large (p : ℕ × ℕ) (there : p ∈ s.pivots) :
      ¬Scalar.abs ((s.rows.getD p.1 ⟨[], 0⟩).coefficient p.2) < t := by
    have row := (reduced.within p there).1
    have done : s.done[p.1]? = some s.done[p.1] := List.getElem?_eq_getElem row
    rw [List.getD_eq_getElem?_getD, reduced.getElem?_rows there, done, Option.getD_some]
    exact not_lt.mpr (reduced.large p there _ done)
  have rows : (s.map (watch t)).rows = s.rows.map (Equation.map (watch t)) :=
    (List.map_append ..).symm
  rw [solution, solution, rows]
  change s.pivots.foldr _ _ = _
  generalize s.pivots = pivots at large
  induction pivots with
  | nil =>
    rw [List.foldr_nil, List.foldr_nil, List.map_replicate]
    rfl
  | cons p pivots ih =>
    obtain ⟨first, others⟩ := List.forall_mem_cons.mp large
    rw [List.foldr_cons, List.foldr_cons, ih others, determine_watch first]

/-- What is right about the elimination of a system with `n` unknowns in place. -/
structure IsSafe (t : ℝ) (n : ℕ) (system : List (Equation ℝ)) : Prop where
  /-- It finds what elimination finds. -/
  found : (reduced t system n).solution n = eliminate t n system
  length : (eliminate t n system).length = n
  rows : (reduced t system n).rows.length = system.length
  /-- No divisor is below the tolerance while the tableau is reduced, -/
  reduction : reduced (watch t t) (system.map (Equation.map (watch t))) n =
    (reduced t system n).map (watch t)
  /-- nor while the unknowns are determined. -/
  solution : ((reduced t system n).map (watch t)).solution n =
    (eliminate t n system).map (watch t)
  /-- Each pivot is below those before it, and to the right of them. -/
  increasing : (reduced t system n).pivots.Pairwise fun p q => p.1 < q.1 ∧ p.2 < q.2
  within : ∀ p ∈ (reduced t system n).pivots, p.1 < system.length ∧ p.2 < n
  /-- An unknown without a pivot is zero. -/
  zero : ∀ unknown, unknown ∉ (reduced t system n).pivots.map Prod.snd →
    (eliminate t n system).getD unknown 0 = 0
  /-- Each pivot holds as it stands, with what is left of the columns that were skipped. -/
  holds : ∀ p ∈ (reduced t system n).pivots, ∀ e, (reduced t system n).rows[p.1]? = some e →
    e.eval (eliminate t n system) = e.value

/-- Elimination goes without small divisors, and small coefficients in columns that are skipped do
no harm, whether the system has a solution or not. -/
theorem isSafe_of_hasWidth (positive : 0 < t) (wide : HasWidth n system) : IsSafe t n system := by
  have right := isReduced_reduced positive wide le_rfl
  have found := solution_reduced positive wide
  have rows := length_rows_reduced t system n
  refine ⟨found, length_eliminate t n system, rows, reduced_watch t system n, ?solution,
    right.increasing, ?within, ?zero, ?holds⟩
  case solution => rw [right.solution_watch, found]
  case within =>
    intro p there
    obtain ⟨row, column⟩ := right.within p there
    rw [← rows, Tableau.rows, List.length_append]
    exact ⟨by omega, column⟩
  case zero =>
    intro unknown free
    rw [← found]
    exact getD_solution_of_notMem _ n free
  case holds =>
    intro p there e row
    rw [← found]
    exact right.eval_solution positive there row

/-- An equation whose first coefficient is small. -/
noncomputable def uneven : Equation ℝ := ⟨[0.5, 1], 1⟩

/-- The small coefficient is skipped, and still stands to the left of the pivot. -/
theorem isSafe_uneven : (0 : ℝ) < 1 ∧ HasWidth 2 [uneven] ∧
    (reduced 1 [uneven] 2).pivots = [(0, 1)] ∧ (reduced 1 [uneven] 2).rows = [uneven] ∧
    IsSafe 1 2 [uneven] := by
  have wide : HasWidth 2 [uneven] := List.forall_mem_singleton.mpr rfl
  have skips : step 1 ⟨[], [uneven], []⟩ 0 = ⟨[], [uneven], []⟩ :=
    if_pos (show |(0.5 : ℝ)| < 1 by norm_num [abs_lt])
  have takes : step 1 ⟨[], [uneven], []⟩ 1 = ⟨[uneven], [], [(0, 1)]⟩ :=
    if_neg (show ¬|(1 : ℝ)| < 1 by norm_num)
  have reduced : reduced 1 [uneven] 2 = ⟨[uneven], [], [(0, 1)]⟩ := by
    rw [reduced_succ, reduced_succ]
    exact (congrArg (step 1 · 1) skips).trans takes
  rw [reduced]
  exact ⟨one_pos, wide, rfl, rfl, isSafe_of_hasWidth one_pos wide⟩

end Tableau

end Linear

end Drafting
