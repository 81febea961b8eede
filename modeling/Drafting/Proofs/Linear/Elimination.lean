import Drafting.Linear.Elimination
import Drafting.Proofs.Linear.Equation
import Mathlib.Data.List.GetD
import Mathlib.Data.List.Perm.Basic

/-!
# What elimination finds

In exact arithmetic the numbers that elimination finds depend on the columns of a system alone. An
elimination is decisive if every best pivot is zero or at least the tolerance, so that no unknown is
given up for a small coefficient. It then solves every system that has a solution, with zero for
each unknown whose column depends on those before it, and there is only one solution like that
(`eliminate_eq_of_isSolution`).

The recursion of `eliminate` is opened once, in the equations of the section on steps. All else is
an induction on the number of unknowns with two cases, a free unknown and a pivot.
-/

namespace Drafting.Linear

/-! ### Choosing a pivot -/

lemma outranks_iff {x best : ℝ} : outranks x best = true ↔ best < x := by
  simp [outranks]

/-- The best place is that of `best` if nothing is greater, and else that of a greatest number. -/
lemma bestPlace_cases (best : ℝ) (found place : ℕ) (xs : List ℝ) :
    (bestPlace best found place xs = found ∧ ∀ x ∈ xs, x ≤ best) ∨
      ∃ i, ∃ h : i < xs.length, bestPlace best found place xs = place + i ∧ best < xs[i] ∧
        ∀ x ∈ xs, x ≤ xs[i] := by
  -- the number to beat changes along the scan, and with it the place it was found at
  induction xs generalizing best found place with
  | nil => exact .inl ⟨rfl, nofun⟩
  | cons x rest ih =>
    rw [bestPlace]
    split
    · next greater =>
      rw [outranks_iff] at greater
      obtain ⟨same, least⟩ | ⟨i, inside, same, less, least⟩ := ih x place (place + 1)
      · refine .inr ⟨0, Nat.succ_pos _, same, greater, ?_⟩
        exact List.forall_mem_cons.mpr ⟨le_refl x, least⟩
      · refine .inr ⟨i + 1, Nat.succ_lt_succ inside, ?_, greater.trans less, ?_⟩
        · rw [same]
          omega
        · exact List.forall_mem_cons.mpr ⟨less.le, least⟩
    · next least =>
      rw [outranks_iff, not_lt] at least
      obtain ⟨same, others⟩ | ⟨i, inside, same, less, others⟩ := ih best found (place + 1)
      · exact .inl ⟨same, List.forall_mem_cons.mpr ⟨least, others⟩⟩
      · refine .inr ⟨i + 1, Nat.succ_lt_succ inside, ?_, less, ?_⟩
        · rw [same]
          omega
        · exact List.forall_mem_cons.mpr ⟨least.trans less.le, others⟩

/-- Numbers at the end that are not greater do not take the best place. -/
lemma bestPlace_append {best : ℝ} {xs ys : List ℝ} (small : ∀ y ∈ ys, y ≤ best)
    (found place : ℕ) : bestPlace best found place (xs ++ ys) = bestPlace best found place xs := by
  induction xs generalizing best found place with
  | nil =>
    induction ys generalizing place with
    | nil => rfl
    | cons y rest ih =>
      obtain ⟨first, others⟩ := List.forall_mem_cons.mp small
      have kept : outranks y best = false := by
        rw [Bool.eq_false_iff, ne_eq, outranks_iff, not_lt]
        exact first
      rw [List.nil_append, bestPlace.eq_def _ _ _ (y :: rest)]
      simp only [kept, Bool.false_eq_true, if_false]
      exact ih others (place + 1)
  | cons x rest ih =>
    rw [List.cons_append, bestPlace, bestPlace]
    split
    · next greater =>
      rw [outranks_iff] at greater
      exact ih (fun y there => (small y there).trans greater.le) _ _
    · exact ih small _ _

lemma exchange_map {α β : Type} (f : Equation α → Equation β) (first : Equation α)
    (rest : List (Equation α)) (place : ℕ) : exchange (f first) (rest.map f) place =
      (f (exchange first rest place).1, (exchange first rest place).2.map f) := by
  cases place with
  | zero => rfl
  | succ place => rw [exchange, exchange, List.getD_map, List.map_set]

/-- An exchange only puts the equations in another order. -/
lemma exchange_perm {α : Type} (first : Equation α) (rest : List (Equation α)) (place : ℕ) :
    ((exchange first rest place).1 :: (exchange first rest place).2).Perm (first :: rest) := by
  cases place with
  | zero => exact List.Perm.refl _
  | succ place => exact List.getD_set_perm_cons rest place first

section

variable (first : Equation ℝ) (rest : List (Equation ℝ))

lemma takePivot_eq_exchange :
    takePivot first rest =
      exchange first rest (bestPlace |first.leading| 0 1 (rest.map fun e => |e.leading|)) :=
  rfl

/-- Taking a pivot only puts the equations in another order. -/
lemma takePivot_perm :
    ((takePivot first rest).1 :: (takePivot first rest).2).Perm (first :: rest) := by
  rw [takePivot_eq_exchange]
  exact exchange_perm first rest _

/-- No equation has a greater leading coefficient than the pivot. -/
lemma abs_leading_le_takePivot :
    ∀ e ∈ first :: rest, |e.leading| ≤ |(takePivot first rest).1.leading| := by
  rw [takePivot_eq_exchange]
  obtain ⟨same, least⟩ | ⟨i, inside, same, less, least⟩ :=
    bestPlace_cases |first.leading| 0 1 (rest.map fun e => |e.leading|)
  · rw [same]
    exact List.forall_mem_cons.mpr ⟨le_refl _, List.forall_mem_map.mp least⟩
  · have there : i < rest.length := by simpa using inside
    have chosen : exchange first rest (1 + i) = (rest[i], rest.set i first) := by
      rw [Nat.add_comm, exchange, List.getD_eq_getElem rest first there]
    rw [List.getElem_map] at less least
    rw [same, chosen]
    exact List.forall_mem_cons.mpr ⟨less.le, List.forall_mem_map.mp least⟩

/-- The first equation is the pivot unless another has a greater leading coefficient. -/
lemma takePivot_of_best (best : ∀ e ∈ rest, |e.leading| ≤ |first.leading|) :
    takePivot first rest = (first, rest) := by
  rw [takePivot_eq_exchange]
  obtain ⟨same, -⟩ | ⟨i, inside, -, less, -⟩ :=
    bestPlace_cases |first.leading| 0 1 (rest.map fun e => |e.leading|)
  · rw [same, exchange]
  · rw [List.getElem_map] at less
    have there : i < rest.length := by simpa using inside
    exact absurd less (not_lt_of_ge (best _ (List.getElem_mem there)))

/-- Equations without a first unknown are not chosen before others. -/
lemma takePivot_append {extra : List (Equation ℝ)} (null : ∀ e ∈ extra, e.leading = 0) :
    takePivot first (rest ++ extra) =
      ((takePivot first rest).1, (takePivot first rest).2 ++ extra) := by
  have small : ∀ y ∈ extra.map (fun e => |e.leading|), y ≤ |first.leading| := by
    refine List.forall_mem_map.mpr fun e there => ?_
    rw [null e there, abs_zero]
    exact abs_nonneg _
  rw [takePivot_eq_exchange, takePivot_eq_exchange, List.map_append, bestPlace_append small]
  obtain ⟨same, -⟩ | ⟨i, inside, same, -⟩ :=
    bestPlace_cases |first.leading| 0 1 (rest.map fun e => |e.leading|)
  · rw [same]
    rfl
  · have there : i < rest.length := by simpa using inside
    rw [same, Nat.add_comm, exchange, exchange, List.set_append_left i first there,
      List.getD_append _ _ _ _ there]

/-- Changes that leave the leading coefficients as they are do not change the choice. -/
lemma takePivot_map {f : Equation ℝ → Equation ℝ}
    (kept : ∀ e ∈ first :: rest, (f e).leading = e.leading) :
    takePivot (f first) (rest.map f) =
      (f (takePivot first rest).1, (takePivot first rest).2.map f) := by
  obtain ⟨keptFirst, keptRest⟩ := List.forall_mem_cons.mp kept
  have sizes : (rest.map f).map (fun e => |e.leading|) = rest.map fun e => |e.leading| := by
    rw [List.map_map]
    exact List.map_congr_left fun e there => congrArg abs (keptRest e there)
  rw [takePivot_eq_exchange, takePivot_eq_exchange, sizes, keptFirst]
  exact exchange_map f first rest _

end

/-! ### Steps -/

section

variable {t : ℝ} {n : ℕ} {first : Equation ℝ} {rest : List (Equation ℝ)}

lemma eliminate_zero (t : ℝ) (system : List (Equation ℝ)) : eliminate t 0 system = [] := by
  rw [eliminate, echelon, backSubstitute]

lemma eliminate_nil (t : ℝ) (n : ℕ) : eliminate t n [] = List.replicate n 0 := by
  have free : ∀ n, backSubstitute (List.replicate n (.free : Column ℝ)) = List.replicate n 0 := by
    intro n
    induction n with
    | zero => rfl
    | succ n ih => rw [List.replicate_succ, backSubstitute, ih, List.replicate_succ]
  cases n with
  | zero => exact eliminate_zero t []
  | succ n => rw [eliminate, echelon, free]

/-- Without a pivot, the first unknown is zero and the others are found without it. -/
lemma eliminate_of_free (small : |(takePivot first rest).1.leading| < t) :
    eliminate t (n + 1) (first :: rest) =
      0 :: eliminate t n ((first :: rest).map Equation.dropFirst) := by
  rw [eliminate, echelon]
  exact congrArg backSubstitute (if_pos small)

/-- A pivot gives the first unknown once the others are found by means of it. -/
lemma eliminate_of_pivot (large : ¬|(takePivot first rest).1.leading| < t) :
    eliminate t (n + 1) (first :: rest) =
      (takePivot first rest).1.solveFirst
          (eliminate t n ((takePivot first rest).2.map (takePivot first rest).1.reduce)) ::
        eliminate t n ((takePivot first rest).2.map (takePivot first rest).1.reduce) := by
  rw [eliminate, echelon]
  exact congrArg backSubstitute (if_neg large)

lemma eliminate_of_best (best : ∀ e ∈ rest, |e.leading| ≤ |first.leading|)
    (large : t ≤ |first.leading|) :
    eliminate t (n + 1) (first :: rest) =
      first.solveFirst (eliminate t n (rest.map first.reduce)) ::
        eliminate t n (rest.map first.reduce) := by
  have pivot := takePivot_of_best first rest best
  rw [eliminate_of_pivot (by rwa [pivot, not_lt]), pivot]

end

/-- Induction along an elimination: the first unknown is free or has a pivot. -/
@[elab_as_elim]
lemma elimination_induction (t : ℝ) {motive : ℕ → List (Equation ℝ) → Prop}
    (zero : ∀ system, motive 0 system) (nil : ∀ n, motive (n + 1) [])
    (free : ∀ n first rest, |(takePivot first rest).1.leading| < t →
      motive n ((first :: rest).map Equation.dropFirst) → motive (n + 1) (first :: rest))
    (pivot : ∀ n first rest, ¬|(takePivot first rest).1.leading| < t →
      motive n ((takePivot first rest).2.map (takePivot first rest).1.reduce) →
        motive (n + 1) (first :: rest))
    (n : ℕ) (system : List (Equation ℝ)) : motive n system := by
  induction n generalizing system with
  | zero => exact zero system
  | succ n ih =>
    cases system with
    | nil => exact nil n
    | cons first rest =>
      by_cases small : |(takePivot first rest).1.leading| < t
      · exact free n first rest small (ih _)
      · exact pivot n first rest small (ih _)

section

variable {α : Type} [Scalar α]

lemma length_echelon (t : α) (n : ℕ) (system : List (Equation α)) :
    (echelon t n system).length = n := by
  induction n generalizing system with
  | zero => rw [echelon, List.length_nil]
  | succ n ih =>
    cases system with
    | nil => rw [echelon, List.length_replicate]
    | cons first rest =>
      rw [echelon]
      dsimp only
      split
      · rw [List.length_cons, ih]
      · rw [List.length_cons, ih]

lemma length_backSubstitute (columns : List (Column α)) :
    (backSubstitute columns).length = columns.length := by
  induction columns with
  | nil => rfl
  | cons column rest ih =>
    cases column with
    | free => rw [backSubstitute, List.length_cons, List.length_cons, ih]
    | pivot e => rw [backSubstitute, List.length_cons, List.length_cons, ih]

lemma length_eliminate (t : α) (n : ℕ) (system : List (Equation α)) :
    (eliminate t n system).length = n := by
  rw [eliminate, length_backSubstitute, length_echelon]

end

/-! ### Widths -/

/-- Every equation has a coefficient for each of `n` unknowns. -/
def HasWidth (n : ℕ) (system : List (Equation ℝ)) : Prop :=
  ∀ e ∈ system, e.coefficients.length = n

section

variable {n : ℕ} {first : Equation ℝ} {rest system : List (Equation ℝ)}

lemma HasWidth.takePivot (wide : HasWidth n (first :: rest)) :
    HasWidth n ((takePivot first rest).1 :: (takePivot first rest).2) :=
  fun e there => wide e ((takePivot_perm first rest).subset there)

lemma HasWidth.dropFirst (wide : HasWidth (n + 1) system) :
    HasWidth n (system.map Equation.dropFirst) := by
  refine List.forall_mem_map.mpr fun e there => ?_
  rw [Equation.dropFirst, List.length_tail, wide e there, Nat.add_sub_cancel]

lemma HasWidth.reduce {pivot : Equation ℝ} {others : List (Equation ℝ)}
    (wide : HasWidth (n + 1) (pivot :: others)) : HasWidth n (others.map pivot.reduce) := by
  obtain ⟨widePivot, wideOthers⟩ := List.forall_mem_cons.mp wide
  refine List.forall_mem_map.mpr fun e there => ?_
  rw [Equation.reduce, subtract, List.length_zipWith, List.length_tail, List.length_tail,
    wideOthers e there, widePivot, Nat.add_sub_cancel, Nat.min_self]

end

/-! ### Solutions -/

/-- Numbers of which every equation holds. -/
def IsSolution (system : List (Equation ℝ)) (xs : List ℝ) : Prop :=
  ∀ e ∈ system, e.eval xs = e.value

lemma isSolution_perm {system system' : List (Equation ℝ)} (perm : system.Perm system')
    {xs : List ℝ} : IsSolution system xs ↔ IsSolution system' xs :=
  ⟨fun holds e there => holds e (perm.mem_iff.mpr there),
    fun holds e there => holds e (perm.mem_iff.mp there)⟩

/-- Equations without the first unknown hold whatever it is. -/
lemma isSolution_dropFirst_iff {system : List (Equation ℝ)}
    (null : ∀ e ∈ system, e.leading = 0) {xs : List ℝ} :
    IsSolution (system.map Equation.dropFirst) xs.tail ↔ IsSolution system xs := by
  rw [IsSolution, List.forall_mem_map]
  refine forall₂_congr fun e there => ?_
  rw [e.eval_eq_leading_mul_add, null e there, zero_mul, zero_add]
  rfl

/-- Where the pivot holds, the others hold if they do so with the first unknown eliminated. -/
lemma isSolution_reduce_iff {n : ℕ} {pivot : Equation ℝ} {others : List (Equation ℝ)}
    (wide : HasWidth n (pivot :: others)) (nonzero : pivot.leading ≠ 0) {xs : List ℝ}
    (holds : pivot.eval xs = pivot.value) :
    IsSolution (others.map pivot.reduce) xs.tail ↔ IsSolution others xs := by
  obtain ⟨widePivot, wideOthers⟩ := List.forall_mem_cons.mp wide
  rw [IsSolution, List.forall_mem_map]
  refine forall₂_congr fun e there => ?_
  have split := e.eval_eq_leading_mul_add xs
  rw [pivot.eval_eq_leading_mul_add] at holds
  have cancelled : e.leading / pivot.leading * (pivot.leading * xs.headD 0) =
      e.leading * xs.headD 0 := by
    rw [← mul_assoc, div_mul_cancel₀ _ nonzero]
  have value : (pivot.reduce e).value = e.value - e.leading / pivot.leading * pivot.value := rfl
  rw [Equation.eval_reduce ((wideOthers e there).trans widePivot.symm), value, ← holds, split,
    mul_add, cancelled]
  constructor <;> intro equal <;> linarith

/-- The first unknown that a pivot gives makes it hold, and is the only one that does. -/
lemma eval_cons_eq_value_iff {pivot : Equation ℝ} (nonzero : pivot.leading ≠ 0) {x : ℝ}
    {xs : List ℝ} : pivot.eval (x :: xs) = pivot.value ↔ x = pivot.solveFirst xs := by
  rw [pivot.eval_eq_leading_mul_add, Equation.solveFirst, eq_div_iff nonzero, eq_sub_iff_add_eq,
    mul_comm x]
  rfl

/-- What solves a system solves what is left of it by means of a pivot. -/
lemma IsSolution.reduce {n : ℕ} {pivot : Equation ℝ} {others : List (Equation ℝ)}
    (wide : HasWidth n (pivot :: others)) (nonzero : pivot.leading ≠ 0) {xs : List ℝ}
    (solution : IsSolution (pivot :: others) xs) :
    IsSolution (others.map pivot.reduce) xs.tail := by
  obtain ⟨holds, others⟩ := List.forall_mem_cons.mp solution
  exact (isSolution_reduce_iff wide nonzero holds).mpr others

/-- What solves the rest of a system solves all of it once the pivot has given the first unknown. -/
lemma IsSolution.extend {n : ℕ} {pivot : Equation ℝ} {others : List (Equation ℝ)}
    (wide : HasWidth n (pivot :: others)) (nonzero : pivot.leading ≠ 0) {xs : List ℝ}
    (solution : IsSolution (others.map pivot.reduce) xs) :
    IsSolution (pivot :: others) (pivot.solveFirst xs :: xs) := by
  have holds : pivot.eval (pivot.solveFirst xs :: xs) = pivot.value :=
    (eval_cons_eq_value_iff nonzero).mpr rfl
  exact List.forall_mem_cons.mpr ⟨holds, (isSolution_reduce_iff wide nonzero holds).mp solution⟩

/-! ### Decisive eliminations -/

/-- Every best pivot that an elimination meets is zero or at least the tolerance. -/
def IsDecisive (t : ℝ) : ℕ → List (Equation ℝ) → Prop
  | 0, _ => True
  | _ + 1, [] => True
  | n + 1, first :: rest =>
    ((takePivot first rest).1.leading = 0 ∧
        IsDecisive t n ((first :: rest).map Equation.dropFirst)) ∨
      (t ≤ |(takePivot first rest).1.leading| ∧
        IsDecisive t n ((takePivot first rest).2.map (takePivot first rest).1.reduce))

section

variable {t : ℝ} {n : ℕ} {first : Equation ℝ} {rest : List (Equation ℝ)}

/-- Where a decisive elimination leaves an unknown free, no equation has it. -/
lemma IsDecisive.of_free (decisive : IsDecisive t (n + 1) (first :: rest))
    (small : |(takePivot first rest).1.leading| < t) :
    (∀ e ∈ first :: rest, e.leading = 0) ∧
      IsDecisive t n ((first :: rest).map Equation.dropFirst) := by
  obtain ⟨zero, decisive⟩ | ⟨large, -⟩ := decisive
  · refine ⟨fun e there => ?_, decisive⟩
    have least := abs_leading_le_takePivot first rest e there
    rw [zero, abs_zero] at least
    exact abs_nonpos_iff.mp least
  · exact absurd small (not_lt.mpr large)

lemma IsDecisive.of_pivot (positive : 0 < t) (decisive : IsDecisive t (n + 1) (first :: rest))
    (large : ¬|(takePivot first rest).1.leading| < t) :
    (takePivot first rest).1.leading ≠ 0 ∧
      IsDecisive t n ((takePivot first rest).2.map (takePivot first rest).1.reduce) := by
  obtain ⟨zero, -⟩ | ⟨-, decisive⟩ := decisive
  · rw [zero, abs_zero] at large
    exact absurd positive large
  · refine ⟨fun zero => ?_, decisive⟩
    rw [zero, abs_zero] at large
    exact large positive

end

variable {t : ℝ} {n : ℕ} {system : List (Equation ℝ)}

/-- A decisive elimination solves every system that has a solution. -/
theorem isSolution_eliminate (positive : 0 < t) (wide : HasWidth n system)
    (decisive : IsDecisive t n system) {ys : List ℝ} (solution : IsSolution system ys) :
    IsSolution system (eliminate t n system) := by
  induction n, system using elimination_induction t generalizing ys with
  | zero system =>
    intro e there
    have none : e.coefficients = [] := List.length_eq_zero_iff.mp (wide e there)
    have holds := solution e there
    rw [Equation.eval, none, dot_nil_left] at holds ⊢
    exact holds
  | nil n => exact List.forall_mem_nil _
  | free n first rest small ih =>
    -- the unknown is in no equation at all, so that zero does for it
    obtain ⟨null, decisive⟩ := decisive.of_free small
    rw [eliminate_of_free small, ← isSolution_dropFirst_iff null]
    exact ih wide.dropFirst decisive ((isSolution_dropFirst_iff null).mpr solution)
  | pivot n first rest large ih =>
    obtain ⟨nonzero, decisive⟩ := decisive.of_pivot positive large
    rw [← isSolution_perm (takePivot_perm first rest)] at solution ⊢
    rw [eliminate_of_pivot large]
    exact (ih wide.takePivot.reduce decisive (solution.reduce wide.takePivot nonzero)).extend
      wide.takePivot nonzero

/-! ### Dependent columns -/

/-- The equation with the coefficient of one unknown as its value. -/
def aim (unknown : ℕ) (e : Equation ℝ) : Equation ℝ :=
  ⟨e.coefficients, e.coefficients.getD unknown 0⟩

lemma HasWidth.map_aim {n : ℕ} {system : List (Equation ℝ)} (wide : HasWidth n system)
    (unknown : ℕ) : HasWidth n (system.map (aim unknown)) :=
  List.forall_mem_map.mpr wide

/-- The coefficients of an unknown are a linear combination of those of the unknowns before it. -/
def IsDependent (system : List (Equation ℝ)) (unknown : ℕ) : Prop :=
  ∃ weights : List ℝ, weights.length = unknown ∧ IsSolution (system.map (aim unknown)) weights

lemma isDependent_perm {system system' : List (Equation ℝ)} (perm : system.Perm system')
    {unknown : ℕ} : IsDependent system unknown ↔ IsDependent system' unknown :=
  exists_congr fun _ => and_congr_right fun _ => isSolution_perm (perm.map _)

lemma isDependent_zero_iff {system : List (Equation ℝ)} :
    IsDependent system 0 ↔ ∀ e ∈ system, e.leading = 0 := by
  have holds (e : Equation ℝ) : (aim 0 e).eval [] = (aim 0 e).value ↔ e.leading = 0 := by
    rw [Equation.eval, dot_nil_right, eq_comm, aim, Equation.leading]
    cases e.coefficients <;> rfl
  have solved : IsSolution (system.map (aim 0)) [] ↔ ∀ e ∈ system, e.leading = 0 := by
    rw [IsSolution, List.forall_mem_map]
    exact forall₂_congr fun e _ => holds e
  rw [← solved]
  constructor
  · rintro ⟨weights, none, solution⟩
    rw [List.length_eq_zero_iff.mp none] at solution
    exact solution
  · intro solution
    exact ⟨[], rfl, solution⟩

lemma aim_dropFirst (unknown : ℕ) (e : Equation ℝ) :
    (aim (unknown + 1) e).dropFirst = aim unknown e.dropFirst := by
  obtain ⟨coefficients, value⟩ := e
  cases coefficients <;> rfl

lemma aim_reduce {pivot e : Equation ℝ}
    (same : e.coefficients.length = pivot.coefficients.length) (unknown : ℕ) :
    (aim (unknown + 1) pivot).reduce (aim (unknown + 1) e) = aim unknown (pivot.reduce e) := by
  have next (e : Equation ℝ) :
      e.coefficients.getD (unknown + 1) 0 = e.coefficients.tail.getD unknown 0 := by
    cases e.coefficients <;> rfl
  have tails : e.coefficients.tail.length = pivot.coefficients.tail.length := by
    rw [List.length_tail, List.length_tail, same]
  have value := getD_subtract (e.leading / pivot.leading) tails unknown
  rw [← next, ← next] at value
  exact congrArg (Equation.mk _) value.symm

/-- Where the first unknown is free, another depends on those before it as it does without it. -/
lemma isDependent_dropFirst_iff {system : List (Equation ℝ)} (null : ∀ e ∈ system, e.leading = 0)
    {unknown : ℕ} :
    IsDependent (system.map Equation.dropFirst) unknown ↔ IsDependent system (unknown + 1) := by
  have aims : (system.map Equation.dropFirst).map (aim unknown) =
      (system.map (aim (unknown + 1))).map Equation.dropFirst := by
    rw [List.map_map, List.map_map]
    exact List.map_congr_left fun e _ => (aim_dropFirst unknown e).symm
  have null : ∀ e ∈ system.map (aim (unknown + 1)), e.leading = 0 := List.forall_mem_map.mpr null
  constructor
  · rintro ⟨weights, length, solution⟩
    rw [aims] at solution
    refine ⟨0 :: weights, congrArg Nat.succ length, ?_⟩
    exact (isSolution_dropFirst_iff null).mp solution
  · rintro ⟨weights, length, solution⟩
    refine ⟨weights.tail, by rw [List.length_tail, length, Nat.add_sub_cancel], ?_⟩
    rw [aims]
    exact (isSolution_dropFirst_iff null).mpr solution

/-- Where there is a pivot, an unknown depends on those before it as it does once the first is
eliminated. -/
lemma isDependent_reduce_iff {n : ℕ} {pivot : Equation ℝ} {others : List (Equation ℝ)}
    (wide : HasWidth n (pivot :: others)) (nonzero : pivot.leading ≠ 0) {unknown : ℕ} :
    IsDependent (others.map pivot.reduce) unknown ↔
      IsDependent (pivot :: others) (unknown + 1) := by
  have aims : (others.map pivot.reduce).map (aim unknown) =
      (others.map (aim (unknown + 1))).map (aim (unknown + 1) pivot).reduce := by
    obtain ⟨widePivot, wideOthers⟩ := List.forall_mem_cons.mp wide
    rw [List.map_map, List.map_map]
    exact List.map_congr_left fun e there =>
      (aim_reduce ((wideOthers e there).trans widePivot.symm) unknown).symm
  have wide := wide.map_aim (unknown + 1)
  constructor
  · rintro ⟨weights, length, solution⟩
    rw [aims] at solution
    exact ⟨_ :: weights, congrArg Nat.succ length, solution.extend wide nonzero⟩
  · rintro ⟨weights, length, solution⟩
    refine ⟨weights.tail, by rw [List.length_tail, length, Nat.add_sub_cancel], ?_⟩
    rw [aims]
    exact solution.reduce wide nonzero

/-- A decisive elimination leaves each unknown zero whose column depends on those before it. -/
theorem eliminate_getD_of_isDependent (positive : 0 < t) (wide : HasWidth n system)
    (decisive : IsDecisive t n system) {unknown : ℕ} (dependent : IsDependent system unknown) :
    (eliminate t n system).getD unknown 0 = 0 := by
  induction n, system using elimination_induction t generalizing unknown with
  | zero system => rw [eliminate_zero, List.getD_nil]
  | nil n =>
    rw [eliminate_nil]
    exact getD_of_forall_eq_zero (forall_mem_replicate_eq_zero _) unknown
  | free n first rest small ih =>
    obtain ⟨null, decisive⟩ := decisive.of_free small
    rw [eliminate_of_free small]
    cases unknown with
    | zero => rfl
    | succ unknown =>
      exact ih wide.dropFirst decisive ((isDependent_dropFirst_iff null).mpr dependent)
  | pivot n first rest large ih =>
    obtain ⟨nonzero, decisive⟩ := decisive.of_pivot positive large
    rw [eliminate_of_pivot large]
    rw [← isDependent_perm (takePivot_perm first rest)] at dependent
    cases unknown with
    -- a first unknown that depends on none before it has no pivot
    | zero => exact absurd (isDependent_zero_iff.mp dependent _ List.mem_cons_self) nonzero
    | succ unknown =>
      exact ih wide.takePivot.reduce decisive
        ((isDependent_reduce_iff wide.takePivot nonzero).mpr dependent)

/-- A decisive elimination finds the only solution that is zero for each unknown whose column
depends on those before it. -/
theorem eliminate_eq_of_isSolution (positive : 0 < t) (wide : HasWidth n system)
    (decisive : IsDecisive t n system) {xs : List ℝ} (length : xs.length = n)
    (solution : IsSolution system xs)
    (zero : ∀ unknown < n, IsDependent system unknown → xs.getD unknown 0 = 0) :
    eliminate t n system = xs := by
  induction n, system using elimination_induction t generalizing xs with
  | zero system => rw [eliminate_zero, List.length_eq_zero_iff.mp length]
  | nil n =>
    -- without equations, every column depends on those before it
    rw [eliminate_nil, eq_comm, List.eq_replicate_iff]
    refine ⟨length, fun x there => ?_⟩
    obtain ⟨i, inside, rfl⟩ := List.getElem_of_mem there
    rw [← List.getD_eq_getElem xs 0 inside]
    exact zero i (length ▸ inside) ⟨List.replicate i 0, List.length_replicate, nofun⟩
  | free n first rest small ih =>
    obtain ⟨null, decisive⟩ := decisive.of_free small
    obtain ⟨x, xs, rfl⟩ := List.exists_cons_of_length_eq_add_one length
    have first := zero 0 (Nat.succ_pos n) (isDependent_zero_iff.mpr null)
    rw [eliminate_of_free small, ih wide.dropFirst decisive (Nat.succ_injective length)]
    · exact congrArg (· :: xs) first.symm
    · exact (isSolution_dropFirst_iff null).mpr solution
    · intro unknown inside dependent
      exact zero (unknown + 1) (Nat.succ_lt_succ inside)
        ((isDependent_dropFirst_iff null).mp dependent)
  | pivot n first rest large ih =>
    obtain ⟨nonzero, decisive⟩ := decisive.of_pivot positive large
    obtain ⟨x, xs, rfl⟩ := List.exists_cons_of_length_eq_add_one length
    rw [← isSolution_perm (takePivot_perm first rest)] at solution
    have others : eliminate t n ((takePivot first rest).2.map (takePivot first rest).1.reduce) =
        xs := by
      refine ih wide.takePivot.reduce decisive (Nat.succ_injective length)
        (solution.reduce wide.takePivot nonzero) fun unknown inside dependent => ?_
      rw [isDependent_reduce_iff wide.takePivot nonzero,
        isDependent_perm (takePivot_perm first rest)] at dependent
      exact zero (unknown + 1) (Nat.succ_lt_succ inside) dependent
    rw [eliminate_of_pivot large, others,
      ← (eval_cons_eq_value_iff nonzero).mp (solution _ List.mem_cons_self)]

/-! ### Unknowns and equations that are of no account -/

/-- An equation without unknowns. -/
def IsNull (e : Equation ℝ) : Prop := ∀ c ∈ e.coefficients, c = 0

lemma IsNull.leading {e : Equation ℝ} (null : IsNull e) : e.leading = 0 := by
  rw [Equation.leading]
  cases h : e.coefficients with
  | nil => rfl
  | cons c rest => exact null c (h ▸ List.mem_cons_self)

lemma IsNull.dropFirst {e : Equation ℝ} (null : IsNull e) : IsNull e.dropFirst :=
  fun c there => null c (List.mem_of_mem_tail there)

lemma IsNull.reduce {e : Equation ℝ} (null : IsNull e) (pivot : Equation ℝ) :
    IsNull (pivot.reduce e) := by
  intro c there
  rw [Equation.reduce, subtract, null.leading, zero_div] at there
  obtain ⟨i, inside, rfl⟩ := List.getElem_of_mem there
  rw [List.getElem_zipWith, zero_mul, sub_zero]
  exact null.dropFirst _ (List.getElem_mem _)

lemma eliminate_of_isNull (positive : 0 < t) (null : ∀ e ∈ system, IsNull e) :
    eliminate t n system = List.replicate n 0 := by
  induction n, system using elimination_induction t with
  | zero system => exact eliminate_zero t system
  | nil n => exact eliminate_nil t (n + 1)
  | free n first rest small ih =>
    rw [eliminate_of_free small, ih, List.replicate_succ]
    exact List.forall_mem_map.mpr fun e there => (null e there).dropFirst
  | pivot n first rest large =>
    have chosen := (takePivot_perm first rest).subset List.mem_cons_self
    rw [(null _ chosen).leading, abs_zero] at large
    exact absurd positive large

/-- Equations without unknowns at the end of a system change nothing. -/
lemma eliminate_append_of_isNull (positive : 0 < t) {extra : List (Equation ℝ)}
    (null : ∀ e ∈ extra, IsNull e) : eliminate t n (system ++ extra) = eliminate t n system := by
  induction n, system using elimination_induction t generalizing extra with
  | zero system => rw [eliminate_zero, eliminate_zero]
  | nil n => rw [List.nil_append, eliminate_of_isNull positive null, eliminate_nil]
  | free n first rest small ih =>
    have chosen := takePivot_append first rest fun e there => (null e there).leading
    have small' : |(takePivot first (rest ++ extra)).1.leading| < t := by rwa [chosen]
    rw [eliminate_of_free small, List.cons_append, eliminate_of_free small', ← List.cons_append,
      List.map_append, ih]
    exact List.forall_mem_map.mpr fun e there => (null e there).dropFirst
  | pivot n first rest large ih =>
    have chosen := takePivot_append first rest fun e there => (null e there).leading
    have large' : ¬|(takePivot first (rest ++ extra)).1.leading| < t := by rwa [chosen]
    rw [eliminate_of_pivot large, List.cons_append, eliminate_of_pivot large', chosen,
      List.map_append, ih]
    exact List.forall_mem_map.mpr fun e there => (null e there).reduce _

/-- The equation with more unknowns, which it does not have. -/
def pad (count : ℕ) (e : Equation ℝ) : Equation ℝ :=
  ⟨e.coefficients ++ List.replicate count 0, e.value⟩

lemma leading_pad (count : ℕ) (e : Equation ℝ) : (pad count e).leading = e.leading := by
  obtain ⟨coefficients, value⟩ := e
  cases coefficients with
  | nil => cases count <;> rfl
  | cons c rest => rfl

lemma dropFirst_pad (count : ℕ) {e : Equation ℝ} (wide : e.coefficients.length = n + 1) :
    (pad count e).dropFirst = pad count e.dropFirst := by
  obtain ⟨coefficients, value⟩ := e
  obtain ⟨c, rest, rfl⟩ := List.exists_cons_of_length_eq_add_one wide
  rfl

lemma reduce_pad (count : ℕ) {pivot e : Equation ℝ} (widePivot : pivot.coefficients.length = n + 1)
    (wide : e.coefficients.length = n + 1) :
    (pad count pivot).reduce (pad count e) = pad count (pivot.reduce e) := by
  have tail {e : Equation ℝ} (wide : e.coefficients.length = n + 1) :
      (pad count e).coefficients.tail = e.coefficients.tail ++ List.replicate count 0 :=
    congrArg Equation.coefficients (dropFirst_pad count wide)
  have same : e.coefficients.tail.length = pivot.coefficients.tail.length := by
    rw [List.length_tail, List.length_tail, wide, widePivot]
  rw [Equation.reduce, tail wide, tail widePivot, leading_pad, leading_pad, subtract,
    List.zipWith_append same, List.zipWith_replicate, Nat.min_self, mul_zero, sub_zero]
  rfl

lemma solveFirst_pad (count : ℕ) {e : Equation ℝ} (wide : e.coefficients.length = n + 1)
    (xs : List ℝ) : (pad count e).solveFirst (xs ++ List.replicate count 0) = e.solveFirst xs := by
  have zero := forall_mem_replicate_eq_zero count
  have inner : (pad count e).dropFirst.eval (xs ++ List.replicate count 0) =
      e.dropFirst.eval xs := by
    rw [dropFirst_pad count wide, Equation.eval, pad, dot_append_of_forall_eq_zero zero, dot_comm,
      dot_append_of_forall_eq_zero zero, dot_comm]
    rfl
  rw [Equation.solveFirst, inner, leading_pad]
  rfl

/-- Unknowns at the end that no equation has are zero, and change nothing else. -/
theorem eliminate_map_pad (positive : 0 < t) (wide : HasWidth n system) (count : ℕ) :
    eliminate t (n + count) (system.map (pad count)) =
      eliminate t n system ++ List.replicate count 0 := by
  induction n, system using elimination_induction t with
  | zero system =>
    -- the unknowns that are left are those that no equation has
    rw [eliminate_zero, List.nil_append, Nat.zero_add]
    refine eliminate_of_isNull positive (List.forall_mem_map.mpr fun e there c member => ?_)
    rw [pad, List.length_eq_zero_iff.mp (wide e there), List.nil_append] at member
    exact List.eq_of_mem_replicate member
  | nil n => rw [List.map_nil, eliminate_nil, eliminate_nil, List.replicate_append_replicate]
  | free n first rest small ih =>
    have chosen := takePivot_map first rest fun e _ => leading_pad count e
    have small' : |(takePivot (pad count first) (rest.map (pad count))).1.leading| < t := by
      rwa [chosen, leading_pad]
    have drops : ((first :: rest).map (pad count)).map Equation.dropFirst =
        ((first :: rest).map Equation.dropFirst).map (pad count) := by
      rw [List.map_map, List.map_map]
      exact List.map_congr_left fun e there => dropFirst_pad count (wide e there)
    rw [List.map_cons, Nat.add_right_comm, eliminate_of_free small', ← List.map_cons, drops,
      ih wide.dropFirst, eliminate_of_free small, List.cons_append]
  | pivot n first rest large ih =>
    have chosen := takePivot_map first rest fun e _ => leading_pad count e
    have large' : ¬|(takePivot (pad count first) (rest.map (pad count))).1.leading| < t := by
      rwa [chosen, leading_pad]
    obtain ⟨widePivot, wideOthers⟩ := List.forall_mem_cons.mp wide.takePivot
    have reduced : ((takePivot first rest).2.map (pad count)).map
        (pad count (takePivot first rest).1).reduce =
        ((takePivot first rest).2.map (takePivot first rest).1.reduce).map (pad count) := by
      rw [List.map_map, List.map_map]
      exact List.map_congr_left fun e there => reduce_pad count widePivot (wideOthers e there)
    rw [List.map_cons, Nat.add_right_comm, eliminate_of_pivot large', chosen, reduced,
      ih wide.takePivot.reduce, solveFirst_pad count widePivot, eliminate_of_pivot large,
      List.cons_append]

/-- An unknown that no equation has. -/
def IsUnused (system : List (Equation ℝ)) (unknown : ℕ) : Prop :=
  ∀ e ∈ system, e.coefficients.getD unknown 0 = 0

lemma IsUnused.leading (unused : IsUnused system 0) : ∀ e ∈ system, e.leading = 0 := by
  refine fun e there => Eq.trans ?_ (unused e there)
  rw [Equation.leading]
  cases e.coefficients <;> rfl

lemma IsUnused.takePivot {first : Equation ℝ} {rest : List (Equation ℝ)} {unknown : ℕ}
    (unused : IsUnused (first :: rest) unknown) :
    IsUnused ((takePivot first rest).1 :: (takePivot first rest).2) unknown :=
  fun e there => unused e ((takePivot_perm first rest).subset there)

lemma IsUnused.dropFirst {unknown : ℕ} (unused : IsUnused system (unknown + 1)) :
    IsUnused (system.map Equation.dropFirst) unknown := by
  refine List.forall_mem_map.mpr fun e there => ?_
  exact (congrArg Equation.value (aim_dropFirst unknown e)).symm.trans (unused e there)

lemma IsUnused.reduce {pivot : Equation ℝ} {others : List (Equation ℝ)}
    (wide : HasWidth n (pivot :: others)) {unknown : ℕ}
    (unused : IsUnused (pivot :: others) (unknown + 1)) :
    IsUnused (others.map pivot.reduce) unknown := by
  obtain ⟨widePivot, wideOthers⟩ := List.forall_mem_cons.mp wide
  obtain ⟨unusedPivot, unusedOthers⟩ := List.forall_mem_cons.mp unused
  refine List.forall_mem_map.mpr fun e there => ?_
  have value := aim_reduce ((wideOthers e there).trans widePivot.symm) unknown
  refine (congrArg Equation.value value).symm.trans ?_
  rw [Equation.reduce, aim, aim, unusedPivot, unusedOthers e there, mul_zero, sub_zero]

/-- Unknowns that no equation has are zero, whether the system has a solution or not. -/
theorem eliminate_getD_of_isUnused (positive : 0 < t) (wide : HasWidth n system) {unknown : ℕ}
    (unused : IsUnused system unknown) : (eliminate t n system).getD unknown 0 = 0 := by
  induction n, system using elimination_induction t generalizing unknown with
  | zero system => rw [eliminate_zero, List.getD_nil]
  | nil n =>
    rw [eliminate_nil]
    exact getD_of_forall_eq_zero (forall_mem_replicate_eq_zero _) unknown
  | free n first rest small ih =>
    rw [eliminate_of_free small]
    cases unknown with
    | zero => rfl
    | succ unknown => exact ih wide.dropFirst unused.dropFirst
  | pivot n first rest large ih =>
    rw [eliminate_of_pivot large]
    cases unknown with
    -- a coefficient that is zero is no pivot
    | zero =>
      rw [unused.takePivot.leading _ List.mem_cons_self, abs_zero] at large
      exact absurd positive large
    | succ unknown => exact ih wide.takePivot.reduce (unused.takePivot.reduce wide.takePivot)

end Drafting.Linear
