import Drafting.Linear.Tableau
import Drafting.Proofs.Linear.Elimination

/-!
# The numbers that elimination in place finds

The numbers that a tableau comes to are those of `eliminate`, which forgets the columns that it has
passed (`solution_reduced`). Every step keeps what is right about the tableau so far (`IsReduced`),
and this tells why the columns that were skipped do no harm: their unknowns are zero, and below a
pivot no equation has its unknown (`eval_solution`).
-/

namespace Drafting.Linear

namespace Tableau

section

variable {α : Type} [Scalar α]

lemma reduced_succ (tolerance : α) (system : List (Equation α)) (count : ℕ) :
    reduced tolerance system (count + 1) =
      (reduced tolerance system count).step tolerance count := by
  rw [reduced, List.range_succ, List.foldl_append]
  rfl

end

/-! ### Steps -/

section

variable {unknown n : ℕ} {pivot e first : Equation ℝ} {rest : List (Equation ℝ)}

lemma leading_drop (unknown : ℕ) (e : Equation ℝ) :
    (e.drop unknown).leading = e.coefficient unknown := by
  rw [Equation.leading, Equation.drop, Equation.coefficient, List.headD_eq_head?_getD,
    List.head?_drop, List.getD_eq_getElem?_getD]

lemma dropFirst_drop (unknown : ℕ) (e : Equation ℝ) :
    (e.drop unknown).dropFirst = e.drop (unknown + 1) := by
  rw [Equation.dropFirst, Equation.drop, Equation.drop, List.tail_drop]

/-- To the right of its column, clearing an unknown is eliminating it. -/
lemma drop_clear (within : unknown ≤ e.coefficients.length) :
    (pivot.clear unknown e).drop (unknown + 1) = (pivot.drop unknown).reduce (e.drop unknown) := by
  have kept : (e.coefficients.take unknown).length = unknown := List.length_take_of_le within
  rw [Equation.drop, Equation.clear, List.drop_append, List.drop_eq_nil_of_le (by omega), kept,
    Nat.add_sub_cancel_left, List.nil_append, subtract, List.drop_zipWith, List.drop_one,
    List.drop_one, Equation.reduce, leading_drop, leading_drop]
  rfl

lemma length_clear (widePivot : pivot.coefficients.length = n) (wide : e.coefficients.length = n)
    (within : unknown < n) : (pivot.clear unknown e).coefficients.length = n := by
  rw [Equation.clear, List.length_append, List.length_take, subtract, List.length_zipWith,
    List.length_drop, List.length_drop, widePivot, wide]
  omega

lemma coefficient_clear_of_lt {i : ℕ} (before : i < unknown) (within : i < e.coefficients.length) :
    (pivot.clear unknown e).coefficient i = e.coefficient i := by
  rw [Equation.coefficient, Equation.clear, List.getD_append, Equation.coefficient,
    List.getD_eq_getElem?_getD, List.getElem?_take_of_lt before, ← List.getD_eq_getElem?_getD]
  rw [List.length_take]
  exact lt_min before within

/-- No equation has the unknown that has been cleared. -/
lemma coefficient_clear_self (widePivot : pivot.coefficients.length = n)
    (wide : e.coefficients.length = n) (within : unknown < n)
    (nonzero : pivot.coefficient unknown ≠ 0) :
    (pivot.clear unknown e).coefficient unknown = 0 := by
  have kept : (e.coefficients.take unknown).length = unknown :=
    List.length_take_of_le (wide ▸ within.le)
  have same : (e.coefficients.drop unknown).length = (pivot.coefficients.drop unknown).length := by
    rw [List.length_drop, List.length_drop, wide, widePivot]
  have here (e : Equation ℝ) : (e.coefficients.drop unknown).getD 0 0 = e.coefficient unknown := by
    rw [List.getD_eq_getElem?_getD, List.getElem?_drop, Nat.add_zero,
      ← List.getD_eq_getElem?_getD, Equation.coefficient]
  rw [Equation.coefficient, Equation.clear, List.getD_append_right _ _ _ _ kept.le, kept,
    Nat.sub_self, getD_subtract _ same, here, here, div_mul_cancel₀ _ nonzero, sub_self]

lemma takePivotAt_perm (unknown : ℕ) (first : Equation ℝ) (rest : List (Equation ℝ)) :
    ((takePivotAt unknown first rest).1 :: (takePivotAt unknown first rest).2).Perm
      (first :: rest) :=
  exchange_perm first rest _

lemma takePivot_drop (unknown : ℕ) (first : Equation ℝ) (rest : List (Equation ℝ)) :
    takePivot (first.drop unknown) (rest.map (Equation.drop unknown)) =
      ((takePivotAt unknown first rest).1.drop unknown,
        (takePivotAt unknown first rest).2.map (Equation.drop unknown)) := by
  rw [takePivot_eq_exchange, exchange_map, List.map_map, Function.comp_def]
  simp only [leading_drop]
  rfl

/-- A step leaves the tableau as it is, or makes an equation a pivot. -/
lemma step_cases (t : ℝ) (s : Tableau ℝ) (unknown : ℕ) :
    (s.rest = [] ∧ s.step t unknown = s) ∨
    ∃ first rest, s.rest = first :: rest ∧
      ((|(takePivotAt unknown first rest).1.coefficient unknown| < t ∧ s.step t unknown = s) ∨
        (t ≤ |(takePivotAt unknown first rest).1.coefficient unknown| ∧
          s.step t unknown = ⟨s.done ++ [(takePivotAt unknown first rest).1],
            (takePivotAt unknown first rest).2.map
              ((takePivotAt unknown first rest).1.clear unknown),
            s.pivots ++ [(s.done.length, unknown)]⟩)) := by
  cases below : s.rest with
  | nil => exact .inl ⟨rfl, by rw [step, below]⟩
  | cons first rest =>
    refine .inr ⟨first, rest, rfl, ?_⟩
    rw [step, below]
    by_cases small : |(takePivotAt unknown first rest).1.coefficient unknown| < t
    · exact .inl ⟨small, if_pos small⟩
    · exact .inr ⟨not_lt.mp small, if_neg small⟩

end

lemma length_rows_step (t : ℝ) (s : Tableau ℝ) (unknown : ℕ) :
    (s.step t unknown).rows.length = s.rows.length := by
  obtain ⟨-, same⟩ | ⟨first, rest, found, ⟨-, same⟩ | ⟨-, changed⟩⟩ := step_cases t s unknown
  · rw [same]
  · rw [same]
  · have same := (takePivotAt_perm unknown first rest).length_eq
    rw [← found, List.length_cons] at same
    rw [changed, rows, rows, List.length_append, List.length_append, List.length_append,
      List.length_map, List.length_singleton, ← same]
    omega

lemma length_rows_reduced (t : ℝ) (system : List (Equation ℝ)) (count : ℕ) :
    (reduced t system count).rows.length = system.length := by
  induction count with
  | zero => rfl
  | succ count ih => rw [reduced_succ, length_rows_step, ih]

/-! ### What the steps keep -/

/-- What is right about a tableau after the unknowns before one. -/
structure IsReduced (t : ℝ) (n unknown : ℕ) (s : Tableau ℝ) : Prop where
  wide : HasWidth n s.rows
  /-- Pivots are recorded where they are. -/
  within : ∀ p ∈ s.pivots, p.1 < s.done.length ∧ p.2 < unknown
  /-- Each pivot is below those before it, and to the right of them. -/
  increasing : s.pivots.Pairwise fun p q => p.1 < q.1 ∧ p.2 < q.2
  /-- The coefficient of a pivot is not small. -/
  large : ∀ p ∈ s.pivots, ∀ e, s.done[p.1]? = some e → t ≤ |e.coefficient p.2|
  /-- No pivot has the unknown of one above it. -/
  cleared : ∀ p ∈ s.pivots, ∀ i e, p.1 < i → s.done[i]? = some e → e.coefficient p.2 = 0
  /-- No equation below the pivots has the unknown of one of them. -/
  below : ∀ p ∈ s.pivots, ∀ e ∈ s.rest, e.coefficient p.2 = 0

lemma getElem?_concat_cases {β : Type} {xs : List β} {x y : β} {i : ℕ}
    (there : (xs ++ [x])[i]? = some y) : xs[i]? = some y ∨ (i = xs.length ∧ y = x) := by
  obtain inside | rfl | outside := lt_trichotomy i xs.length
  · rw [List.getElem?_append_left inside] at there
    exact .inl there
  · rw [List.getElem?_concat_length] at there
    exact .inr ⟨rfl, (Option.some.inj there).symm⟩
  · rw [List.getElem?_eq_none (by simpa using outside)] at there
    cases there

section

variable {t : ℝ} {n unknown : ℕ} {s : Tableau ℝ} {system : List (Equation ℝ)}

lemma isReduced_start (t : ℝ) (wide : HasWidth n system) : IsReduced t n 0 ⟨[], system, []⟩ where
  wide := wide
  within := List.forall_mem_nil _
  increasing := .nil
  large := List.forall_mem_nil _
  cleared := List.forall_mem_nil _
  below := List.forall_mem_nil _

lemma IsReduced.succ (reduced : IsReduced t n unknown s) : IsReduced t n (unknown + 1) s :=
  { reduced with
    within := fun p there =>
      ⟨(reduced.within p there).1, Nat.lt_succ_of_lt (reduced.within p there).2⟩ }

lemma IsReduced.step (reduced : IsReduced t n unknown s) (positive : 0 < t) (within : unknown < n) :
    IsReduced t n (unknown + 1) (s.step t unknown) := by
  obtain ⟨-, same⟩ | ⟨first, rest, found, ⟨-, same⟩ | ⟨large, changed⟩⟩ := step_cases t s unknown
  · rw [same]
    exact reduced.succ
  · rw [same]
    exact reduced.succ
  · have perm := takePivotAt_perm unknown first rest
    rw [← found] at perm
    generalize takePivotAt unknown first rest = chosen at large changed perm
    obtain ⟨pivot, others⟩ := chosen
    have nonzero : pivot.coefficient unknown ≠ 0 := abs_pos.mp (positive.trans_le large)
    have wide (e : Equation ℝ) (there : e ∈ pivot :: others) : e.coefficients.length = n :=
      reduced.wide e (List.mem_append_right _ (perm.subset there))
    have widePivot := wide pivot List.mem_cons_self
    have below (p : ℕ × ℕ) (there : p ∈ s.pivots) (e : Equation ℝ) (one : e ∈ pivot :: others) :
        e.coefficient p.2 = 0 :=
      reduced.below p there e (perm.subset one)
    rw [changed]
    refine ⟨?wide, ?within, ?increasing, ?large, ?cleared, ?below⟩
    case wide =>
      rw [rows, List.append_assoc]
      refine List.forall_mem_append.mpr ⟨fun e there => ?_, ?_⟩
      · exact reduced.wide e (List.mem_append_left _ there)
      · refine List.forall_mem_cons.mpr ⟨widePivot, List.forall_mem_map.mpr fun e there => ?_⟩
        exact length_clear widePivot (wide e (List.mem_cons_of_mem _ there)) within
    case within =>
      rw [List.length_append]
      refine List.forall_mem_append.mpr ⟨fun p there => ?_, List.forall_mem_singleton.mpr ?_⟩
      · obtain ⟨row, column⟩ := reduced.within p there
        exact ⟨Nat.lt_succ_of_lt row, Nat.lt_succ_of_lt column⟩
      · exact ⟨Nat.lt_succ_self _, Nat.lt_succ_self _⟩
    case increasing =>
      refine List.pairwise_append.mpr ⟨reduced.increasing, List.pairwise_singleton _ _, ?_⟩
      exact fun p there q new => List.mem_singleton.mp new ▸ reduced.within p there
    case large =>
      refine List.forall_mem_append.mpr ⟨fun p there e at_row => ?_,
        List.forall_mem_singleton.mpr fun e at_row => ?_⟩
      · obtain old | ⟨row, -⟩ := getElem?_concat_cases at_row
        · exact reduced.large p there e old
        · exact absurd row (reduced.within p there).1.ne
      · rw [List.getElem?_concat_length] at at_row
        exact Option.some.inj at_row ▸ large
    case cleared =>
      refine List.forall_mem_append.mpr ⟨fun p there i e after at_row => ?_,
        List.forall_mem_singleton.mpr fun i e after at_row => ?_⟩
      · obtain old | ⟨-, rfl⟩ := getElem?_concat_cases at_row
        · exact reduced.cleared p there i e after old
        · exact below p there e List.mem_cons_self
      · rw [List.getElem?_eq_none (by simpa using after)] at at_row
        cases at_row
    case below =>
      refine List.forall_mem_append.mpr ⟨fun p there => List.forall_mem_map.mpr fun e one => ?_,
        List.forall_mem_singleton.mpr (List.forall_mem_map.mpr fun e one => ?_)⟩
      -- what was cleared before stays so, since clearing does not reach to the left
      · have before := (reduced.within p there).2
        have wideHere := wide e (List.mem_cons_of_mem _ one)
        rw [coefficient_clear_of_lt before (by omega)]
        exact below p there e (List.mem_cons_of_mem _ one)
      · exact coefficient_clear_self widePivot (wide e (List.mem_cons_of_mem _ one)) within nonzero

lemma isReduced_reduced (positive : 0 < t) (wide : HasWidth n system) {count : ℕ}
    (within : count ≤ n) : IsReduced t n count (reduced t system count) := by
  induction count with
  | zero => exact isReduced_start t wide
  | succ count ih =>
    rw [reduced_succ]
    exact (ih (by omega)).step positive within

end

/-! ### What is found -/

section

variable {rows : List (Equation ℝ)} {pivots : List (ℕ × ℕ)} {xs : List ℝ}

lemma length_foldr_determine (rows : List (Equation ℝ)) (pivots : List (ℕ × ℕ)) (xs : List ℝ) :
    (pivots.foldr (determine rows) xs).length = xs.length := by
  induction pivots with
  | nil => rfl
  | cons p pivots ih => rw [List.foldr_cons, determine, List.length_set, ih]

/-- Only unknowns that have a pivot change. -/
lemma getD_foldr_determine {unknown : ℕ} (free : unknown ∉ pivots.map Prod.snd) :
    (pivots.foldr (determine rows) xs).getD unknown 0 = xs.getD unknown 0 := by
  induction pivots with
  | nil => rfl
  | cons p pivots ih =>
    rw [List.map_cons, List.mem_cons, not_or] at free
    rw [List.foldr_cons, determine, List.getD_eq_getElem?_getD,
      List.getElem?_set_ne (Ne.symm free.1), ← List.getD_eq_getElem?_getD, ih free.2]

/-- An unknown that a pivot has determined is still right when those before it are determined. -/
lemma solveAt_foldr_determine (rows : List (Equation ℝ))
    (right : pivots.Pairwise fun p q => p.2 < q.2) (within : ∀ p ∈ pivots, p.2 < xs.length) :
    ∀ p ∈ pivots,
    (pivots.foldr (determine rows) xs).getD p.2 0 =
      (rows.getD p.1 ⟨[], 0⟩).solveAt p.2 (pivots.foldr (determine rows) xs) := by
  induction pivots with
  | nil => exact List.forall_mem_nil _
  | cons p pivots ih =>
    obtain ⟨before, right⟩ := List.pairwise_cons.mp right
    obtain ⟨within, withins⟩ := List.forall_mem_cons.mp within
    have length := length_foldr_determine rows pivots xs
    rw [List.foldr_cons]
    generalize pivots.foldr (determine rows) xs = ys at ih length
    refine List.forall_mem_cons.mpr ⟨?_, fun q there => ?_⟩
    · rw [determine, List.getD_eq_getElem?_getD, List.getElem?_set_self (length ▸ within),
        Option.getD_some, Equation.solveAt, Equation.solveAt, List.drop_set_of_lt (by omega)]
    · have later := before q there
      rw [determine, List.getD_eq_getElem?_getD, List.getElem?_set_ne later.ne,
        ← List.getD_eq_getElem?_getD, ih right withins q there, Equation.solveAt, Equation.solveAt,
        List.drop_set_of_lt (by omega)]

end

section

variable {t : ℝ} {n unknown : ℕ} {s : Tableau ℝ} {system : List (Equation ℝ)}

/-- An unknown without a pivot is zero. -/
lemma getD_solution_of_notMem (s : Tableau ℝ) (n : ℕ) (free : unknown ∉ s.pivots.map Prod.snd) :
    (s.solution n).getD unknown 0 = 0 := by
  rw [solution, getD_foldr_determine free]
  exact getD_of_forall_eq_zero (forall_mem_replicate_eq_zero n) unknown

lemma IsReduced.getElem?_rows (reduced : IsReduced t n unknown s) {p : ℕ × ℕ}
    (there : p ∈ s.pivots) : s.rows[p.1]? = s.done[p.1]? :=
  List.getElem?_append_left (reduced.within p there).1

/-- A pivot to the left of another is above it. -/
lemma IsReduced.above_of_before (reduced : IsReduced t n unknown s) {p q : ℕ × ℕ}
    (there : p ∈ s.pivots) (there' : q ∈ s.pivots) (before : p.2 < q.2) : p.1 < q.1 := by
  obtain ⟨i, inside, rfl⟩ := List.getElem_of_mem there
  obtain ⟨j, inside', rfl⟩ := List.getElem_of_mem there'
  have ordered := List.pairwise_iff_getElem.mp reduced.increasing
  obtain less | rfl | more := lt_trichotomy i j
  · exact (ordered i j inside inside' less).1
  · exact absurd before (lt_irrefl _)
  · exact absurd before (ordered j i inside' inside more).2.not_gt

/-- Each pivot holds as it stands, with what is left of the columns that were skipped. -/
lemma IsReduced.eval_solution (reduced : IsReduced t n n s) (positive : 0 < t) {p : ℕ × ℕ}
    (there : p ∈ s.pivots) {e : Equation ℝ} (found : s.rows[p.1]? = some e) :
    e.eval (s.solution n) = e.value := by
  have done : s.done[p.1]? = some e := (reduced.getElem?_rows there).symm.trans found
  have nonzero : e.coefficient p.2 ≠ 0 :=
    abs_pos.mp (positive.trans_le (reduced.large p there e done))
  -- to the left of the pivot there is no coefficient, or no unknown
  have left : ∀ i < p.2, e.coefficients.getD i 0 = 0 ∨ (s.solution n).getD i 0 = 0 := by
    intro i before
    by_cases pivotal : i ∈ s.pivots.map Prod.snd
    · obtain ⟨q, one, rfl⟩ := List.mem_map.mp pivotal
      exact .inl (reduced.cleared q one p.1 e (reduced.above_of_before one there before) done)
    · exact .inr (getD_solution_of_notMem s n pivotal)
  have within : ∀ q ∈ s.pivots, q.2 < (List.replicate n (0 : ℝ)).length := by
    intro q one
    rw [List.length_replicate]
    exact (reduced.within q one).2
  have determined := solveAt_foldr_determine s.rows (reduced.increasing.imp And.right) within p
    there
  have row : s.rows.getD p.1 ⟨[], 0⟩ = e := by
    rw [List.getD_eq_getElem?_getD, found, Option.getD_some]
  rw [row] at determined
  change (s.solution n).getD p.2 0 = e.solveAt p.2 (s.solution n) at determined
  rw [Equation.solveAt, eq_div_iff nonzero, eq_sub_iff_add_eq, mul_comm] at determined
  have split := (e.drop p.2).eval_eq_leading_mul_add ((s.solution n).drop p.2)
  rw [leading_drop, dropFirst_drop, List.tail_drop, List.headD_eq_head?_getD, List.head?_drop,
    ← List.getD_eq_getElem?_getD, determined] at split
  rw [Equation.eval, dot_eq_dot_drop left]
  exact split

end

/-! ### That elimination finds the same -/

section

variable {t : ℝ} {n unknown left : ℕ} {s : Tableau ℝ} {system : List (Equation ℝ)}

lemma determine_append {done : List (Equation ℝ)} (more : List (Equation ℝ)) {p : ℕ × ℕ}
    (within : p.1 < done.length) (xs : List ℝ) :
    determine (done ++ more) p xs = determine done p xs := by
  rw [determine, determine, List.getD_append _ _ _ _ within]

/-- A pivot gives its unknown as elimination finds it. -/
lemma determine_concat (done : List (Equation ℝ)) (pivot : Equation ℝ) (unknown : ℕ)
    (xs : List ℝ) : determine (done ++ [pivot]) (done.length, unknown)
      (List.replicate (unknown + 1) 0 ++ xs) =
        List.replicate unknown 0 ++ (pivot.drop unknown).solveFirst xs :: xs := by
  have length : (List.replicate (unknown + 1) (0 : ℝ)).length = unknown + 1 :=
    List.length_replicate
  have row : (done ++ [pivot]).getD done.length ⟨[], 0⟩ = pivot := by
    rw [List.getD_append_right _ _ _ _ le_rfl, Nat.sub_self]
    rfl
  have later : (List.replicate (unknown + 1) (0 : ℝ) ++ xs).drop (unknown + 1) = xs :=
    List.drop_left' length
  have first : pivot.solveAt unknown (List.replicate (unknown + 1) 0 ++ xs) =
      (pivot.drop unknown).solveFirst xs := by
    rw [Equation.solveAt, later, Equation.solveFirst, leading_drop, dropFirst_drop]
    rfl
  rw [determine, row, first, List.replicate_succ', List.append_assoc,
    List.set_append_right _ _ (by rw [List.length_replicate]), List.length_replicate, Nat.sub_self]
  rfl

/-- What the pivots so far make of what elimination finds for the unknowns from one on. -/
noncomputable def finish (t : ℝ) (left unknown : ℕ) (s : Tableau ℝ) : List ℝ :=
  s.pivots.foldr (determine s.done)
    (List.replicate unknown 0 ++ eliminate t left (s.rest.map (Equation.drop unknown)))

lemma replicate_append_zero_cons (unknown : ℕ) (xs : List ℝ) :
    List.replicate unknown (0 : ℝ) ++ 0 :: xs = List.replicate (unknown + 1) 0 ++ xs := by
  rw [List.replicate_succ', List.append_assoc, List.singleton_append]

/-- A step does not change what is found in the end. -/
lemma finish_step (reduced : IsReduced t (unknown + (left + 1)) unknown s) :
    finish t left (unknown + 1) (s.step t unknown) = finish t (left + 1) unknown s := by
  obtain ⟨nothing, same⟩ | ⟨first, rest, found, small⟩ := step_cases t s unknown
  · rw [same, finish, finish, nothing, List.map_nil, List.map_nil, eliminate_nil, eliminate_nil,
      List.replicate_succ (n := left), replicate_append_zero_cons]
  · have chosen := takePivot_drop unknown first rest
    have perm := takePivotAt_perm unknown first rest
    have below : s.rest.map (Equation.drop unknown) =
        first.drop unknown :: rest.map (Equation.drop unknown) := by
      rw [found, List.map_cons]
    obtain ⟨small, same⟩ | ⟨large, changed⟩ := small
    · rw [← leading_drop] at small
      have dropped : (first.drop unknown :: rest.map (Equation.drop unknown)).map
          Equation.dropFirst = s.rest.map (Equation.drop (unknown + 1)) := by
        rw [← below, List.map_map]
        exact List.map_congr_left fun e _ => dropFirst_drop unknown e
      rw [same, finish, finish, below, eliminate_of_free (by rwa [chosen]), dropped,
        replicate_append_zero_cons]
    · rw [← leading_drop] at large
      generalize takePivotAt unknown first rest = pair at large changed perm chosen
      obtain ⟨pivot, others⟩ := pair
      have cleared : (others.map (pivot.clear unknown)).map (Equation.drop (unknown + 1)) =
          (others.map (Equation.drop unknown)).map (pivot.drop unknown).reduce := by
        rw [List.map_map, List.map_map]
        refine List.map_congr_left fun e there => drop_clear ?_
        have inside := perm.subset (List.mem_cons_of_mem _ there)
        rw [reduced.wide e (List.mem_append_right _ (found ▸ inside))]
        exact Nat.le_add_right _ _
      rw [changed, finish, finish, below, eliminate_of_pivot (by rwa [chosen, not_lt]), chosen]
      dsimp only
      rw [cleared, List.foldr_append, List.foldr_cons, List.foldr_nil, determine_concat]
      exact List.foldr_ext _ _ _ fun p there xs =>
        determine_append _ (reduced.within p there).1 xs

lemma finish_reduced (positive : 0 < t) (wide : HasWidth n system) {count : ℕ}
    (all : count + left = n) : finish t left count (reduced t system count) =
      eliminate t n system := by
  induction count generalizing left with
  | zero =>
    have same : system.map (Equation.drop 0) = system := List.map_id' system
    obtain rfl : left = n := by omega
    rw [reduced, List.range_zero, List.foldl_nil, finish, List.foldr_nil, same]
    rfl
  | succ count ih =>
    obtain rfl : n = count + (left + 1) := by omega
    rw [reduced_succ, finish_step (isReduced_reduced positive wide (by omega)),
      ih rfl]

/-- Elimination in place finds what elimination finds. -/
theorem solution_reduced (positive : 0 < t) (wide : HasWidth n system) :
    (reduced t system n).solution n = eliminate t n system := by
  have reduced := isReduced_reduced positive wide le_rfl
  rw [← finish_reduced positive wide (Nat.add_zero n), finish, eliminate_zero, List.append_nil]
  exact List.foldr_ext _ _ _ fun p there xs =>
    determine_append _ (reduced.within p there).1 xs

end

end Tableau

end Drafting.Linear
