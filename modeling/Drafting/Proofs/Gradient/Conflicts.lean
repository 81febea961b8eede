import Drafting.Proofs.Gradient.Survey
import Drafting.Proofs.Ordering

/-!
# Rankings of conflicts

The constraints that are in conflict are ranked: those with greater residuals come first, and of
those with equal ones, those that come first in the plan. Only residuals that exceed the bound are
compared, which are not undefined, so that the order of the sort is transitive where it is used
(`exists_isRanking`). The worst constraints are the head of the ranking (`exists_isRanking_worst`).
-/

namespace Drafting.Gradient

section

variable {β α : Type} [Scalar α]

/-- Of two numbered things, the first in a ranking: its residual is greater, or it is not less and
its number is. -/
def Precedes (residual : β → Residual α) (a b : β × ℕ) : Prop :=
  (residual b.1).isLess (residual a.1) = true ∨
    (residual a.1).isLess (residual b.1) = false ∧ a.2 < b.2

/-- A ranking by residuals of the things of a list, each with its place in the list. -/
structure IsRanking (residual : β → Residual α) (things : List β) (ranking : List (β × ℕ)) :
    Prop where
  complete : ranking.Perm things.zipIdx
  descending : ranking.Pairwise (Precedes residual)

variable [Scalar.IsOrdered α] {residual : β → Residual α} {things : List β}

lemma Precedes.isLess_eq_false {a b : β × ℕ} (precedes : Precedes residual a b) :
    (residual a.1).isLess (residual b.1) = false := by
  cases precedes with
  | inl less => exact Residual.isLess_asymm less
  | inr tied => exact tied.1

/-- Sorting things by residuals that can be compared ranks them. -/
lemma exists_isRanking (defined : ∀ x ∈ things, (residual x).IsDefined) : ∃ ranking,
    IsRanking residual things ranking ∧
      ranking.map Prod.fst = things.mergeSort fun x y => !(residual x).isLess (residual y) := by
  -- the order is transitive among the members of the list, so they are sorted as such
  let le (x y : { x // x ∈ things }) : Bool := !(residual x).isLess (residual y)
  have trans (x y z) : le x y → le y z → le x z := Residual.not_isLess_trans (defined y y.2)
  have total (x y) : le x y || le y x := Residual.not_isLess_total _ _
  let sorted := things.attach.zipIdx.mergeSort (List.zipIdxLE le)
  have perm : sorted.Perm things.attach.zipIdx := List.mergeSort_perm _ _
  have ordered : sorted.Pairwise fun a b => List.zipIdxLE le a b :=
    List.pairwise_mergeSort (List.zipIdxLE_trans trans) (List.zipIdxLE_total total) _
  have distinct : sorted.Pairwise fun a b => a.2 ≠ b.2 := by
    rw [← List.pairwise_map (f := Prod.snd), ← List.Nodup, (perm.map Prod.snd).nodup_iff]
    exact List.nodup_zipIdx_map_snd _
  refine ⟨sorted.map (Prod.map Subtype.val id), ⟨?complete, ?descending⟩, ?sorted⟩
  case complete =>
    have places := perm.map (Prod.map Subtype.val id)
    rwa [List.map_zipIdx, List.attach_map_subtype_val] at places
  case descending =>
    rw [List.pairwise_map]
    refine (ordered.and distinct).imp fun {a b} ⟨before, different⟩ => ?_
    cases less : (residual b.1).isLess (residual a.1) with
    | true => exact .inl less
    | false =>
      simp only [List.zipIdxLE, le, less, Bool.not_false, if_true, Bool.if_false_right,
        Bool.and_eq_true, Bool.not_eq_true', decide_eq_true_eq] at before
      exact .inr ⟨before.1, lt_of_le_of_ne before.2 different⟩
  case sorted =>
    calc (sorted.map (Prod.map Subtype.val id)).map Prod.fst
        = (sorted.map Prod.fst).map Subtype.val := by rw [List.map_map, List.map_map]; rfl
      _ = (things.attach.mergeSort le).map Subtype.val := by rw [List.mergeSort_zipIdx]
      _ = (things.attach.map Subtype.val).mergeSort fun x y =>
          !(residual x).isLess (residual y) := List.map_mergeSort fun _ _ _ _ => rfl
      _ = things.mergeSort fun x y => !(residual x).isLess (residual y) := by
        rw [List.attach_map_subtype_val]

namespace IsRanking

variable {ranking : List (β × ℕ)} {entry : β × ℕ}

omit [Scalar.IsOrdered α] in
lemma mem_of_mem (ranked : IsRanking residual things ranking) (there : entry ∈ ranking) :
    entry.1 ∈ things :=
  List.fst_mem_of_mem_zipIdx (ranked.complete.subset there)

/-- What is left out of the head of a ranking is left out for as many that are not less. -/
lemma of_not_mem_take (ranked : IsRanking residual things ranking) {count : ℕ}
    (there : entry ∈ ranking) (leftOut : entry ∉ ranking.take count) :
    (ranking.take count).length = count ∧
      ∀ listed ∈ ranking.take count, (residual listed.1).isLess (residual entry.1) = false := by
  have descending := ranked.descending
  rw [← List.take_append_drop count ranking] at there descending
  have late := (List.mem_append.mp there).resolve_left leftOut
  constructor
  · have long := List.length_pos_of_mem late
    rw [List.length_drop] at long
    rw [List.length_take]
    omega
  · intro listed early
    exact ((List.pairwise_append.mp descending).2.2 listed early entry late).isLess_eq_false

end IsRanking

end

/-! ### The worst constraints -/

section

variable {ν τ α : Type} [Name ν] [Scalar τ] [Scalar α] [Component τ α]

/-- The constraints of a plan whose residuals exceed a bound, in the order of the plan. -/
def exceeding (bound : τ) (plan : List (Constraint ν α)) (entities : Snapshot ν τ) :
    List (Constraint ν α) :=
  plan.filter fun c => (c.residual entities).exceeds bound

/-- What exceeds ten times a tolerance that is not below zero has a formula. -/
lemma isMeasured_of_exceeds [Scalar.IsPlain τ] [Scalar.IsOrdered τ] {c : Constraint ν α}
    {entities : Snapshot ν τ} {tolerance : τ} (nonneg : 0 ≤ tolerance)
    (exceeds : (c.residual entities).exceeds (tolerance * conflictFactor) = true) :
    c.relation.isMeasured = true := by
  rw [← Bool.not_eq_false]
  intro unmeasured
  rw [residual_of_unmeasured unmeasured] at exceeds
  exact Scalar.IsOrdered.tenfold nonneg (of_decide_eq_true exceeds)

/-- The worst constraints are the head of those that exceed the bound, sorted. -/
lemma worst_eq (tolerance : τ) (plan : List (Constraint ν α)) (entities : Table ν (Entity ν τ)) :
    worst tolerance plan entities =
      (((exceeding (tolerance * conflictFactor) plan (snapshot entities)).mergeSort fun c d =>
        !(c.residual (snapshot entities)).isLess (d.residual (snapshot entities))).take
          maxConflicts).map Constraint.id := by
  have offending : offenders tolerance plan entities =
      (exceeding (tolerance * conflictFactor) plan (snapshot entities)).map fun c =>
        (c.id, c.residual (snapshot entities)) := by
    rw [offenders, List.filter_map]
    rfl
  have sorted : ((exceeding (tolerance * conflictFactor) plan (snapshot entities)).mergeSort
        fun c d => !(c.residual (snapshot entities)).isLess (d.residual (snapshot entities))).map
          (fun c => (c.id, c.residual (snapshot entities))) =
      (offenders tolerance plan entities).mergeSort fun a b => !a.2.isLess b.2 := by
    rw [offending]
    exact List.map_mergeSort fun _ _ _ _ => rfl
  rw [worst, ← sorted, ← List.map_take, List.map_map]
  rfl

/-- The worst constraints are the head of a ranking of those that exceed the bound. -/
lemma exists_isRanking_worst [Scalar.IsOrdered τ] (tolerance : τ) (plan : List (Constraint ν α))
    (entities : Table ν (Entity ν τ)) : ∃ ranking,
      IsRanking (fun c => c.residual (snapshot entities))
        (exceeding (tolerance * conflictFactor) plan (snapshot entities)) ranking ∧
      worst tolerance plan entities =
        (ranking.take maxConflicts).map fun entry => entry.1.id := by
  have defined : ∀ c ∈ exceeding (tolerance * conflictFactor) plan (snapshot entities),
      (c.residual (snapshot entities)).IsDefined :=
    fun c there => Residual.isDefined_of_exceeds (List.mem_filter.mp there).2
  obtain ⟨ranking, ranked, sorted⟩ := exists_isRanking defined
  refine ⟨ranking, ranked, ?_⟩
  rw [worst_eq, ← sorted, ← List.map_take, List.map_map]
  rfl

end

end Drafting.Gradient
