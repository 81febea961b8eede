import Drafting.Proofs.Gradient.Conflicts
import Drafting.Proofs.Gradient.Frame
import Drafting.Proofs.Residual

/-!
# Infeasible constraints

Whether a constraint can be measured is up to the frames of the entities that it names, whatever
formula it has (`Measure.isSome_formula`), and a run keeps these: it neither mends an infeasible
constraint nor spoils one that is not (`isInfeasible_residual_entitiesAfter`). In exact arithmetic
no number is as great as an infeasible residual, so the infeasible constraints head a ranking, in
the order of the plan (`IsRanking.filter_isInfeasible_prefix`).
-/

namespace Drafting

/-- A list begins with those of its members that have a property, if none that has it comes after
one that has not. -/
lemma List.filter_prefix_of_pairwise {β : Type} {p : β → Bool} {xs : List β}
    (early : xs.Pairwise fun x y => p y = true → p x = true) : xs.filter p <+: xs := by
  induction early with
  | nil => exact List.nil_prefix
  | @cons x rest first _ ih =>
    cases kept : p x with
    | true =>
      rw [List.filter_cons_of_pos kept]
      exact (List.prefix_cons_inj x).mpr ih
    | false =>
      have none : (x :: rest).filter p = [] := by
        rw [List.filter_eq_nil_iff, List.forall_mem_cons, kept]
        exact ⟨Bool.false_ne_true, fun y there found => by simp [first y there found] at kept⟩
      rw [none]
      exact List.nil_prefix

/-- Whether a computation of two steps gives a result is up to whether each of them does. -/
lemma Option.isSome_bind_congr {β β' γ γ' : Type} {x' : Option β'} {x : Option β}
    {f' : β' → Option γ'} {f : β → Option γ} (first : x'.isSome = x.isSome)
    (second : ∀ b' b, (f' b').isSome = (f b).isSome) : (x'.bind f').isSome = (x.bind f).isSome := by
  cases x' with
  | none =>
    cases x with
    | none => rfl
    | some b => cases first
  | some b' =>
    cases x with
    | none => cases first
    | some b => exact second b' b

/-! ### Measurements -/

namespace Measure

variable {ν τ : Type} [Name ν] [LawfulName ν] [Scalar τ]

/-- Whether a formula gives a number is up to the frames of the entities. -/
lemma isSome_formula (relation : Relation) (target : τ) {xs' xs : List (Entity ν τ)}
    (framed : List.Forall₂ Entity.IsFramedBy xs' xs) :
    (formula relation target xs').isSome = (formula relation target xs).isSome := by
  cases framed with
  | nil => cases relation <;> rfl
  | @cons a' a _ _ first others =>
    cases others with
    | nil =>
      cases relation with
      | horizontal => simp only [formula, horizontal, first.direction]
      | vertical => simp only [formula, vertical, first.direction]
      | radius => simp only [formula, radius, first.kind, first.properRadius?_eq]
      | coincident | parallel | perpendicular | tangent | distance | angle | equal => rfl
      | concentric | symmetric | fixed | unknown => rfl
    | @cons b' b rest' rest second others =>
      have positions {γ : Type} {f' f : Vector3 τ → Vector3 τ → Option γ}
          (inner : ∀ p' q' p q, (f' p' q').isSome = (f p q).isSome) :
          (a'.position.bind fun p => b'.position.bind fun q => f' p q).isSome =
            (a.position.bind fun p => b.position.bind fun q => f p q).isSome :=
        Option.isSome_bind_congr first.position fun _ _ =>
          Option.isSome_bind_congr second.position fun _ _ => inner ..
      cases relation with
      | coincident => exact positions fun _ _ _ _ => rfl
      | tangent =>
        simp only [formula, tangent, first.kind, second.kind, first.properRadius?_eq,
          second.direction]
        split
        · exact Option.isSome_bind_congr rfl fun _ _ => positions fun _ _ _ _ =>
            Option.isSome_bind_congr rfl fun _ _ => rfl
        · rfl
      | distance =>
        simp only [formula, distance, first.kind, second.kind, second.direction]
        split
        · exact positions fun _ _ _ _ => rfl
        · split
          · exact positions fun _ _ _ _ => Option.isSome_bind_congr rfl fun _ _ => rfl
          · rfl
      | equal =>
        simp only [formula, equal, first.kind, second.kind, first.properRadius?_eq,
          second.properRadius?_eq]
        split
        · exact Option.isSome_bind_congr (first.isSome_get? _) fun _ _ =>
            Option.isSome_bind_congr (second.isSome_get? _) fun _ _ => rfl
        · rfl
      | parallel => simp only [formula, parallel, first.direction, second.direction]
      | perpendicular => simp only [formula, perpendicular, first.direction, second.direction]
      | angle => simp only [formula, angle, first.direction, second.direction]
      | horizontal => simp only [formula, horizontal, first.direction]
      | vertical => simp only [formula, vertical, first.direction]
      | radius => simp only [formula, radius, first.kind, first.properRadius?_eq]
      | concentric | symmetric | fixed | unknown => rfl

end Measure

/-! ### Runs -/

namespace Gradient

open Residual

section

variable {τ α : Type} [Scalar τ] [Scalar.IsPlain τ] [Scalar α] [Component τ α]

/-- No run changes which constraints are infeasible. -/
lemma isInfeasible_residual_entitiesAfter (damping : τ) (plan : List (Constraint String α))
    (entities : Table String (Entity String τ)) (count : ℕ) (c : Constraint String α) :
    (c.residual (snapshot (entitiesAfter damping plan entities count))).isInfeasible =
      (c.residual (snapshot entities)).isInfeasible := by
  have framed : List.Forall₂ Entity.IsFramedBy
      (c.resolve (snapshot (entitiesAfter damping plan entities count)))
      (c.resolve (snapshot entities)) := by
    refine List.rel_filterMap (R := Eq) ?_ (List.forall₂_eq_eq_eq ▸ rfl)
    rintro name _ rfl
    exact rel_get?_entitiesAfter damping plan entities count name
  rw [Constraint.residual, Constraint.residual, isInfeasible_ofOption, isInfeasible_ofOption,
    Option.isSome_map, Option.isSome_map, Measure.isSome_formula _ _ framed]

end

/-! ### Rankings -/

namespace IsRanking

variable {β : Type} {residual : β → Residual ℝ} {things : List β} {ranking : List (β × ℕ)}

/-- What is infeasible comes first in a ranking, in the order in which it was before. -/
lemma filter_isInfeasible_prefix (ranked : IsRanking residual things ranking) :
    (things.filter fun x => (residual x).isInfeasible) <+: ranking.map Prod.fst := by
  -- nothing is greater than what is infeasible, and nothing else is as great
  have top {a b : β × ℕ} (precedes : Precedes residual a b)
      (last : (residual b.1).isInfeasible = true) :
      (residual a.1).isInfeasible = true ∧ a.2 < b.2 := by
    rw [isInfeasible_iff] at last
    rw [Precedes, last] at precedes
    cases first : residual a.1 with
    | infeasible => simpa [first, isLess, isInfeasible] using precedes
    | measured x => simp [first, isLess, Scalar.isFinite] at precedes
  have early : ranking.Pairwise fun a b =>
      (residual b.1).isInfeasible = true → (residual a.1).isInfeasible = true :=
    ranked.descending.imp fun precedes last => (top precedes last).1
  -- among themselves, infeasible residuals are tied, so that their places decide
  have inOrder : ranking.filter (fun a => (residual a.1).isInfeasible) =
      things.zipIdx.filter fun a => (residual a.1).isInfeasible := by
    have antisymm (a b : β × ℕ) (before : a.2 < b.2) (after : b.2 < a.2) : a = b :=
      absurd before after.asymm
    refine List.Perm.eq_of_pairwise (fun a b _ _ => antisymm a b) ?_ ?_ (ranked.complete.filter _)
    · rw [List.pairwise_filter]
      refine ranked.descending.imp ?_
      exact fun precedes _ last => (top precedes last).2
    · refine List.Pairwise.filter _ ?_
      rw [← List.pairwise_map (f := Prod.snd), List.zipIdx_map_snd]
      exact List.pairwise_lt_range'
  have listed := List.filter_prefix_of_pairwise early
  rw [inOrder] at listed
  have named := listed.map Prod.fst
  rwa [← Function.comp_def (fun x => (residual x).isInfeasible) Prod.fst, ← List.filter_map,
    List.zipIdx_map_fst] at named

end IsRanking

lemma length_worst_le {ν τ α : Type} [Name ν] [Scalar τ] [Scalar α] [Component τ α] (tolerance : τ)
    (plan : List (Constraint ν α)) (entities : Table ν (Entity ν τ)) :
    (worst tolerance plan entities).length ≤ maxConflicts := by
  rw [worst, List.length_map]
  exact List.length_take_le _ _

/-- The worst constraints begin with the infeasible ones, in the order of the plan. -/
lemma map_id_filter_isInfeasible_prefix_worst {ν : Type} [Name ν] (tolerance : ℝ)
    (plan : List (Constraint ν ℝ)) (entities : Table ν (Entity ν ℝ)) :
    ((plan.filter fun c => (c.residual (snapshot entities)).isInfeasible).map
      Constraint.id).take maxConflicts <+: worst tolerance plan entities := by
  obtain ⟨ranking, ranked, named⟩ := exists_isRanking_worst tolerance plan entities
  have exceeding : (exceeding (tolerance * conflictFactor) plan (snapshot entities)).filter
        (fun c => (c.residual (snapshot entities)).isInfeasible) =
      plan.filter fun c => (c.residual (snapshot entities)).isInfeasible := by
    rw [exceeding, List.filter_filter]
    refine List.filter_congr fun c _ => ?_
    cases c.residual (snapshot entities) <;> rfl
  have first := ranked.filter_isInfeasible_prefix
  rw [exceeding] at first
  have listed := (first.take maxConflicts).map Constraint.id
  rw [← List.map_take, List.map_map, List.map_take] at listed
  rw [named]
  exact listed

end Gradient

end Drafting
