import Drafting.Iteration
import Mathlib.Logic.Function.Iterate
import Mathlib.Tactic.Common

/-!
# Trails as iterates

A trail holds the iterates of its step, from the first on. Its length is the number of steps made:
no state before that number is done (`not_done_of_lt_length`), and the state after it is done unless
all `cap` steps were made (`length_trail_of_not_done`).
-/

namespace Drafting.Iteration

variable {σ : Type} {cap : Nat} {done : σ → Bool} {step : σ → σ} {s : σ}

/-- A trail has at most `cap` states. -/
lemma length_trail_le (cap : Nat) (done : σ → Bool) (step : σ → σ) (s : σ) :
    (trail cap done step s).length ≤ cap := by
  induction cap generalizing s with
  | zero => exact Nat.le_refl 0
  | succ n ih =>
    rw [trail]
    split
    · exact Nat.zero_le _
    · exact Nat.succ_le_succ (ih (step s))

/-- The last state of a trail is the iterate that its length counts. -/
lemma last_trail (cap : Nat) (done : σ → Bool) (step : σ → σ) (s : σ) :
    last s (trail cap done step s) = step^[(trail cap done step s).length] s := by
  induction cap generalizing s with
  | zero => rfl
  | succ n ih =>
    rw [trail]
    split
    · rfl
    · have tail := ih (step s)
      rw [last] at tail ⊢
      rw [List.getLastD_cons, tail, List.length_cons, Function.iterate_succ_apply]

/-- The states of a trail are the iterates, counted from the first. -/
lemma trail_eq_map_range (cap : Nat) (done : σ → Bool) (step : σ → σ) (s : σ) :
    trail cap done step s =
      (List.range (trail cap done step s).length).map fun k => step^[k + 1] s := by
  induction cap generalizing s with
  | zero => rfl
  | succ n ih =>
    rw [trail]
    split
    · rfl
    · have tail := ih (step s)
      simp only [← Function.iterate_succ_apply] at tail
      rw [List.length_cons, List.range_succ_eq_map, List.map_cons, List.map_map]
      exact congrArg (step s :: ·) tail

/-- No state before the end of a trail is done. -/
lemma not_done_of_lt_length {k : Nat} (early : k < (trail cap done step s).length) :
    done (step^[k] s) = false := by
  induction cap generalizing s k with
  | zero => exact absurd early (Nat.not_lt_zero k)
  | succ n ih =>
    rw [trail] at early
    split at early
    · exact absurd early (Nat.not_lt_zero k)
    · next busy =>
      cases k with
      -- the trail goes on from `step s`, where the later iterates are counted anew
      | zero => simpa using busy
      | succ k =>
        rw [Function.iterate_succ_apply]
        exact ih (Nat.lt_of_succ_lt_succ early)

/-- A trail that is shorter than `cap` ends in a state that is done. -/
lemma done_of_length_lt (short : (trail cap done step s).length < cap) :
    done (step^[(trail cap done step s).length] s) = true := by
  induction cap generalizing s with
  | zero => exact absurd short (Nat.not_lt_zero _)
  | succ n ih =>
    rw [trail] at short ⊢
    split
    · assumption
    · next busy =>
      rw [if_neg busy] at short
      rw [List.length_cons, Function.iterate_succ_apply]
      exact ih (Nat.lt_of_succ_lt_succ short)

/-- A run that ends in a state that is not done has made all of its steps. -/
lemma length_trail_of_not_done
    (busy : done (step^[(trail cap done step s).length] s) = false) :
    (trail cap done step s).length = cap := by
  refine Nat.le_antisymm (length_trail_le cap done step s) (Nat.le_of_not_lt fun short => ?_)
  rw [done_of_length_lt short] at busy
  cases busy

lemma trail_of_done (settled : done s = true) : trail cap done step s = [] := by
  cases cap with
  | zero => rfl
  | succ n => rw [trail, if_pos settled]

/-- No step is made from a state that is done, nor if none may be made. -/
lemma trail_of_idle (idle : cap = 0 ∨ done s = true) : trail cap done step s = [] := by
  obtain rfl | settled := idle
  · rfl
  · exact trail_of_done settled

/-- The last of two trails, one after the other, is the last of the second. -/
lemma last_append (s : σ) (states states' : List σ) :
    last s (states ++ states') = last (last s states) states' := by
  induction states generalizing s with
  | nil => rfl
  | cons s' rest ih =>
    have tail := ih s'
    rw [last, last, last] at tail ⊢
    rw [List.cons_append, List.getLastD_cons, List.getLastD_cons, tail]

/-- A trail of up to `m + n` states goes on for `n` of them from where the first `m` lead. -/
lemma trail_add (m n : Nat) (done : σ → Bool) (step : σ → σ) (s : σ) :
    trail (m + n) done step s =
      trail m done step s ++ trail n done step (last s (trail m done step s)) := by
  induction m generalizing s with
  | zero =>
    rw [Nat.zero_add]
    rfl
  | succ m ih =>
    rw [Nat.succ_add, trail, trail]
    split
    -- a state that is done is where both parts of the trail end
    · next settled => exact (trail_of_done settled).symm
    · have tail := ih (step s)
      rw [last] at tail ⊢
      rw [List.getLastD_cons, List.cons_append]
      exact congrArg (step s :: ·) tail

/-- Two iterations keep in step along a map that their steps commute with wherever one is made. -/
lemma trail_map {σ' : Type} {done' : σ' → Bool} {step' : σ' → σ'} {f : σ → σ'}
    (same : ∀ s, done' (f s) = done s)
    (follows : ∀ k < (trail cap done step s).length,
      step' (f (step^[k] s)) = f (step (step^[k] s))) :
    trail cap done' step' (f s) = (trail cap done step s).map f := by
  induction cap generalizing s with
  | zero => rfl
  | succ n ih =>
    rw [trail, same]
    rw [trail] at follows ⊢
    split
    · rfl
    · next busy =>
      rw [if_neg busy] at follows
      have first := follows 0 (Nat.succ_pos _)
      rw [Function.iterate_zero_apply] at first
      simp only [first, List.map_cons]
      rw [ih]
      intro k inside
      have later := follows (k + 1) (Nat.succ_lt_succ inside)
      rw [Function.iterate_succ_apply] at later
      exact later

/-- Two iterations stay related if their steps keep the relation and related states end alike. -/
lemma trail_related {σ' : Type} {done' : σ' → Bool} {step' : σ' → σ'} {R : σ → σ' → Prop}
    (same : ∀ s s', R s s' → done s = done' s')
    (follows : ∀ s s', R s s' → R (step s) (step' s')) {s : σ} {s' : σ'} (related : R s s') :
    List.Forall₂ R (trail cap done step s) (trail cap done' step' s') := by
  induction cap generalizing s s' with
  | zero => exact .nil
  | succ n ih =>
    rw [trail, trail, same s s' related]
    split
    · exact .nil
    · have next := follows s s' related
      exact .cons next (ih next)

lemma last_related {σ' : Type} {R : σ → σ' → Prop} {states : List σ} {states' : List σ'}
    (all : List.Forall₂ R states states') {s : σ} {s' : σ'} (related : R s s') :
    R (last s states) (last s' states') := by
  induction all generalizing s s' with
  | nil => exact related
  | @cons x x' rest rest' first others ih =>
    rw [last, last, List.getLastD_cons, List.getLastD_cons]
    exact ih first

end Drafting.Iteration
