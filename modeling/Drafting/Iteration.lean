/-!
# Bounded iteration

`trail cap done step s` holds the states that `step` leads to from `s`, one after the other, until a
state is done or `cap` steps have been made. The starting state is not in it, so its length is the
number of steps.
-/

namespace Drafting.Iteration

variable {σ : Type}

/-- The states after each step, up to the first that is done and to `cap` of them. -/
def trail (cap : Nat) (done : σ → Bool) (step : σ → σ) (s : σ) : List σ :=
  match cap with
  | 0 => []
  | n + 1 =>
    if done s then []
    else
      let next := step s
      next :: trail n done step next

/-- The last state of a trail, or the state it starts from. -/
def last (s : σ) (states : List σ) : σ := states.getLastD s

end Drafting.Iteration
