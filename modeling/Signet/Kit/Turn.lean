import Mathlib.Data.List.Basic

/-!
# One thing after another

What a function with effects leaves behind is a state and a list of observations; the next
function goes on from the state, and the lists are put together.
-/

namespace Signet
namespace Kit

variable {σ ω : Type*}

/-- One thing after another. -/
def andThen (turn : σ × List ω) (next : σ → σ × List ω) : σ × List ω :=
  ((next turn.1).1, turn.2 ++ (next turn.1).2)

variable (turn : σ × List ω) (next : σ → σ × List ω)

@[simp]
theorem andThen_fst : (andThen turn next).1 = (next turn.1).1 := rfl

@[simp]
theorem andThen_snd : (andThen turn next).2 = turn.2 ++ (next turn.1).2 := rfl

end Kit
end Signet
