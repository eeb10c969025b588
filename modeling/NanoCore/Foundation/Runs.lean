import Mathlib.Data.List.TakeWhile
import Mathlib.Data.Nat.Find

namespace NanoCore.Foundation.Runs

universe u v w

variable {σ : Type u} {ε : Type v}

def run (step : σ → ε → σ) (s : σ) (events : List ε) : σ := events.foldl step s

/-- The state before event `k`, counted from zero. -/
def stateAt (step : σ → ε → σ) (s : σ) (events : List ε) (k : Nat) : σ :=
  run step s (events.take k)

variable {step : σ → ε → σ} {s : σ} {events : List ε}

@[simp] theorem stateAt_zero : stateAt step s events 0 = s := rfl

theorem stateAt_succ {k : Nat} {event : ε} (hevent : events[k]? = some event) :
    stateAt step s events (k + 1) = step (stateAt step s events k) event := by
  rw [stateAt, run, List.take_add_one, hevent, Option.toList_some, List.foldl_append]
  rfl

theorem stateAt_succ_of_none {k : Nat} (hevent : events[k]? = none) :
    stateAt step s events (k + 1) = stateAt step s events k := by
  rw [stateAt, List.take_add_one, hevent, Option.toList_none, List.append_nil]
  rfl

/-- An invariant holds throughout a run when each step keeps it under a
condition that the run meets at every event. -/
theorem invariant_of_guarded {P : σ → Prop} {C : σ → ε → Prop} (hinit : P s)
    (hkeep : ∀ s event, P s → C s event → P (step s event))
    (hguard : ∀ k event, events[k]? = some event → C (stateAt step s events k) event) (k : Nat) :
    P (stateAt step s events k) := by
  induction k with
  | zero => exact hinit
  | succ k ih =>
      cases hevent : events[k]? with
      | none => rwa [stateAt_succ_of_none hevent]
      | some event =>
          rw [stateAt_succ hevent]
          exact hkeep _ event ih (hguard k event hevent)

theorem invariant_of_kept {P : σ → Prop} (hinit : P s)
    (hkeep : ∀ s event, P s → P (step s event)) (k : Nat) : P (stateAt step s events k) :=
  invariant_of_guarded (C := fun _ _ => True) hinit (fun s event h _ => hkeep s event h)
    (fun _ _ _ => trivial) k

/-- An invariant that a step keeps exactly under a condition holds throughout a
run if and only if the run meets the condition at every event. -/
theorem invariant_iff_guarded {P : σ → Prop} {C : σ → ε → Prop} (hinit : P s)
    (hstep : ∀ s event, P s → (P (step s event) ↔ C s event)) :
    (∀ k, P (stateAt step s events k)) ↔
      ∀ k event, events[k]? = some event → C (stateAt step s events k) event := by
  constructor
  · intro h k event hevent
    have hnext : P (stateAt step s events (k + 1)) := h (k + 1)
    rw [stateAt_succ hevent] at hnext
    exact (hstep _ event (h k)).mp hnext
  · exact invariant_of_guarded hinit fun s event hs => (hstep s event hs).mpr

/-- A value that was not there at the start was set by some event and has stayed
since. -/
theorem exists_last_change {β : Type w} {f : σ → β} {v : β} (hinit : f s ≠ v) {k : Nat}
    (hvalue : f (stateAt step s events k) = v) :
    ∃ j event, j < k ∧ events[j]? = some event ∧ f (stateAt step s events j) ≠ v ∧
      ∀ i, j < i → i ≤ k → f (stateAt step s events i) = v := by
  induction k with
  | zero => exact absurd hvalue hinit
  | succ k ih =>
      by_cases hbefore : f (stateAt step s events k) = v
      · obtain ⟨j, event, hj, hevent, hne, hsince⟩ := ih hbefore
        refine ⟨j, event, Nat.lt_succ_of_lt hj, hevent, hne, fun i hji hik => ?_⟩
        rcases Nat.le_succ_iff.mp hik with hik | rfl
        · exact hsince i hji hik
        · exact hvalue
      · cases hevent : events[k]? with
        | none =>
            rw [stateAt_succ_of_none hevent] at hvalue
            exact absurd hvalue hbefore
        | some event =>
            refine ⟨k, event, Nat.lt_succ_self k, hevent, hbefore, fun i hki hik => ?_⟩
            rwa [Nat.le_antisymm hik hki]

end NanoCore.Foundation.Runs
