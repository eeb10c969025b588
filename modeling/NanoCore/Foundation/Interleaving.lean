import NanoCore.Foundation.Runs

/-!
Calls that run at the same time and share a state.  A call goes from one atomic
step to the next, and a schedule says which call takes the next step.
-/

namespace NanoCore.Foundation.Interleaving

open NanoCore.Foundation.Runs

universe u v

structure System (σ : Type u) (τ : Type v) where
  shared : σ
  calls : List τ

namespace System

variable {σ : Type u} {τ : Type v} {act : τ → σ → σ × τ} {system : System σ τ} {i : Nat}

def advance (act : τ → σ → σ × τ) (system : System σ τ) (i : Nat) : System σ τ :=
  match system.calls[i]? with
  | none => system
  | some call =>
      ⟨(act call system.shared).1, system.calls.set i (act call system.shared).2⟩

theorem advance_of_none (hcall : system.calls[i]? = none) : advance act system i = system := by
  rw [advance, hcall]

theorem advance_of_some {call : τ} (hcall : system.calls[i]? = some call) :
    advance act system i =
      ⟨(act call system.shared).1, system.calls.set i (act call system.shared).2⟩ := by
  rw [advance, hcall]

theorem mem_set_of_ne {calls : List τ} {call other new : τ} (hcall : calls[i]? = some call)
    (hother : other ∈ calls) (hne : other ≠ call) : other ∈ calls.set i new := by
  obtain ⟨j, hj⟩ := List.mem_iff_getElem?.mp hother
  have hij : i ≠ j := by
    rintro rfl
    rw [hcall] at hj
    exact hne (Option.some.inj hj).symm
  refine List.mem_iff_getElem?.mpr ⟨j, ?_⟩
  rw [List.getElem?_set_ne hij]
  exact hj

theorem forall_mem_set {calls : List τ} {new : τ} {P Q : τ → Prop}
    (h : ∀ call ∈ calls, P call) (hnew : Q new) (hothers : ∀ call ∈ calls, P call → Q call) :
    ∀ call ∈ calls.set i new, Q call := by
  intro call hmem
  rcases List.mem_or_eq_of_mem_set hmem with hold | rfl
  · exact hothers call hold (h call hold)
  · exact hnew

end System

end NanoCore.Foundation.Interleaving
