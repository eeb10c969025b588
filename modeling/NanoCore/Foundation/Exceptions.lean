import Mathlib.Data.Bool.Basic

namespace NanoCore.Foundation.Exceptions

variable {ε α β : Type}

def Raises (x : Except ε α) : Prop := ∃ e, x = .error e

@[simp] theorem raises_error (e : ε) : Raises (.error e : Except ε α) := ⟨e, rfl⟩

@[simp] theorem not_raises_ok (a : α) : ¬Raises (.ok a : Except ε α) := nofun

@[simp] theorem not_raises_pure (a : α) : ¬Raises (pure a : Except ε α) := nofun

theorem not_raises_iff {x : Except ε α} : ¬Raises x ↔ ∃ a, x = .ok a := by
  rcases x with e | a
  · exact ⟨fun h => absurd (raises_error e) h, nofun⟩
  · exact ⟨fun _ => ⟨a, rfl⟩, fun _ => not_raises_ok a⟩

theorem not_raises_of_ok {x : Except ε α} {a : α} (h : x = .ok a) : ¬Raises x :=
  not_raises_iff.mpr ⟨a, h⟩

@[simp] theorem raises_bind {x : Except ε α} {f : α → Except ε β} :
    Raises (x >>= f) ↔ Raises x ∨ ∃ a, x = .ok a ∧ Raises (f a) := by
  rcases x with e | a
  · exact ⟨fun _ => .inl (raises_error e), fun _ => raises_error e⟩
  · refine ⟨fun h => .inr ⟨a, rfl, h⟩, ?_⟩
    rintro (h | ⟨b, h, hf⟩)
    · exact absurd h (not_raises_ok a)
    · cases h
      exact hf

@[simp] theorem raises_map {x : Except ε α} {f : α → β} : Raises (x.map f) ↔ Raises x := by
  rcases x with e | a
  · exact ⟨fun _ => raises_error e, fun _ => raises_error e⟩
  · exact ⟨fun h => absurd h (not_raises_ok _), fun h => absurd h (not_raises_ok _)⟩

@[simp] theorem raises_fmap {x : Except ε α} {f : α → β} : Raises (f <$> x) ↔ Raises x :=
  raises_map

theorem raises_ite {c : Prop} [Decidable c] {x y : Except ε α} :
    Raises (if c then x else y) ↔ (c ∧ Raises x) ∨ (¬c ∧ Raises y) := by
  by_cases hc : c
  · rw [if_pos hc]
    exact ⟨fun h => .inl ⟨hc, h⟩, fun h => h.elim And.right fun h => absurd hc h.1⟩
  · rw [if_neg hc]
    exact ⟨fun h => .inr ⟨hc, h⟩, fun h => h.elim (fun h => absurd h.1 hc) And.right⟩

/-- What is left of a test once it is known not to have raised. -/
theorem raises_bind_of_ok {x : Except ε α} {a : α} (h : x = .ok a) {f : α → Except ε β} :
    Raises (x >>= f) ↔ Raises (f a) := by
  rw [h]
  rfl

theorem raises_bind_of_not {x : Except ε α} {f : α → Except ε β} (hf : ∀ a, ¬Raises (f a)) :
    Raises (x >>= f) ↔ Raises x := by
  rw [raises_bind]
  exact ⟨fun h => h.elim id fun ⟨a, _, ha⟩ => absurd ha (hf a), .inl⟩

theorem bind_eq_ok_iff {x : Except ε α} {f : α → Except ε β} {b : β} :
    x >>= f = .ok b ↔ ∃ a, x = .ok a ∧ f a = .ok b := by
  cases x with
  | error e =>
      constructor
      · rintro ⟨⟩
      · rintro ⟨a, ⟨⟩, -⟩
  | ok a =>
      constructor
      · exact fun h => ⟨a, rfl, h⟩
      · rintro ⟨_, ⟨⟩, h⟩
        exact h

theorem map_eq_ok_iff {x : Except ε α} {f : α → β} {b : β} :
    x.map f = .ok b ↔ ∃ a, x = .ok a ∧ f a = b := by
  cases x with
  | error e =>
      constructor
      · rintro ⟨⟩
      · rintro ⟨a, ⟨⟩, -⟩
  | ok a =>
      constructor
      · exact fun h => ⟨a, rfl, Except.ok.inj h⟩
      · rintro ⟨_, ⟨⟩, rfl⟩
        rfl

end NanoCore.Foundation.Exceptions
