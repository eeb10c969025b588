import NanoCore.Foundation.Exceptions
import Mathlib.Data.List.Forall2

namespace NanoCore.Foundation.ExceptionLoops

open NanoCore.Foundation.Exceptions

variable {ε α β γ : Type} {f : α → Except ε β} {values : List α} {results : List β}
  {lists : List (List α)} {e : ε}

theorem mapM_eq_ok_iff :
    values.mapM f = .ok results ↔ List.Forall₂ (fun a b => f a = .ok b) values results := by
  induction values generalizing results with
  | nil =>
      rw [List.mapM_nil, List.forall₂_nil_left_iff]
      constructor
      · exact fun h => (Except.ok.inj h).symm
      · rintro rfl
        rfl
  | cons a values ih =>
      rw [List.mapM_cons, bind_eq_ok_iff, List.forall₂_cons_left_iff]
      constructor
      · rintro ⟨b, hb, h⟩
        obtain ⟨rest, hrest, hresults⟩ := bind_eq_ok_iff.mp h
        exact ⟨b, rest, hb, ih.mp hrest, (Except.ok.inj hresults).symm⟩
      · rintro ⟨b, rest, hb, hrest, rfl⟩
        exact ⟨b, hb, bind_eq_ok_iff.mpr ⟨rest, ih.mpr hrest, rfl⟩⟩

theorem mapM_of_forall {g : α → β} (h : ∀ a ∈ values, f a = .ok (g a)) :
    values.mapM f = .ok (values.map g) := by
  rw [mapM_eq_ok_iff, List.forall₂_map_right_iff, List.forall₂_same]
  exact h

theorem filterAuxM_map_of_forall {p : β → Except ε Bool} {q : α → Bool} {g : α → β}
    (acc : List β) (h : ∀ a ∈ values, p (g a) = .ok (q a)) :
    List.filterAuxM p (values.map g) acc = .ok (((values.filter q).map g).reverse ++ acc) := by
  induction values generalizing acc with
  | nil => rfl
  | cons a values ih =>
      rw [List.forall_mem_cons] at h
      rw [List.map_cons, List.filterAuxM, h.1]
      change List.filterAuxM p (values.map g) (cond (q a) (g a :: acc) acc) = _
      rw [ih _ h.2]
      cases hq : q a with
      | false => rw [List.filter_cons_of_neg (Bool.eq_false_iff.mp hq), cond_false]
      | true =>
          rw [List.filter_cons_of_pos hq, cond_true, List.map_cons, List.reverse_cons,
            List.append_assoc]
          rfl

theorem filterM_map_of_forall {p : β → Except ε Bool} {q : α → Bool} {g : α → β}
    (h : ∀ a ∈ values, p (g a) = .ok (q a)) :
    (values.map g).filterM p = .ok ((values.filter q).map g) := by
  rw [List.filterM, filterAuxM_map_of_forall [] h, List.append_nil]
  exact congrArg Except.ok (List.reverse_reverse _)

theorem exists_of_mem_mapM {b : β} (h : values.mapM f = .ok results) (hb : b ∈ results) :
    ∃ a ∈ values, f a = .ok b := by
  have hpairs := mapM_eq_ok_iff.mp h
  induction hpairs with
  | nil => cases hb
  | @cons a b' values results ha hrest ih =>
      rcases List.mem_cons.mp hb with rfl | hb
      · exact ⟨a, List.mem_cons_self, ha⟩
      · obtain ⟨a', hmem, ha'⟩ := ih (mapM_eq_ok_iff.mpr hrest) hb
        exact ⟨a', List.mem_cons_of_mem a hmem, ha'⟩

theorem eq_nil_of_mapM_eq_nil (h : values.mapM f = .ok []) : values = [] :=
  List.forall₂_nil_right_iff.mp (mapM_eq_ok_iff.mp h)

end NanoCore.Foundation.ExceptionLoops
