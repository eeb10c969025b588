import Mathlib.Data.List.Sort

namespace NanoCore.Foundation.StableSorts

universe u v

variable {α : Type u} {κ : Type v} [LinearOrder κ] (key : α → κ)

/-- Stable: of two values with one key, the earlier stays in front. -/
def sortByKey (values : List α) : List α := values.insertionSort fun a b => key a ≤ key b

def SortedByKey (values : List α) : Prop := values.Pairwise fun a b => key a ≤ key b

variable {key} {a b : α} {values others values' others' : List α} {n : Nat}

theorem perm_sortByKey (values : List α) : (sortByKey key values).Perm values :=
  List.perm_insertionSort _ values

theorem sortedByKey_sortByKey (values : List α) : SortedByKey key (sortByKey key values) :=
  have : Std.Total fun a b => key a ≤ key b := ⟨fun a b => le_total (key a) (key b)⟩
  have : IsTrans α fun a b => key a ≤ key b := ⟨fun _ _ _ => le_trans⟩
  List.pairwise_insertionSort _ values

/-- Stable: values that are in order stay in their order. -/
theorem sublist_sortByKey {chosen : List α} (h : SortedByKey key chosen)
    (hchosen : chosen.Sublist values) : chosen.Sublist (sortByKey key values) :=
  have : Std.Total fun a b => key a ≤ key b := ⟨fun a b => le_total (key a) (key b)⟩
  have : IsTrans α fun a b => key a ≤ key b := ⟨fun _ _ _ => le_trans⟩
  List.sublist_insertionSort h hchosen

end NanoCore.Foundation.StableSorts
