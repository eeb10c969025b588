import Mathlib.Data.List.Nodup
import Mathlib.Data.List.Basic

/-!
Tables of rows addressed by a key.  Two rows of a table never share a key: the
structure carries the proof, so every operation below gives a table again.
-/

namespace NanoCore.Foundation.KeyedTable

universe u v w

theorem filter_key_eq_singleton {κ : Type u} {ρ : Type v} [DecidableEq κ] {key : ρ → κ}
    {rows : List ρ} (hnodup : (rows.map key).Nodup) {row : ρ} (hrow : row ∈ rows) :
    (rows.filter fun other => key other = key row) = [row] := by
  induction rows with
  | nil => exact absurd hrow List.not_mem_nil
  | cons first rest ih =>
      rw [List.map_cons, List.nodup_cons] at hnodup
      rcases List.mem_cons.mp hrow with rfl | hrest
      · rw [List.filter_cons, if_pos (decide_eq_true rfl), List.filter_eq_nil_iff.mpr]
        intro other hother hkey
        exact hnodup.1 (List.mem_map.mpr ⟨other, hother, of_decide_eq_true hkey⟩)
      · have hne : key first ≠ key row := fun hkey =>
          hnodup.1 (List.mem_map.mpr ⟨row, hrest, hkey.symm⟩)
        rw [List.filter_cons, if_neg (by rwa [decide_eq_true_eq])]
        exact ih hnodup.2 hrest

theorem nodup_map_concat {κ : Type u} {ρ : Type v} {key : ρ → κ} {rows : List ρ} {row : ρ}
    (hnodup : (rows.map key).Nodup) (hfree : ∀ other ∈ rows, key other ≠ key row) :
    ((rows ++ [row]).map key).Nodup := by
  rw [List.map_append, List.nodup_append]
  refine ⟨hnodup, List.nodup_singleton _, ?_⟩
  intro k hk k' hk'
  obtain ⟨other, hother, rfl⟩ := List.mem_map.mp hk
  rw [List.map_singleton, List.mem_singleton] at hk'
  exact hk' ▸ hfree other hother

structure Table (κ : Type u) (ρ : Type v) (key : ρ → κ) where
  rows : List ρ
  keys_nodup : (rows.map key).Nodup

namespace Table

variable {κ : Type u} {ρ : Type v} {key : ρ → κ}

instance : Membership ρ (Table κ ρ key) where
  mem table row := row ∈ table.rows

theorem mem_rows {table : Table κ ρ key} {row : ρ} : row ∈ table.rows ↔ row ∈ table :=
  Iff.rfl

theorem eq_of_key {table : Table κ ρ key} {a b : ρ} (ha : a ∈ table) (hb : b ∈ table)
    (hkey : key a = key b) : a = b :=
  List.inj_on_of_nodup_map table.keys_nodup ha hb hkey

def empty : Table κ ρ key := ⟨[], List.nodup_nil⟩

@[simp] theorem not_mem_empty (row : ρ) : row ∉ (empty : Table κ ρ key) :=
  List.not_mem_nil

theorem eq_empty_of_forall_not_mem {table : Table κ ρ key} (h : ∀ row, row ∉ table) :
    table = empty := by
  obtain ⟨rows, hnodup⟩ := table
  obtain rfl : rows = [] := List.eq_nil_iff_forall_not_mem.mpr h
  rfl

instance [DecidableEq ρ] : DecidableEq (Table κ ρ key) := fun a b =>
  decidable_of_iff (a.rows = b.rows)
    ⟨fun h => by cases a; cases b; cases h; rfl, fun h => by rw [h]⟩

instance [DecidableEq ρ] (row : ρ) (table : Table κ ρ key) : Decidable (row ∈ table) :=
  inferInstanceAs (Decidable (row ∈ table.rows))

def filter (p : ρ → Bool) (table : Table κ ρ key) : Table κ ρ key where
  rows := table.rows.filter p
  keys_nodup := table.keys_nodup.sublist (List.filter_sublist.map key)

@[simp] theorem mem_filter {p : ρ → Bool} {table : Table κ ρ key} {row : ρ} :
    row ∈ table.filter p ↔ row ∈ table ∧ p row = true :=
  List.mem_filter

section Keyed

variable [DecidableEq κ]

def find? (table : Table κ ρ key) (k : κ) : Option ρ :=
  table.rows.find? fun row => key row = k

theorem find?_eq_some_iff {table : Table κ ρ key} {k : κ} {row : ρ} :
    table.find? k = some row ↔ row ∈ table ∧ key row = k := by
  constructor
  · intro hfind
    unfold find? at hfind
    have hkey := List.find?_some hfind
    exact ⟨List.mem_of_find?_eq_some hfind, of_decide_eq_true hkey⟩
  · rintro ⟨hmem, hkey⟩
    have hsome : (table.find? k).isSome := by
      rw [find?, List.find?_isSome]
      exact ⟨row, hmem, decide_eq_true hkey⟩
    obtain ⟨other, hother⟩ := Option.isSome_iff_exists.mp hsome
    rw [hother]
    unfold find? at hother
    have hotherKey := List.find?_some hother
    rw [eq_of_key (List.mem_of_find?_eq_some hother) hmem
      ((of_decide_eq_true hotherKey).trans hkey.symm)]

theorem find?_eq_none_iff {table : Table κ ρ key} {k : κ} :
    table.find? k = none ↔ ∀ row ∈ table, key row ≠ k := by
  simp only [find?, List.find?_eq_none, decide_eq_true_eq]
  rfl

theorem mem_of_find? {table : Table κ ρ key} {k : κ} {row : ρ}
    (hfind : table.find? k = some row) : row ∈ table :=
  (find?_eq_some_iff.mp hfind).1

theorem key_of_find? {table : Table κ ρ key} {k : κ} {row : ρ}
    (hfind : table.find? k = some row) : key row = k :=
  (find?_eq_some_iff.mp hfind).2

theorem find?_key_of_mem {table : Table κ ρ key} {row : ρ} (hmem : row ∈ table) :
    table.find? (key row) = some row :=
  find?_eq_some_iff.mpr ⟨hmem, rfl⟩

def erase (table : Table κ ρ key) (k : κ) : Table κ ρ key :=
  table.filter fun row => key row ≠ k

@[simp] theorem mem_erase {table : Table κ ρ key} {k : κ} {row : ρ} :
    row ∈ table.erase k ↔ row ∈ table ∧ key row ≠ k := by
  simp only [erase, mem_filter, decide_eq_true_eq]

def eraseAll (table : Table κ ρ key) (ks : List κ) : Table κ ρ key := ks.foldl erase table

@[simp] theorem mem_eraseAll {table : Table κ ρ key} {ks : List κ} {row : ρ} :
    row ∈ table.eraseAll ks ↔ row ∈ table ∧ key row ∉ ks := by
  induction ks generalizing table with
  | nil => simp [eraseAll]
  | cons k ks ih =>
      change row ∈ (table.erase k).eraseAll ks ↔ _
      rw [ih, mem_erase, List.mem_cons, not_or, and_assoc]

@[simp] theorem eraseAll_keys (table : Table κ ρ key) :
    table.eraseAll (table.rows.map key) = empty :=
  eq_empty_of_forall_not_mem fun _ hrow =>
    (mem_eraseAll.mp hrow).2 (List.mem_map_of_mem (mem_eraseAll.mp hrow).1)

def put (table : Table κ ρ key) (row : ρ) : Table κ ρ key where
  rows := (table.erase (key row)).rows ++ [row]
  keys_nodup := nodup_map_concat (table.erase (key row)).keys_nodup
    fun _ hother => (mem_erase.mp hother).2

@[simp] theorem mem_put {table : Table κ ρ key} {row other : ρ} :
    other ∈ table.put row ↔ other = row ∨ other ∈ table ∧ key other ≠ key row := by
  change other ∈ (table.erase (key row)).rows ++ [row] ↔ _
  rw [List.mem_append, List.mem_singleton, mem_rows, mem_erase, or_comm]

def modify (table : Table κ ρ key) (k : κ) (f : ρ → ρ) (hf : ∀ row, key (f row) = key row) :
    Table κ ρ key where
  rows := table.rows.map fun row => if key row = k then f row else row
  keys_nodup := by
      have hkeys : (table.rows.map fun row => if key row = k then f row else row).map key =
          table.rows.map key := by
        rw [List.map_map]
        refine List.map_congr_left fun row _ => ?_
        simp only [Function.comp_apply]
        split
        · exact hf row
        · rfl
      rw [hkeys]
      exact table.keys_nodup

variable {f : ρ → ρ} {hf : ∀ row, key (f row) = key row}

@[simp] theorem mem_modify {table : Table κ ρ key} {k : κ} {row : ρ} :
    row ∈ table.modify k f hf ↔
      ∃ old ∈ table, row = if key old = k then f old else old := by
  change row ∈ table.rows.map _ ↔ _
  rw [List.mem_map]
  exact exists_congr fun old => and_congr Iff.rfl eq_comm

@[simp] theorem find?_empty (k : κ) : (empty : Table κ ρ key).find? k = none :=
  rfl

@[simp] theorem find?_erase_self (table : Table κ ρ key) (k : κ) :
    (table.erase k).find? k = none :=
  find?_eq_none_iff.mpr fun _ hrow => (mem_erase.mp hrow).2

theorem find?_erase_of_ne (table : Table κ ρ key) {k k' : κ} (hne : k' ≠ k) :
    (table.erase k).find? k' = table.find? k' := by
  refine Option.ext fun row => ?_
  rw [find?_eq_some_iff, find?_eq_some_iff, mem_erase]
  constructor
  · rintro ⟨⟨hmem, -⟩, hkey⟩
    exact ⟨hmem, hkey⟩
  · rintro ⟨hmem, rfl⟩
    exact ⟨⟨hmem, hne⟩, rfl⟩

@[simp] theorem find?_put_self (table : Table κ ρ key) (row : ρ) :
    (table.put row).find? (key row) = some row :=
  find?_eq_some_iff.mpr ⟨mem_put.mpr (Or.inl rfl), rfl⟩

theorem find?_put_of_ne (table : Table κ ρ key) {row : ρ} {k : κ} (hne : k ≠ key row) :
    (table.put row).find? k = table.find? k := by
  refine Option.ext fun other => ?_
  rw [find?_eq_some_iff, find?_eq_some_iff, mem_put]
  constructor
  · rintro ⟨rfl | ⟨hmem, -⟩, hkey⟩
    · exact absurd hkey.symm hne
    · exact ⟨hmem, hkey⟩
  · rintro ⟨hmem, rfl⟩
    exact ⟨Or.inr ⟨hmem, hne⟩, rfl⟩

theorem find?_modify (table : Table κ ρ key) (k k' : κ) :
    (table.modify k f hf).find? k' =
      (table.find? k').map fun row => if key row = k then f row else row := by
  refine Option.ext fun row => ?_
  rw [find?_eq_some_iff, mem_modify, Option.map_eq_some_iff]
  constructor
  · rintro ⟨⟨old, hold, rfl⟩, hkey⟩
    refine ⟨old, find?_eq_some_iff.mpr ⟨hold, ?_⟩, rfl⟩
    split at hkey
    · exact (hf old).symm.trans hkey
    · exact hkey
  · rintro ⟨old, hold, rfl⟩
    refine ⟨⟨old, mem_of_find? hold, rfl⟩, ?_⟩
    split
    · exact (hf old).trans (key_of_find? hold)
    · exact key_of_find? hold

end Keyed

end Table

/-- A table in which a second value tells the rows apart too. -/
structure UniqueTable (κ : Type u) (ρ : Type v) {α : Type w} (key : ρ → κ) (alt : ρ → α)
    extends Table κ ρ key where
  alts_nodup : (rows.map alt).Nodup

namespace UniqueTable

variable {κ : Type u} {ρ : Type v} {α : Type w} {key : ρ → κ} {alt : ρ → α}

instance : Membership ρ (UniqueTable κ ρ key alt) where
  mem table row := row ∈ table.toTable

@[simp] theorem mem_toTable {table : UniqueTable κ ρ key alt} {row : ρ} :
    row ∈ table.toTable ↔ row ∈ table := Iff.rfl

def empty : UniqueTable κ ρ key alt := ⟨.empty, List.nodup_nil⟩

@[simp] theorem not_mem_empty (row : ρ) : row ∉ (empty : UniqueTable κ ρ key alt) :=
  Table.not_mem_empty row

instance [DecidableEq ρ] : DecidableEq (UniqueTable κ ρ key alt) := fun a b =>
  decidable_of_iff (a.toTable = b.toTable)
    ⟨fun h => by cases a; cases b; cases h; rfl, fun h => by rw [h]⟩

instance [DecidableEq ρ] (row : ρ) (table : UniqueTable κ ρ key alt) : Decidable (row ∈ table) :=
  inferInstanceAs (Decidable (row ∈ table.toTable))

/-- The same rows, addressed by the second value. -/
def byAlt (table : UniqueTable κ ρ key alt) : Table α ρ alt := ⟨table.rows, table.alts_nodup⟩

@[simp] theorem mem_byAlt {table : UniqueTable κ ρ key alt} {row : ρ} :
    row ∈ table.byAlt ↔ row ∈ table := Iff.rfl

def filter (p : ρ → Bool) (table : UniqueTable κ ρ key alt) : UniqueTable κ ρ key alt where
  toTable := table.toTable.filter p
  alts_nodup := (table.byAlt.filter p).keys_nodup

@[simp] theorem mem_filter {p : ρ → Bool} {table : UniqueTable κ ρ key alt} {row : ρ} :
    row ∈ table.filter p ↔ row ∈ table ∧ p row = true := Table.mem_filter

section Keyed

variable [DecidableEq κ]

def erase (table : UniqueTable κ ρ key alt) (k : κ) : UniqueTable κ ρ key alt :=
  table.filter fun row => key row ≠ k

@[simp] theorem erase_toTable (table : UniqueTable κ ρ key alt) (k : κ) :
    (table.erase k).toTable = table.toTable.erase k := rfl

def modify (table : UniqueTable κ ρ key alt) (k : κ) (f : ρ → ρ)
    (hf : ∀ row, key (f row) = key row ∧ alt (f row) = alt row) : UniqueTable κ ρ key alt where
  toTable := table.toTable.modify k f fun row => (hf row).1
  alts_nodup := by
      have halts : (table.rows.map fun row => if key row = k then f row else row).map alt =
          table.rows.map alt := by
        rw [List.map_map]
        refine List.map_congr_left fun row _ => ?_
        simp only [Function.comp_apply]
        split
        · exact (hf row).2
        · rfl
      change ((table.rows.map fun row => if key row = k then f row else row).map alt).Nodup
      rw [halts]
      exact table.alts_nodup

@[simp] theorem mem_modify {table : UniqueTable κ ρ key alt} {k : κ} {f : ρ → ρ}
    {hf : ∀ row, key (f row) = key row ∧ alt (f row) = alt row} {row : ρ} :
    row ∈ table.modify k f hf ↔ ∃ old ∈ table, row = if key old = k then f old else old := by
  have hmodify : row ∈ table.toTable.modify k f (fun row => (hf row).1) ↔ _ := Table.mem_modify
  exact hmodify

variable [DecidableEq α]

/-- The row added, unless one of its two values is taken. -/
def insert? (table : UniqueTable κ ρ key alt) (row : ρ) : Option (UniqueTable κ ρ key alt) :=
  if hfree : (∀ other ∈ table.rows, key other ≠ key row) ∧
      ∀ other ∈ table.rows, alt other ≠ alt row then
    some
      { rows := table.rows ++ [row]
        keys_nodup := nodup_map_concat table.keys_nodup hfree.1
        alts_nodup := nodup_map_concat table.alts_nodup hfree.2 }
  else none

theorem mem_of_insert? {table table' : UniqueTable κ ρ key alt} {row : ρ}
    (hinsert : table.insert? row = some table') (other : ρ) :
    other ∈ table' ↔ other = row ∨ other ∈ table := by
  unfold insert? at hinsert
  split at hinsert
  · cases hinsert
    change other ∈ table.rows ++ [row] ↔ _
    rw [List.mem_append, List.mem_singleton, or_comm]
    exact Iff.rfl
  · cases hinsert

end Keyed

end UniqueTable

end NanoCore.Foundation.KeyedTable
