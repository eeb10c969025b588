import Mathlib.Data.List.Perm.Subperm

/-!
`functools.lru_cache`: the latest results of a function by its arguments.  A call that
raises leaves nothing in the cache.
-/

namespace NanoCore.Foundation.CachedCalls

universe u v

/-- Most recently used first. -/
structure LruCache (κ : Type u) (ν : Type v) (maxsize : Nat) where
  entries : List (κ × ν)
  keys_nodup : (entries.map Prod.fst).Nodup
  length_le : entries.length ≤ maxsize

namespace LruCache

variable {κ : Type u} {ν : Type v} {maxsize : Nat} [DecidableEq κ]

def empty : LruCache κ ν maxsize := ⟨[], List.nodup_nil, Nat.zero_le _⟩

def get? (cache : LruCache κ ν maxsize) (key : κ) : Option ν :=
  (cache.entries.find? fun entry => entry.1 = key).map Prod.snd

/-- The entries of the other keys. -/
def others (cache : LruCache κ ν maxsize) (key : κ) : List (κ × ν) :=
  cache.entries.filter fun entry => entry.1 ≠ key

theorem nodup_cons_others (cache : LruCache κ ν maxsize) (key : κ) (value : ν) :
    (((key, value) :: cache.others key).map Prod.fst).Nodup := by
  rw [List.map_cons, List.nodup_cons]
  refine ⟨fun hmem => ?_, cache.keys_nodup.sublist (List.filter_sublist.map _)⟩
  obtain ⟨entry, hentry, hkey⟩ := List.mem_map.mp hmem
  exact of_decide_eq_true (List.mem_filter.mp hentry).2 hkey

/-- The entry of a key to the front, and the last one out of a full cache. -/
def put (cache : LruCache κ ν maxsize) (key : κ) (value : ν) : LruCache κ ν maxsize where
  entries := ((key, value) :: cache.others key).take maxsize
  keys_nodup := (cache.nodup_cons_others key value).sublist ((List.take_sublist _ _).map _)
  length_le := List.length_take_le _ _

/-- A call of the cached function. -/
def call {σ ε : Type} (function : σ → Except ε ν × σ) (key : κ)
    (state : LruCache κ ν maxsize × σ) : Except ε ν × LruCache κ ν maxsize × σ :=
  match state.1.get? key with
  | some value => (.ok value, state.1.put key value, state.2)
  | none =>
      match function state.2 with
      | (.ok value, after) => (.ok value, state.1.put key value, after)
      | (.error e, after) => (.error e, state.1, after)

/-- The keys in the cache are among so few that none is ever thrown out. -/
structure Fits (cache : LruCache κ ν maxsize) (keys : List κ) : Prop where
  mem : ∀ entry ∈ cache.entries, entry.1 ∈ keys
  length_le : keys.length ≤ maxsize

variable {cache : LruCache κ ν maxsize} {keys : List κ} {key other : κ} {value : ν}

omit [DecidableEq κ] in
theorem fits_empty (h : keys.length ≤ maxsize) : Fits (empty : LruCache κ ν maxsize) keys :=
  ⟨nofun, h⟩

theorem Fits.entries_put (h : Fits cache keys) (hkey : key ∈ keys) :
    (cache.put key value).entries = (key, value) :: cache.others key := by
  have hsubset : ((key, value) :: cache.others key).map Prod.fst ⊆ keys := by
    intro other hother
    rw [List.map_cons, List.mem_cons] at hother
    rcases hother with rfl | hother
    · exact hkey
    · obtain ⟨entry, hentry, rfl⟩ := List.mem_map.mp hother
      exact h.mem entry (List.mem_filter.mp hentry).1
  have hlength := List.subperm_of_subset (cache.nodup_cons_others key value) hsubset |>.length_le
  rw [List.length_map] at hlength
  exact List.take_of_length_le (Nat.le_trans hlength h.length_le)

theorem Fits.put (h : Fits cache keys) (hkey : key ∈ keys) (value : ν) :
    Fits (cache.put key value) keys := by
  refine ⟨?_, h.length_le⟩
  rw [h.entries_put hkey]
  intro entry hentry
  rcases List.mem_cons.mp hentry with rfl | hold
  · exact hkey
  · exact h.mem entry (List.mem_filter.mp hold).1

theorem find?_others (hne : other ≠ key) :
    (cache.others key).find? (fun entry => entry.1 = other) =
      cache.entries.find? fun entry => entry.1 = other := by
  rw [others, List.find?_filter]
  refine congrArg (fun p => cache.entries.find? p) (funext fun entry => ?_)
  by_cases hentry : entry.1 = other
  · simp [hentry, hne]
  · simp [hentry]

theorem Fits.get?_put (h : Fits cache keys) (hkey : key ∈ keys) (value : ν) (other : κ) :
    (cache.put key value).get? other = if other = key then some value else cache.get? other := by
  rw [get?, h.entries_put hkey, List.find?_cons]
  by_cases hsame : key = other
  · rw [if_pos hsame.symm, decide_eq_true hsame]
    rfl
  · rw [if_neg (Ne.symm hsame), decide_eq_false hsame, find?_others (Ne.symm hsame), get?]

section Calls

variable {σ ε : Type} {function : σ → Except ε ν × σ} {state : σ}

theorem call_of_some (h : cache.get? key = some value) :
    call function key (cache, state) = (.ok value, cache.put key value, state) := by
  rw [call]
  dsimp only
  rw [h]

theorem call_of_error {e : ε} (h : cache.get? key = none) (herror : (function state).1 = .error e) :
    call function key (cache, state) = (.error e, cache, (function state).2) := by
  rw [call]
  dsimp only
  rw [h]
  generalize function state = done at herror
  obtain ⟨result, after⟩ := done
  cases herror
  rfl

theorem call_of_ok (h : cache.get? key = none) (hok : (function state).1 = .ok value) :
    call function key (cache, state) = (.ok value, cache.put key value, (function state).2) := by
  rw [call]
  dsimp only
  rw [h]
  generalize function state = done at hok
  obtain ⟨result, after⟩ := done
  cases hok
  rfl

/-- What a call leaves in the cache: the value that it returns, and all that was there. -/
theorem Fits.call (h : Fits cache keys) (hkey : key ∈ keys) (function : σ → Except ε ν × σ)
    (state : σ) :
    Fits (call function key (cache, state)).2.1 keys ∧
      (∀ other value, cache.get? other = some value →
        (LruCache.call function key (cache, state)).2.1.get? other = some value) ∧
      ∀ value, (LruCache.call function key (cache, state)).1 = .ok value →
        (LruCache.call function key (cache, state)).2.1.get? key = some value := by
  have hput (value : ν) (hvalue : ∀ old, cache.get? key = some old → old = value) :
      Fits (cache.put key value) keys ∧
        (∀ other old, cache.get? other = some old →
          (cache.put key value).get? other = some old) ∧
        (cache.put key value).get? key = some value := by
    refine ⟨h.put hkey value, fun other old hold => ?_, ?_⟩
    · rw [h.get?_put hkey]
      split
      · rename_i hsame
        rw [hsame] at hold
        rw [hvalue old hold]
      · exact hold
    · rw [h.get?_put hkey, if_pos rfl]
  cases hcached : cache.get? key with
  | some value =>
      rw [call_of_some hcached]
      obtain ⟨hfits, hkept, hnew⟩ := hput value fun old hold =>
        Option.some.inj (hold.symm.trans hcached)
      refine ⟨hfits, hkept, fun returned hreturned => ?_⟩
      cases hreturned
      exact hnew
  | none =>
      cases hresult : (function state).1 with
      | error e =>
          rw [call_of_error hcached hresult]
          exact ⟨h, fun _ _ hold => hold, nofun⟩
      | ok value =>
          rw [call_of_ok hcached hresult]
          obtain ⟨hfits, hkept, hnew⟩ := hput value fun old hold => by
            cases hcached.symm.trans hold
          refine ⟨hfits, hkept, fun returned hreturned => ?_⟩
          cases hreturned
          exact hnew

end Calls

end LruCache

end NanoCore.Foundation.CachedCalls
