import AmqpEndpoints.Table

/-!
# Looking up what was set

What a table says about a key after pairs were set in order: the last pair with the key decides, and
the table before counts only where there is none.
-/

set_option autoImplicit false

namespace AmqpEndpoints.Table

variable {α : Type} {key : String} {value : α} {entries : List (String × α)}

/-!
## Lists of entries
-/

theorem lookupEntry_append (first second : List (String × α)) :
    lookupEntry key (first ++ second) = (lookupEntry key first).or (lookupEntry key second) := by
  induction first with
  | nil => rfl
  | cons entry rest ih =>
      by_cases same : key = entry.1
      · simp [lookupEntry, same]
      · simp [lookupEntry, same, ih]

theorem lookupEntry_eq_none_iff :
    lookupEntry key entries = none ↔ ∀ entry ∈ entries, entry.1 ≠ key := by
  induction entries with
  | nil => simp [lookupEntry]
  | cons entry rest ih =>
      by_cases same : key = entry.1
      · simp [lookupEntry, same]
      · simp [lookupEntry, same, ih, Ne.symm same]

theorem mem_of_lookupEntry (found : lookupEntry key entries = some value) :
    (key, value) ∈ entries := by
  induction entries with
  | nil => cases found
  | cons entry rest ih =>
      rw [lookupEntry] at found
      split at found
      · rename_i same
        cases found
        exact same ▸ List.mem_cons_self
      · exact List.mem_cons_of_mem _ (ih found)

/-- Where no key stands twice, what is found are the entries. -/
theorem lookupEntry_eq_some_iff (once : (entries.map (·.1)).Nodup) :
    lookupEntry key entries = some value ↔ (key, value) ∈ entries := by
  refine ⟨mem_of_lookupEntry, fun member => ?_⟩
  induction entries with
  | nil => cases member
  | cons entry rest ih =>
      obtain ⟨new, others⟩ := List.nodup_cons.mp once
      rw [lookupEntry]
      rcases List.mem_cons.mp member with rfl | later
      · rw [if_pos rfl]
      · have different : key ≠ entry.1 := by
          rintro rfl
          exact new (List.mem_map.mpr ⟨_, later, rfl⟩)
        rw [if_neg different]
        exact ih others later

theorem lookupEntry_reverse (once : (entries.map (·.1)).Nodup) :
    lookupEntry key entries.reverse = lookupEntry key entries := by
  have turned : (entries.reverse.map (·.1)).Nodup := by
    rw [List.map_reverse]
    exact (List.reverse_perm _).nodup_iff.mpr once
  refine Option.ext fun value => ?_
  rw [lookupEntry_eq_some_iff turned, lookupEntry_eq_some_iff once, List.mem_reverse]

/-!
## Tables
-/

theorem nodup_keys (table : Table α) : (table.entries.map (·.1)).Nodup := by
  rw [List.Nodup, List.pairwise_map]
  refine table.sorted.imp fun {first second} less same => ?_
  rw [same] at less
  exact String.lt_irrefl _ less

theorem get?_eq_some_iff {table : Table α} :
    table.get? key = some value ↔ (key, value) ∈ table.entries :=
  lookupEntry_eq_some_iff table.nodup_keys

theorem mem_keys_iff {table : Table α} : key ∈ table.keys ↔ (table.get? key).isSome = true := by
  rw [Option.isSome_iff_exists, keys, List.mem_map]
  constructor
  · rintro ⟨entry, member, rfl⟩
    exact ⟨entry.2, get?_eq_some_iff.mpr member⟩
  · rintro ⟨value, found⟩
    exact ⟨_, get?_eq_some_iff.mp found, rfl⟩

theorem eq_empty_of_isEmpty {table : Table α} (nothing : table.isEmpty = true) :
    table = .empty := by
  obtain ⟨entries, sorted⟩ := table
  obtain rfl : entries = [] := List.isEmpty_iff.mp nothing
  rfl

theorem get?_insertAll (table : Table α) (pairs : List (String × α)) :
    (table.insertAll pairs).get? key = (lookupEntry key pairs.reverse).or (table.get? key) := by
  induction pairs generalizing table with
  | nil => rfl
  | cons pair rest ih =>
      change ((table.insert pair.1 pair.2).insertAll rest).get? key = _
      rw [ih, get?_insert, List.reverse_cons, lookupEntry_append, Option.or_assoc]
      congr 1
      rw [lookupEntry]
      split <;> rfl

theorem map_insert {β : Type} (table : Table α) (change : α → β) (key : String) (value : α) :
    (table.insert key value).map change = (table.map change).insert key (change value) := by
  refine ext_get? fun other => ?_
  by_cases same : other = key
  · simp [same]
  · simp [same]

theorem map_insertAll {β : Type} (table : Table α) (change : α → β)
    (pairs : List (String × α)) :
    (table.insertAll pairs).map change =
      (table.map change).insertAll (pairs.map fun pair => (pair.1, change pair.2)) := by
  induction pairs generalizing table with
  | nil => rfl
  | cons pair rest ih =>
      change ((table.insert pair.1 pair.2).insertAll rest).map change = _
      rw [ih, map_insert]
      rfl

/-- Setting all entries of a table anew makes that table. -/
theorem insertAll_entries (table : Table α) : empty.insertAll table.entries = table := by
  refine ext_get? fun key => ?_
  rw [get?_insertAll, get?_empty, Option.or_none, lookupEntry_reverse table.nodup_keys]
  rfl

end AmqpEndpoints.Table
