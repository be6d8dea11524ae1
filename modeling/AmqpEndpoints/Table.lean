/-!
# Tables

Finite maps from texts, kept as their entries in strictly increasing order of the keys, so that two
tables with the same look-ups are equal. Texts are ordered by their code points, which is also the
order of their UTF-8 bytes.
-/

set_option autoImplicit false

namespace AmqpEndpoints

/-- A finite map from texts. -/
structure Table (α : Type) where
  /-- The entries, in order of their keys. -/
  entries : List (String × α)
  sorted : entries.Pairwise (fun left right => left.1 < right.1)
  deriving DecidableEq, Repr

namespace Table

variable {α : Type}

/-!
## Entries
-/

/-- Entries with one entry put at its place, instead of an entry with the same key. -/
def insertEntry (key : String) (value : α) : List (String × α) → List (String × α)
  | [] => [(key, value)]
  | entry :: rest =>
    if key = entry.1 then (key, value) :: rest
    else if key < entry.1 then (key, value) :: entry :: rest
    else entry :: insertEntry key value rest

/-- The value of the first entry with a key. -/
def lookupEntry (key : String) : List (String × α) → Option α
  | [] => none
  | entry :: rest => if key = entry.1 then some entry.2 else lookupEntry key rest

theorem mem_insertEntry {key : String} {value : α} {entry : String × α}
    {entries : List (String × α)} (member : entry ∈ insertEntry key value entries) :
    entry = (key, value) ∨ entry ∈ entries := by
  induction entries with
  | nil => simpa [insertEntry] using member
  | cons head rest ih =>
      rw [insertEntry] at member
      split at member
      · rcases List.mem_cons.mp member with same | later
        · exact .inl same
        · exact .inr (List.mem_cons_of_mem _ later)
      · split at member
        · exact List.mem_cons.mp member
        · rcases List.mem_cons.mp member with same | later
          · exact .inr (same ▸ List.mem_cons_self ..)
          · exact (ih later).imp id (List.mem_cons_of_mem _)

theorem sorted_insertEntry (key : String) (value : α) {entries : List (String × α)}
    (sorted : entries.Pairwise (fun left right => left.1 < right.1)) :
    (insertEntry key value entries).Pairwise (fun left right => left.1 < right.1) := by
  induction entries with
  | nil => simp [insertEntry]
  | cons head rest ih =>
      obtain ⟨below, tail⟩ := List.pairwise_cons.mp sorted
      rw [insertEntry]
      split
      · rename_i same
        exact List.pairwise_cons.mpr ⟨fun entry member => same ▸ below entry member, tail⟩
      · split
        · rename_i less
          refine List.pairwise_cons.mpr ⟨fun entry member => ?_, sorted⟩
          rcases List.mem_cons.mp member with rfl | later
          · exact less
          · exact String.lt_trans less (below entry later)
        · rename_i different notLess
          refine List.pairwise_cons.mpr ⟨fun entry member => ?_, ih tail⟩
          rcases mem_insertEntry member with rfl | later
          · exact Std.lt_of_le_of_ne notLess (Ne.symm different)
          · exact below entry later

theorem lookupEntry_insertEntry (key other : String) (value : α) (entries : List (String × α)) :
    lookupEntry other (insertEntry key value entries) =
      if other = key then some value else lookupEntry other entries := by
  induction entries with
  | nil => simp [insertEntry, lookupEntry]
  | cons head rest ih =>
      rw [insertEntry]
      split
      · grind [lookupEntry]
      · split <;> grind [lookupEntry]

theorem lookupEntry_eq_none_of_below {key : String} {entries : List (String × α)}
    (below : ∀ entry ∈ entries, key < entry.1) : lookupEntry key entries = none := by
  induction entries with
  | nil => rfl
  | cons head rest ih =>
      have less := below head (List.mem_cons_self ..)
      rw [lookupEntry, if_neg (fun same => String.lt_irrefl _ (same ▸ less))]
      exact ih fun entry member => below entry (List.mem_cons_of_mem _ member)

theorem entries_ext {left right : List (String × α)}
    (sortedLeft : left.Pairwise (fun left right => left.1 < right.1))
    (sortedRight : right.Pairwise (fun left right => left.1 < right.1))
    (same : ∀ key, lookupEntry key left = lookupEntry key right) : left = right := by
  induction left generalizing right with
  | nil =>
      cases right with
      | nil => rfl
      | cons head rest => simpa [lookupEntry] using same head.1
  | cons first rest ih =>
      cases right with
      | nil => simpa [lookupEntry] using same first.1
      | cons second others =>
          obtain ⟨belowLeft, tailLeft⟩ := List.pairwise_cons.mp sortedLeft
          obtain ⟨belowRight, tailRight⟩ := List.pairwise_cons.mp sortedRight
          have keys : first.1 = second.1 := by
            rcases Std.lt_trichotomy first.1 second.1 with less | equal | less
            · have missing : lookupEntry first.1 (second :: others) = none :=
                lookupEntry_eq_none_of_below fun entry member => by
                  rcases List.mem_cons.mp member with rfl | later
                  · exact less
                  · exact String.lt_trans less (belowRight entry later)
              have found := same first.1
              rw [missing] at found
              simp [lookupEntry] at found
            · exact equal
            · have missing : lookupEntry second.1 (first :: rest) = none :=
                lookupEntry_eq_none_of_below fun entry member => by
                  rcases List.mem_cons.mp member with rfl | later
                  · exact less
                  · exact String.lt_trans less (belowLeft entry later)
              have found := same second.1
              rw [missing] at found
              simp [lookupEntry] at found
          have values : first.2 = second.2 := by
            have found := same first.1
            simpa [lookupEntry, keys] using found
          have heads : first = second := Prod.ext keys values
          subst heads
          congr 1
          refine ih tailLeft tailRight fun key => ?_
          by_cases equal : key = first.1
          · subst equal
            rw [lookupEntry_eq_none_of_below belowLeft, lookupEntry_eq_none_of_below belowRight]
          · simpa [lookupEntry, equal] using same key

/-!
## Operations
-/

def empty : Table α := ⟨[], .nil⟩

instance : Inhabited (Table α) := ⟨empty⟩

def get? (table : Table α) (key : String) : Option α :=
  lookupEntry key table.entries

def insert (table : Table α) (key : String) (value : α) : Table α :=
  ⟨insertEntry key value table.entries, sorted_insertEntry key value table.sorted⟩

/-- A table with pairs set in order, so that of two pairs with one key the later stays. -/
def insertAll (table : Table α) (pairs : List (String × α)) : Table α :=
  pairs.foldl (fun result pair => result.insert pair.1 pair.2) table

/-- The table of a list of pairs, of which the last with a key stays. -/
def ofList (pairs : List (String × α)) : Table α :=
  empty.insertAll pairs

def contains (table : Table α) (key : String) : Bool :=
  (table.get? key).isSome

def size (table : Table α) : Nat :=
  table.entries.length

def isEmpty (table : Table α) : Bool :=
  table.entries.isEmpty

/-- The keys, in order. -/
def keys (table : Table α) : List String :=
  table.entries.map (·.1)

/-- The entries whose key has a property. -/
def filterKeys (table : Table α) (keep : String → Bool) : Table α :=
  ⟨table.entries.filter (fun entry => keep entry.1), table.sorted.filter _⟩

def map {β : Type} (table : Table α) (change : α → β) : Table β :=
  ⟨table.entries.map (fun entry => (entry.1, change entry.2)), by
    rw [List.pairwise_map]
    exact table.sorted⟩

@[simp] theorem get?_empty (key : String) : (empty : Table α).get? key = none := rfl

@[simp] theorem get?_insert (table : Table α) (key other : String) (value : α) :
    (table.insert key value).get? other =
      if other = key then some value else table.get? other :=
  lookupEntry_insertEntry key other value table.entries

theorem ext_get? {left right : Table α} (same : ∀ key, left.get? key = right.get? key) :
    left = right := by
  cases left with
  | mk leftEntries leftSorted =>
      cases right with
      | mk rightEntries rightSorted =>
          have equal := entries_ext leftSorted rightSorted same
          subst equal
          rfl

theorem lookupEntry_filter (keep : String → Bool) (key : String) (entries : List (String × α)) :
    lookupEntry key (entries.filter (fun entry => keep entry.1)) =
      if keep key then lookupEntry key entries else none := by
  induction entries with
  | nil => simp [lookupEntry]
  | cons head rest ih => grind [lookupEntry]

@[simp] theorem get?_filterKeys (table : Table α) (keep : String → Bool) (key : String) :
    (table.filterKeys keep).get? key = if keep key then table.get? key else none :=
  lookupEntry_filter keep key table.entries

theorem lookupEntry_map {β : Type} (change : α → β) (key : String) (entries : List (String × α)) :
    lookupEntry key (entries.map (fun entry => (entry.1, change entry.2))) =
      (lookupEntry key entries).map change := by
  induction entries with
  | nil => rfl
  | cons head rest ih => by_cases same : key = head.1 <;> simp [lookupEntry, same, ih]

@[simp] theorem get?_map {β : Type} (table : Table α) (change : α → β) (key : String) :
    (table.map change).get? key = (table.get? key).map change :=
  lookupEntry_map change key table.entries

end Table

end AmqpEndpoints
