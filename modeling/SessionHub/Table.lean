/-!
# Tables

A table is a finite map kept as a list of entries with distinct keys. The view is `get?`;
each operation has one equation through it.
-/

namespace SessionHub

/-- A finite map from keys to values. -/
structure Table (Key Value : Type) where
  entries : List (Key × Value)
  distinct : (entries.map Prod.fst).Nodup

namespace Table

variable {Key Value : Type}

theorem nodup_map_filter (keep : Key × Value → Bool) (entries : List (Key × Value))
    (distinct : (entries.map Prod.fst).Nodup) :
    ((entries.filter keep).map Prod.fst).Nodup :=
  (List.filter_sublist.map Prod.fst).nodup distinct

variable [DecidableEq Key]

/-- The table without entries. -/
def empty : Table Key Value :=
  ⟨[], List.nodup_nil⟩

instance : Inhabited (Table Key Value) := ⟨empty⟩

/-- How many entries there are. -/
def size (table : Table Key Value) : Nat :=
  table.entries.length

/-- The keys, in the order of their insertion. -/
def keys (table : Table Key Value) : List Key :=
  table.entries.map Prod.fst

/-- The values, in the order of their insertion. -/
def values (table : Table Key Value) : List Value :=
  table.entries.map Prod.snd

/-- The value of the first entry with a key. -/
def find (key : Key) : List (Key × Value) → Option Value
  | [] => none
  | (name, value) :: rest => if name = key then some value else find key rest

/-- The value at a key. -/
def get? (table : Table Key Value) (key : Key) : Option Value :=
  find key table.entries

/-- Whether there is an entry at a key. -/
def contains (table : Table Key Value) (key : Key) : Bool :=
  (table.get? key).isSome

/-- The table without the entry at a key. -/
def erase (table : Table Key Value) (key : Key) : Table Key Value :=
  ⟨table.entries.filter (·.1 ≠ key), nodup_map_filter _ _ table.distinct⟩

/-- The table with a value at a key, in the place of one that was there. -/
def insert (table : Table Key Value) (key : Key) (value : Value) : Table Key Value :=
  ⟨(table.erase key).entries ++ [(key, value)], by
    rw [List.map_append, List.nodup_append]
    refine ⟨(table.erase key).distinct, by simp, ?_⟩
    intro name present other isKey
    simp only [List.map_cons, List.map_nil, List.mem_singleton] at isKey
    subst isKey
    simp only [erase, List.mem_map, List.mem_filter] at present
    obtain ⟨entry, ⟨_, differs⟩, rfl⟩ := present
    simpa using differs⟩

/-! ## The view of each operation -/

@[simp] theorem get?_empty (key : Key) : (empty : Table Key Value).get? key = none := rfl

theorem find_filter_self (key : Key) (entries : List (Key × Value)) :
    find key (entries.filter (·.1 ≠ key)) = none := by
  induction entries with
  | nil => rfl
  | cons entry rest ih =>
    by_cases same : entry.1 = key
    · simpa [List.filter_cons, same] using ih
    · simpa [List.filter_cons, same, find] using ih

theorem find_filter_of_ne {key other : Key} (differs : other ≠ key)
    (entries : List (Key × Value)) :
    find other (entries.filter (·.1 ≠ key)) = find other entries := by
  induction entries with
  | nil => rfl
  | cons entry rest ih =>
    by_cases same : entry.1 = key
    · have : entry.1 ≠ other := fun equal => differs (equal.symm.trans same)
      simpa [List.filter_cons, same, find, this, differs.symm] using ih
    · by_cases found : entry.1 = other
      · simp [find, found, differs]
      · simpa [List.filter_cons, same, find, found] using ih

theorem find_append (key : Key) (first second : List (Key × Value)) :
    find key (first ++ second) = (find key first).or (find key second) := by
  induction first with
  | nil => rfl
  | cons entry rest ih =>
    by_cases found : entry.1 = key <;> simp [find, found, ih]

theorem get?_erase (table : Table Key Value) (key other : Key) :
    (table.erase key).get? other = if other = key then none else table.get? other := by
  by_cases same : other = key
  · subst same
    simpa [get?, erase] using find_filter_self other table.entries
  · simpa [get?, erase, same] using find_filter_of_ne same table.entries

theorem get?_insert (table : Table Key Value) (key other : Key) (value : Value) :
    (table.insert key value).get? other =
      if other = key then some value else table.get? other := by
  have view := get?_erase table key other
  by_cases same : other = key
  · subst same
    simp only [get?, if_true] at view
    simp [get?, insert, find_append, view, find]
  · have notKey : key ≠ other := fun equal => same equal.symm
    simp only [get?, same, if_false] at view
    simp [get?, insert, find_append, view, find, same, notKey]

theorem mem_keys_iff (table : Table Key Value) (key : Key) :
    key ∈ table.keys ↔ (table.get? key).isSome := by
  obtain ⟨entries, distinct⟩ := table
  simp only [keys, get?]
  clear distinct
  induction entries with
  | nil => simp [find]
  | cons entry rest ih =>
    by_cases found : entry.1 = key
    · simp [find, found]
    · simpa [find, found, Ne.symm found] using ih

/-- The entries are the pairs that the view shows. -/
theorem mem_entries_iff (table : Table Key Value) (key : Key) (value : Value) :
    (key, value) ∈ table.entries ↔ table.get? key = some value := by
  obtain ⟨entries, distinct⟩ := table
  simp only [get?]
  induction entries with
  | nil => simp [find]
  | cons entry rest ih =>
    obtain ⟨name, held⟩ := entry
    simp only [List.map_cons, List.nodup_cons] at distinct
    by_cases found : name = key
    · subst found
      have absent : (name, value) ∉ rest := by
        intro present
        exact distinct.1 (List.mem_map_of_mem present)
      simp [find, absent, eq_comm]
    · simpa [find, found, Ne.symm found] using ih distinct.2

end Table
end SessionHub
