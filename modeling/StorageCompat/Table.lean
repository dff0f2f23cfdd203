/-!
Lists of named entries, in the order in which the names were first entered. Entering a name
again keeps its place and replaces its value, so the names of a list that grew from nothing
by `insert` are distinct. A `Table` is such a list together with that fact.
-/

namespace StorageCompat

variable {α β : Type}

namespace Entries

def names (entries : List (String × α)) : List String :=
  entries.map Prod.fst

/-- A new name goes to the end; a known one keeps its place and takes the new value. -/
def insert (name : String) (value : α) : List (String × α) → List (String × α)
  | [] => [(name, value)]
  | (other, old) :: rest =>
      if other = name then (other, value) :: rest else (other, old) :: insert name value rest

theorem mem_names_insert (name other : String) (value : α) (entries : List (String × α)) :
    other ∈ names (insert name value entries) ↔ other = name ∨ other ∈ names entries := by
  induction entries with
  | nil => simp [insert, names]
  | cons entry rest ih =>
      obtain ⟨first, old⟩ := entry
      simp only [names] at ih
      by_cases same : first = name
      · subst same
        simp [insert, names]
      · simp only [insert, if_neg same, names, List.map_cons, List.mem_cons, ih]
        constructor
        · rintro (h | h | h) <;> simp [h]
        · rintro (h | h | h) <;> simp [h]

theorem nodup_names_insert (name : String) (value : α) (entries : List (String × α))
    (distinct : (names entries).Nodup) : (names (insert name value entries)).Nodup := by
  induction entries with
  | nil => simp [insert, names]
  | cons entry rest ih =>
      obtain ⟨first, old⟩ := entry
      simp only [names, List.map_cons, List.nodup_cons] at distinct
      by_cases same : first = name
      · subst same
        simpa [insert, names] using distinct
      · have absent : first ∉ names (insert name value rest) := by
          rw [mem_names_insert]
          rintro (h | h)
          · exact same h
          · exact distinct.1 h
        simp only [insert, if_neg same]
        exact List.nodup_cons.2 ⟨absent, ih distinct.2⟩

theorem insert_of_not_mem {name : String} {entries : List (String × α)}
    (absent : name ∉ names entries) (value : α) :
    insert name value entries = entries ++ [(name, value)] := by
  induction entries with
  | nil => rfl
  | cons entry rest ih =>
      obtain ⟨first, old⟩ := entry
      obtain ⟨other, absent⟩ := not_or.1 (mt List.mem_cons.2 absent)
      rw [insert, if_neg (Ne.symm other), ih absent, List.cons_append]

theorem not_mem_of_nodup {before behind : List (String × α)} {entry : String × α}
    (distinct : (names (before ++ entry :: behind)).Nodup) : entry.1 ∉ names before := by
  rw [names, List.map_append] at distinct
  intro known
  exact (List.nodup_append.1 distinct).2.2 _ known _ List.mem_cons_self rfl

theorem lookup_insert_self (name : String) (value : α) (entries : List (String × α)) :
    (insert name value entries).lookup name = some value := by
  induction entries with
  | nil => simp [insert]
  | cons entry rest ih =>
      obtain ⟨first, old⟩ := entry
      by_cases same : first = name
      · simp [insert, same]
      · simp [insert, same, List.lookup_cons, ih, beq_false_of_ne (Ne.symm same)]

theorem lookup_insert_of_ne {name other : String} (different : other ≠ name) (value : α)
    (entries : List (String × α)) :
    (insert name value entries).lookup other = entries.lookup other := by
  induction entries with
  | nil => simp [insert, List.lookup_cons, beq_false_of_ne different]
  | cons entry rest ih =>
      obtain ⟨first, old⟩ := entry
      by_cases same : first = name
      · simp [insert, same, List.lookup_cons, beq_false_of_ne different]
      · simp [insert, same, List.lookup_cons, ih]

theorem lookup_isSome (name : String) (entries : List (String × α)) :
    (entries.lookup name).isSome = true ↔ name ∈ names entries := by
  induction entries with
  | nil => simp [names]
  | cons entry rest ih =>
      obtain ⟨first, old⟩ := entry
      simp only [names] at ih
      by_cases same : name = first
      · simp [names, same]
      · simp [names, List.lookup_cons, same, ih, beq_false_of_ne same]

end Entries

/-- Entries with distinct names, in the order in which the names were first entered. -/
structure Table (α : Type) where
  entries : List (String × α)
  distinct : (Entries.names entries).Nodup

namespace Table

def empty : Table α := ⟨[], List.nodup_nil⟩

def names (table : Table α) : List String := Entries.names table.entries

def get? (table : Table α) (name : String) : Option α := table.entries.lookup name

def insert (table : Table α) (name : String) (value : α) : Table α :=
  ⟨Entries.insert name value table.entries,
    Entries.nodup_names_insert name value table.entries table.distinct⟩

def ofList (entries : List (String × α)) : Table α :=
  entries.foldl (fun table entry => table.insert entry.1 entry.2) empty

theorem ext {first second : Table α} (same : first.entries = second.entries) : first = second := by
  cases first
  cases second
  cases same
  rfl

theorem get?_isSome (table : Table α) (name : String) :
    (table.get? name).isSome = true ↔ name ∈ table.names :=
  Entries.lookup_isSome name table.entries

theorem mem_names_insert (table : Table α) (name other : String) (value : α) :
    other ∈ (table.insert name value).names ↔ other = name ∨ other ∈ table.names :=
  Entries.mem_names_insert name other value table.entries

private theorem mem_names_foldl (other : String) (entries : List (String × α))
    (table : Table α) :
    other ∈ (entries.foldl (fun table entry => table.insert entry.1 entry.2) table).names ↔
      other ∈ Entries.names entries ∨ other ∈ table.names := by
  induction entries generalizing table with
  | nil => simp [Entries.names]
  | cons entry rest ih =>
      simp only [List.foldl_cons, ih, mem_names_insert, Entries.names, List.map_cons,
        List.mem_cons]
      constructor
      · rintro (h | h | h) <;> simp [h]
      · rintro ((h | h) | h) <;> simp [h]

theorem get?_insert (table : Table α) (name other : String) (value : α) :
    (table.insert name value).get? other =
      if other = name then some value else table.get? other := by
  split
  case isTrue same =>
    subst same
    exact Entries.lookup_insert_self other value table.entries
  case isFalse different => exact Entries.lookup_insert_of_ne different value table.entries

private theorem get?_foldl (name : String) (entries : List (String × α)) (table : Table α) :
    (entries.foldl (fun table entry => table.insert entry.1 entry.2) table).get? name =
      (entries.reverse.lookup name).or (table.get? name) := by
  induction entries generalizing table with
  | nil => rfl
  | cons entry rest ih =>
      obtain ⟨first, value⟩ := entry
      have last : (if name = first then some value else table.get? name) =
          (List.lookup name [(first, value)]).or (table.get? name) := by
        by_cases same : name = first
        · simp [same]
        · simp [same, List.lookup_cons, beq_false_of_ne same]
      rw [List.foldl_cons, ih, get?_insert, last, List.reverse_cons, List.lookup_append,
        Option.or_assoc]

theorem get?_ofList (name : String) (entries : List (String × α)) :
    (ofList entries).get? name = entries.reverse.lookup name := by
  rw [ofList, get?_foldl]
  exact Option.or_none

theorem mem_of_get?_ofList {name : String} {value : α} {entries : List (String × α)}
    (found : (ofList entries).get? name = some value) : (name, value) ∈ entries := by
  rw [get?_ofList] at found
  obtain ⟨before, behind, parts, _⟩ := List.lookup_eq_some_iff.1 found
  rw [← List.mem_reverse, parts]
  exact List.mem_append_right before List.mem_cons_self

private theorem entries_foldl (entries : List (String × α)) (table : Table α)
    (distinct : (Entries.names (table.entries ++ entries)).Nodup) :
    (entries.foldl (fun table entry => table.insert entry.1 entry.2) table).entries =
      table.entries ++ entries := by
  induction entries generalizing table with
  | nil => exact (List.append_nil _).symm
  | cons entry rest ih =>
      have entered : (table.insert entry.1 entry.2).entries = table.entries ++ [entry] :=
        Entries.insert_of_not_mem (Entries.not_mem_of_nodup distinct) entry.2
      rw [List.append_cons] at distinct ⊢
      rw [List.foldl_cons, ih _ (by rw [entered]; exact distinct), entered]

theorem ofList_entries (table : Table α) : ofList table.entries = table :=
  ext (entries_foldl table.entries empty table.distinct)

theorem mem_names_ofList (other : String) (entries : List (String × α)) :
    other ∈ (ofList entries).names ↔ other ∈ Entries.names entries := by
  rw [ofList, mem_names_foldl]
  simp [names, empty, Entries.names]

end Table

end StorageCompat
