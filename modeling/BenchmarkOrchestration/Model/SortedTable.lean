namespace BenchmarkOrchestration

/-!
# Tables in the order of their keys

A table holds one text for every key, and lists its entries by ascending key.  Keys are compared by
code points, which for UTF-8 is the order of their bytes.
-/

namespace SortedTable

/-- Put an entry at its place among ascending entries; an entry with the same key is replaced. -/
def putEntry
    (key value : String) :
    List (String × String) → List (String × String)
  | [] => [(key, value)]
  | (k, v) :: rest =>
      if key < k then (key, value) :: (k, v) :: rest
      else if k = key then (key, value) :: rest
      else (k, v) :: putEntry key value rest

/-- An entry of the new list is the new one or an old one. -/
theorem mem_of_mem_putEntry
    {key value : String}
    {entry : String × String}
    {entries : List (String × String)}
    (present : entry ∈ putEntry key value entries) :
    entry = (key, value) ∨ entry ∈ entries := by
  induction entries with
  | nil => simpa [putEntry] using present
  | cons first rest ih =>
      obtain ⟨k, v⟩ := first
      simp only [putEntry] at present
      split at present
      · simpa using present
      · split at present
        · rcases List.mem_cons.1 present with same | old
          · exact .inl same
          · exact .inr (List.mem_cons_of_mem _ old)
        · rcases List.mem_cons.1 present with same | later
          · exact .inr (same ▸ List.mem_cons_self)
          · rcases ih later with same | old
            · exact .inl same
            · exact .inr (List.mem_cons_of_mem _ old)

/-- Putting an entry at its place keeps the order. -/
theorem pairwise_putEntry
    {key value : String}
    {entries : List (String × String)}
    (ascending : entries.Pairwise fun a b => a.1 < b.1) :
    (putEntry key value entries).Pairwise fun a b => a.1 < b.1 := by
  induction entries with
  | nil => simp [putEntry]
  | cons first rest ih =>
      obtain ⟨k, v⟩ := first
      obtain ⟨below, later⟩ := List.pairwise_cons.1 ascending
      simp only [putEntry]
      split
      · rename_i before
        refine List.pairwise_cons.2 ⟨fun entry present => ?_, ascending⟩
        rcases List.mem_cons.1 present with rfl | present
        · exact before
        · exact String.lt_trans before (below entry present)
      · rename_i notBefore
        split
        · rename_i same
          subst same
          exact List.pairwise_cons.2 ⟨below, later⟩
        · rename_i differ
          refine List.pairwise_cons.2 ⟨fun entry present => ?_, ih later⟩
          rcases mem_of_mem_putEntry present with rfl | old
          · exact Classical.byContradiction fun notAfter =>
              differ (String.le_antisymm (String.not_lt.1 notBefore) (String.not_lt.1 notAfter))
          · exact below entry old

end SortedTable

/-- A table of texts by text, listed by ascending key. -/
structure SortedTable where
  entries : List (String × String)
  ascending : entries.Pairwise fun a b => a.1 < b.1
  deriving DecidableEq

namespace SortedTable

/-- The table without entries. -/
def empty : SortedTable :=
  ⟨[], .nil⟩

/-- The text at a key. -/
def get?
    (table : SortedTable)
    (key : String) :
    Option String :=
  table.entries.lookup key

/-- Set the text at a key. -/
def insert
    (table : SortedTable)
    (key value : String) :
    SortedTable :=
  ⟨putEntry key value table.entries, pairwise_putEntry table.ascending⟩

/-- The table of some pairs, set one after the other. -/
def ofPairs
    (pairs : List (String × String)) :
    SortedTable :=
  pairs.foldl (fun table (key, value) => table.insert key value) empty

end SortedTable

end BenchmarkOrchestration
