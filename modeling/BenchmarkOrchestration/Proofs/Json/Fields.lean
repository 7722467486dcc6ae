import Mathlib.Data.List.Nodup

namespace BenchmarkOrchestration

/-!
# Fields with distinct keys

Among fields with distinct keys an entry is all that stands under its key.  What is found under a
key is then the value of its entry, in whatever order the fields are.
-/

section Entry

variable
  {fields : List (String × α)}
  {key : String}
  {value : α}

/-- With distinct keys, no other entry has the key of an entry. -/
theorem exists_entry_apart
    (distinct : (fields.map Prod.fst).Nodup)
    (entry : (key, value) ∈ fields) :
    ∃ before after,
      fields = before ++ (key, value) :: after ∧
        key ∉ before.map Prod.fst ∧ key ∉ after.map Prod.fst := by
  obtain ⟨before, after, rfl⟩ := List.mem_iff_append.mp entry
  rw [List.map_append, List.map_cons, List.nodup_middle, List.nodup_cons, List.mem_append,
    not_or] at distinct
  exact ⟨before, after, rfl, distinct.1⟩

/-- With distinct keys, an entry is all that there is under its key. -/
theorem filter_key_eq_singleton
    (distinct : (fields.map Prod.fst).Nodup)
    (entry : (key, value) ∈ fields) :
    fields.filter (fun field => field.1 = key) = [(key, value)] := by
  obtain ⟨before, after, rfl, notBefore, notAfter⟩ := exists_entry_apart distinct entry
  have none_of_absent :
      ∀ part : List (String × α),
        key ∉ part.map Prod.fst → part.filter (fun field => field.1 = key) = [] := by
    intro part absent
    rw [List.filter_eq_nil_iff]
    intro field member atKey
    exact absent (List.mem_map.mpr ⟨field, member, of_decide_eq_true atKey⟩)
  rw [List.filter_append, List.filter_cons, if_pos (decide_eq_true rfl),
    none_of_absent before notBefore, none_of_absent after notAfter, List.nil_append]

/-- With distinct keys, the entries are what is found under their keys. -/
theorem lookup_eq_some_iff_mem
    (distinct : (fields.map Prod.fst).Nodup) :
    fields.lookup key = some value ↔ (key, value) ∈ fields := by
  constructor
  · intro found
    obtain ⟨before, after, rfl, _⟩ := List.lookup_eq_some_iff.mp found
    exact List.mem_append_right _ List.mem_cons_self
  · intro entry
    obtain ⟨before, after, rfl, notBefore, _⟩ := exists_entry_apart distinct entry
    refine List.lookup_eq_some_iff.mpr ⟨before, after, rfl, ?_⟩
    intro field earlier
    have apart : key ≠ field.1 := by
      rintro rfl
      exact notBefore (List.mem_map_of_mem earlier)
    exact bne_iff_ne.mpr apart

end Entry

/-- Distinct keys are found alike whatever the order of the entries is. -/
theorem lookup_eq_of_perm
    {fields others : List (String × α)}
    (permuted : fields.Perm others)
    (distinct : (fields.map Prod.fst).Nodup)
    (key : String) :
    fields.lookup key = others.lookup key := by
  have othersDistinct := (permuted.map Prod.fst).nodup_iff.mp distinct
  refine Option.ext fun value => ?_
  rw [lookup_eq_some_iff_mem distinct, lookup_eq_some_iff_mem othersDistinct, permuted.mem_iff]

/-- Fields with distinct keys have at each of their keys the value that stands there. -/
theorem map_lookup_keys
    {fields : List (String × α)}
    (distinct : (fields.map Prod.fst).Nodup) :
    (fields.map Prod.fst).map (fun key => fields.lookup key) =
      fields.map fun field => some field.2 := by
  rw [List.map_map]
  refine List.map_congr_left fun field member => ?_
  exact (lookup_eq_some_iff_mem distinct).mpr member

end BenchmarkOrchestration
