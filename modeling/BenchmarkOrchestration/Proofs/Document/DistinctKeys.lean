import BenchmarkOrchestration.Json.Reader
import BenchmarkOrchestration.Proofs.Document.NamedDirectories

namespace BenchmarkOrchestration

/-!
# Distinct keys

A text may repeat the keys of an object.  In the document that is read from it every key stands
once, in the object at the root and in every object below it.
-/

namespace Json

/-- A known key keeps its place, and no key is added. -/
theorem map_fst_putField_of_mem
    {fields : List (String × Value)}
    {key : String}
    (known : key ∈ fields.map Prod.fst)
    (value : Value) :
    (putField fields key value).map Prod.fst = fields.map Prod.fst := by
  induction fields with
  | nil =>
      cases known
  | cons first rest inductionHypothesis =>
      rw [putField]
      split
      · rename_i atFirst
        rw [List.map_cons, List.map_cons, atFirst]
      · rename_i notFirst
        have later := (List.mem_cons.mp known).resolve_left (Ne.symm notFirst)
        rw [List.map_cons, List.map_cons, inductionHypothesis later]

/-- Distinct keys stay distinct when a field is put into an object. -/
theorem nodup_keys_putField
    {fields : List (String × Value)}
    (distinct : (fields.map Prod.fst).Nodup)
    (key : String)
    (value : Value) :
    ((putField fields key value).map Prod.fst).Nodup := by
  by_cases known : key ∈ fields.map Prod.fst
  · rwa [map_fst_putField_of_mem known]
  · rw [putField_of_notMem known, List.map_append, List.nodup_append]
    refine ⟨distinct, List.nodup_singleton key, ?_⟩
    rintro old isOld _ isNew rfl
    obtain rfl : old = key := List.mem_singleton.mp isNew
    exact known isOld

/-- The fields of an object are the old ones, and the one that was put into it. -/
theorem mem_of_mem_putField
    {fields : List (String × Value)}
    {key : String}
    {value : Value}
    {field : String × Value}
    (member : field ∈ putField fields key value) :
    field ∈ fields ∨ field = (key, value) := by
  induction fields with
  | nil =>
      exact .inr (List.mem_singleton.mp member)
  | cons first rest inductionHypothesis =>
      rw [putField] at member
      split at member
      · rcases List.mem_cons.mp member with rfl | later
        · exact .inr rfl
        · exact .inl (List.mem_cons_of_mem _ later)
      · rcases List.mem_cons.mp member with rfl | later
        · exact .inl List.mem_cons_self
        · exact (inductionHypothesis later).imp_left (List.mem_cons_of_mem _)

namespace Value

/-- A tree whose keys are resolved: of every object, each key stands once. -/
def IsResolved
    (value : Value) :
    Prop :=
  ∃ given : Value, given.resolveKeys = value

/-- Fields are resolved if their keys are distinct and their values are resolved. -/
structure FieldsResolved
    (fields : List (String × Value)) :
    Prop where
  distinct : (fields.map Prod.fst).Nodup
  resolved : ∀ field ∈ fields, field.2.IsResolved

/-- Fields that are put into a resolved object one after the other leave it resolved. -/
theorem fieldsResolved_resolveFields
    (fields : List (String × Value))
    {done : List (String × Value)}
    (doneResolved : FieldsResolved done) :
    FieldsResolved (resolveFields fields done) := by
  induction fields generalizing done with
  | nil =>
      rwa [resolveFields]
  | cons first rest inductionHypothesis =>
      rw [resolveFields]
      refine inductionHypothesis ⟨nodup_keys_putField doneResolved.distinct _ _, ?_⟩
      intro field member
      rcases mem_of_mem_putField member with old | rfl
      · exact doneResolved.resolved field old
      · exact ⟨first.2, rfl⟩

/-- The fields of a resolved object are resolved. -/
theorem IsResolved.fieldsResolved
    {fields : List (String × Value)}
    (resolved : (Value.object fields).IsResolved) :
    FieldsResolved fields := by
  obtain ⟨given, same⟩ := resolved
  cases given with
  | object givenFields =>
      rw [resolveKeys, Value.object.injEq] at same
      rw [← same]
      exact fieldsResolved_resolveFields givenFields ⟨List.nodup_nil, by simp⟩
  | _ =>
      simp [resolveKeys] at same

/-- A field of a resolved tree is resolved. -/
theorem IsResolved.of_get?
    {tree value : Value}
    {key : String}
    (resolved : tree.IsResolved)
    (has : tree.get? key = some value) :
    value.IsResolved := by
  cases tree with
  | object fields =>
      obtain ⟨before, after, rfl, _⟩ := List.lookup_eq_some_iff.mp has
      exact resolved.fieldsResolved.resolved _ (List.mem_append_right _ List.mem_cons_self)
  | _ =>
      cases has

end Value

end Json

namespace Document

/-- In a document that was read, every tree along a path is resolved. -/
theorem isResolved_of_read?
    {text : String}
    {tree value : Json.Value}
    {path : List String}
    (read : Json.read? text = some tree)
    (reached : valueAt? tree path = some value) :
    value.IsResolved := by
  obtain ⟨given, _, resolved⟩ := Option.map_eq_some_iff.mp read
  have treeResolved : tree.IsResolved := ⟨given, resolved⟩
  clear read resolved
  induction path generalizing tree with
  | nil =>
      rwa [← Option.some.inj reached]
  | cons key path inductionHypothesis =>
      rw [valueAt?, Option.bind_eq_some_iff] at reached
      obtain ⟨inner, has, reached⟩ := reached
      exact inductionHypothesis reached (treeResolved.of_get? has)

end Document

end BenchmarkOrchestration
