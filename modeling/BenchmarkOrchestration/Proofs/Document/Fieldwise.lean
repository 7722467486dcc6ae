import BenchmarkOrchestration.Proofs.Document.Results

namespace BenchmarkOrchestration.Document

/-!
# Objects that are alike field by field

Two objects are alike field by field if they have the same keys in the same order and what stands
under a key is alike.  Along a path the values differ at its end only: everything that is off the
path is the same.
-/

/-- Fields with the same key and alike values. -/
structure FieldAlike
    (alike : String → Json.Value → Json.Value → Prop)
    (field other : String × Json.Value) :
    Prop where
  key : field.1 = other.1
  value : alike field.1 field.2 other.2

/-- The same value, or objects with the same keys in the same order and alike values under them. -/
inductive Fieldwise (alike : String → Json.Value → Json.Value → Prop) :
    Json.Value → Json.Value → Prop where
  | same (value : Json.Value) : Fieldwise alike value value
  | fields
      {fields others : List (String × Json.Value)}
      (related : List.Forall₂ (FieldAlike alike) fields others) :
      Fieldwise alike (.object fields) (.object others)

/-- A step of a path: into the field of a key, or into every field. -/
inductive Descent where
  | into (key : String)
  | intoEach

/-- Values that are alike at the end of a path and the same everywhere else. -/
def Along
    (alike : Json.Value → Json.Value → Prop) :
    List Descent → Json.Value → Json.Value → Prop
  | [] => alike
  | .into key :: path =>
      Fieldwise fun name value other =>
        if name = key then Along alike path value other else value = other
  | .intoEach :: path =>
      Fieldwise fun _ => Along alike path

section Fields

variable
  {alike : String → Json.Value → Json.Value → Prop}
  {value other : Json.Value}

/-- What is found under a key in fields that are alike is alike. -/
theorem lookup_rel
    {fields others : List (String × Json.Value)}
    (related : List.Forall₂ (FieldAlike alike) fields others)
    (key : String) :
    Option.Rel (alike key) (fields.lookup key) (others.lookup key) := by
  induction related with
  | nil =>
      exact .none
  | @cons field other rest otherRest here _ inductionHypothesis =>
      rw [List.lookup_cons, List.lookup_cons, ← here.key]
      cases atKey : key == field.1 with
      | false =>
          exact inductionHypothesis
      | true =>
          rw [eq_of_beq atKey]
          exact .some here.value

/-- What is found under a key in values that are alike is alike. -/
theorem Fieldwise.get?_rel
    (related : Fieldwise alike value other)
    (key : String)
    (reflexive : ∀ value, alike key value value) :
    Option.Rel (alike key) (value.get? key) (other.get? key) := by
  cases related with
  | same =>
      cases value.get? key with
      | none =>
          exact .none
      | some found =>
          exact .some (reflexive found)
  | fields related =>
      exact lookup_rel related key

/-- Values that are alike are objects or not together. -/
theorem Fieldwise.isSome_fields?
    (related : Fieldwise alike value other) :
    value.fields?.isSome = other.fields?.isSome := by
  cases related <;> rfl

/-- Objects that differ in one field are alike if this field is. -/
theorem Fieldwise.of_field
    (reflexive : ∀ key value, alike key value value)
    (before after : List (String × Json.Value))
    {key : String}
    (here : alike key value other) :
    Fieldwise alike (.object (before ++ (key, value) :: after))
      (.object (before ++ (key, other) :: after)) := by
  have unchanged : ∀ fields, List.Forall₂ (FieldAlike alike) fields fields :=
    fun fields => List.forall₂_same.mpr fun field _ => ⟨rfl, reflexive field.1 field.2⟩
  exact .fields (List.rel_append (unchanged before) (.cons ⟨rfl, here⟩ (unchanged after)))

end Fields

/-- The same value is found or missing if what is found can only be the same. -/
theorem eq_of_rel
    {alike : α → α → Prop}
    {found other : Option α}
    (related : Option.Rel alike found other)
    (same : ∀ value other, alike value other → value = other) :
    found = other := by
  cases related with
  | none =>
      rfl
  | some alikeHere =>
      rw [same _ _ alikeHere]

section Paths

variable
  {alike : Json.Value → Json.Value → Prop}
  {path : List Descent}
  {value other : Json.Value}

/-- A value is like itself along every path if values are like themselves at its end. -/
theorem Along.refl
    (reflexive : ∀ value, alike value value)
    (path : List Descent)
    (value : Json.Value) :
    Along alike path value value := by
  match path with
  | [] => exact reflexive value
  | .into _ :: _ => exact .same value
  | .intoEach :: _ => exact .same value

/-- Objects that differ in one field of a path are alike along it. -/
theorem Along.of_field
    (reflexive : ∀ value, alike value value)
    (before after : List (String × Json.Value))
    (key : String)
    (here : Along alike path value other) :
    Along alike (.into key :: path) (.object (before ++ (key, value) :: after))
      (.object (before ++ (key, other) :: after)) := by
  refine Fieldwise.of_field (fun name value => ?_) before after ?_
  · split
    · exact Along.refl reflexive path value
    · rfl
  · rwa [if_pos rfl]

/-- Objects that differ in one field are alike along a path into every field. -/
theorem Along.of_each
    (reflexive : ∀ value, alike value value)
    (before after : List (String × Json.Value))
    (key : String)
    (here : Along alike path value other) :
    Along alike (.intoEach :: path) (.object (before ++ (key, value) :: after))
      (.object (before ++ (key, other) :: after)) :=
  Fieldwise.of_field (fun _ => Along.refl reflexive path) before after here

/-- Off the path everything is the same. -/
theorem Along.get?_eq
    {key : String}
    (related : Along alike (.into key :: path) value other)
    {off : String}
    (apart : off ≠ key) :
    value.get? off = other.get? off := by
  refine eq_of_rel (Fieldwise.get?_rel related off fun value => ?_) fun found otherFound same => ?_
  · rw [if_neg apart]
  · rwa [if_neg apart] at same

/-- On the path what is found is alike along the rest of it. -/
theorem Along.get?_rel
    {key : String}
    (reflexive : ∀ value, alike value value)
    (related : Along alike (.into key :: path) value other) :
    Option.Rel (Along alike path) (value.get? key) (other.get? key) := by
  have found := Fieldwise.get?_rel related key fun value => by
    rw [if_pos rfl]
    exact Along.refl reflexive path value
  simpa only [if_true] using found

/-- Under every key what is found is alike along the rest of the path. -/
theorem Along.get?_rel_each
    (reflexive : ∀ value, alike value value)
    (related : Along alike (.intoEach :: path) value other)
    (key : String) :
    Option.Rel (Along alike path) (value.get? key) (other.get? key) :=
  Fieldwise.get?_rel related key (Along.refl reflexive path)

/-- Fields of objects that are alike field by field are alike one by one. -/
theorem Along.forall₂
    {fields others : List (String × Json.Value)}
    (reflexive : ∀ value, alike value value)
    (related : Along alike (.intoEach :: path) (.object fields) (.object others)) :
    List.Forall₂ (FieldAlike fun _ => Along alike path) fields others := by
  cases related with
  | same =>
      exact List.forall₂_same.mpr fun _ _ => ⟨rfl, Along.refl reflexive path _⟩
  | fields related =>
      exact related

/-- Going on from objects on the path gives the same result if it does from alike fields. -/
theorem Along.objectField_bind_eq
    {key context : String}
    {next otherNext : List (String × Json.Value) → Except DocumentFault α}
    (reflexive : ∀ value, alike value value)
    (related : Along alike (.into key :: .intoEach :: path) value other)
    (sameNext :
      ∀ fields others,
        Along alike (.intoEach :: path) (.object fields) (.object others) →
          next fields = otherNext others) :
    (objectField value key context >>= next) = (objectField other key context >>= otherNext) := by
  refine objectField_bind_congr ?_ sameNext
  have found := related.get?_rel reflexive
  generalize value.get? key = inner, other.get? key = otherInner at found
  cases found with
  | none =>
      exact .none
  | some alikeHere =>
      exact .some ⟨Fieldwise.isSome_fields? alikeHere, alikeHere⟩

end Paths

end BenchmarkOrchestration.Document
