import BenchmarkOrchestration.Document.Field
import Mathlib.Data.List.Forall2

namespace BenchmarkOrchestration.Document

/-!
# Readings and their steps

Reading a document goes on only while every step succeeds.  A successful reading is therefore taken
apart into the results of its steps, and a failed one has its fault from the first step that failed.
Documents that are alike in a field are read alike there.
-/

/-- Two steps succeed together exactly if the second succeeds on the result of the first. -/
theorem bind_eq_ok_iff
    {first : Except ε α}
    {next : α → Except ε β}
    {result : β} :
    first >>= next = .ok result ↔ ∃ value, first = .ok value ∧ next value = .ok result := by
  cases first with
  | error fault =>
      simp [bind, Except.bind]
  | ok value =>
      simp [bind, Except.bind]

/-- Two steps fail if the first fails or the second does on the result of the first. -/
theorem bind_eq_error_iff
    {first : Except ε α}
    {next : α → Except ε β}
    {fault : ε} :
    first >>= next = .error fault ↔
      first = .error fault ∨ ∃ value, first = .ok value ∧ next value = .error fault := by
  cases first with
  | error fault =>
      simp [bind, Except.bind]
  | ok value =>
      simp [bind, Except.bind]

/-- The step that only returns a value has this value as its result. -/
theorem pure_eq_ok_iff
    {value result : α} :
    (pure value : Except ε α) = .ok result ↔ value = result := by
  simp [pure, Except.pure]

/-- The step that only returns a value does not fail. -/
theorem pure_ne_error
    {value : α}
    {fault : ε} :
    (pure value : Except ε α) ≠ .error fault := by
  simp [pure, Except.pure]

/-- A result without its fault is there exactly if the step succeeds. -/
theorem toOption_eq_some_iff
    {outcome : Except ε α}
    {value : α} :
    outcome.toOption = some value ↔ outcome = .ok value := by
  cases outcome <;> simp [Except.toOption]

/-- A value that must be an object gives its fields. -/
theorem asObject_eq_ok_iff
    {value : Json.Value}
    {key context : String}
    {fields : List (String × Json.Value)} :
    asObject value key context = .ok fields ↔ value.fields? = some fields := by
  rw [asObject]
  cases value.fields? <;> simp

/-- A value that must be an object and is none is refused as such. -/
theorem asObject_eq_error_iff
    {value : Json.Value}
    {key context : String}
    {fault : DocumentFault} :
    asObject value key context = .error fault ↔
      value.fields? = none ∧ fault = .notAnObject key context := by
  rw [asObject]
  cases value.fields? <;> simp [eq_comm]

/-- A field that must be present is read if it is there. -/
theorem field_eq_ok_iff
    {tree value : Json.Value}
    {key context : String} :
    field tree key context = .ok value ↔ tree.get? key = some value := by
  rw [field]
  cases tree.get? key <;> simp

/-- A field that must be present and is not there is reported. -/
theorem field_eq_error_iff
    {tree : Json.Value}
    {key context : String}
    {fault : DocumentFault} :
    field tree key context = .error fault ↔
      tree.get? key = none ∧ fault = .missingField key context := by
  rw [field]
  cases tree.get? key <;> simp [eq_comm]

/-- The text of a field is that of the value that is there. -/
theorem textField_eq_ok_iff
    {tree : Json.Value}
    {key context text : String} :
    textField tree key context = .ok text ↔ (tree.get? key).map textOf = some text := by
  simp only [textField, bind_eq_ok_iff, pure_eq_ok_iff, field_eq_ok_iff, Option.map_eq_some_iff]

/-- The texts of a field are those of the value that is there. -/
theorem textsField_eq_ok_iff
    {tree : Json.Value}
    {key context : String}
    {texts : List String} :
    textsField tree key context = .ok texts ↔ (tree.get? key).map textsOf = some texts := by
  simp only [textsField, bind_eq_ok_iff, pure_eq_ok_iff, field_eq_ok_iff, Option.map_eq_some_iff]

/-- The text of a field is missing if the field is. -/
theorem textField_eq_error_iff
    {tree : Json.Value}
    {key context : String}
    {fault : DocumentFault} :
    textField tree key context = .error fault ↔
      tree.get? key = none ∧ fault = .missingField key context := by
  simp only [textField, bind_eq_error_iff, field_eq_error_iff, pure_ne_error, and_false,
    exists_false, or_false]

/-- The texts of a field are missing if the field is. -/
theorem textsField_eq_error_iff
    {tree : Json.Value}
    {key context : String}
    {fault : DocumentFault} :
    textsField tree key context = .error fault ↔
      tree.get? key = none ∧ fault = .missingField key context := by
  simp only [textsField, bind_eq_error_iff, field_eq_error_iff, pure_ne_error, and_false,
    exists_false, or_false]

/-- A value with fields is the object of these fields. -/
theorem fields?_eq_some_iff
    {value : Json.Value}
    {fields : List (String × Json.Value)} :
    value.fields? = some fields ↔ value = .object fields := by
  cases value <;> simp [Json.Value.fields?]

/-- A field that must be an object is read if an object is there. -/
theorem objectField_eq_ok_iff
    {tree : Json.Value}
    {key context : String}
    {fields : List (String × Json.Value)} :
    objectField tree key context = .ok fields ↔ tree.get? key = some (.object fields) := by
  simp only [objectField, bind_eq_ok_iff, field_eq_ok_iff, asObject_eq_ok_iff, fields?_eq_some_iff,
    exists_eq_right]

/-- A field that is alike in two values is read alike. -/
theorem field_congr
    {tree other : Json.Value}
    {key : String}
    (same : tree.get? key = other.get? key)
    (context : String) :
    field tree key context = field other key context := by
  rw [field, field, same]

/-- Going on from fields that go together gives the same result if each pair of them does. -/
theorem field_bind_congr
    {R : Json.Value → Json.Value → Prop}
    {tree other : Json.Value}
    {key context : String}
    {next otherNext : Json.Value → Except DocumentFault α}
    (together : Option.Rel R (tree.get? key) (other.get? key))
    (alike : ∀ value otherValue, R value otherValue → next value = otherNext otherValue) :
    (field tree key context >>= next) = (field other key context >>= otherNext) := by
  rw [field, field]
  generalize tree.get? key = value, other.get? key = otherValue at together
  cases together with
  | none =>
      rfl
  | some related =>
      exact alike _ _ related

/-- A text that is alike in two values is read alike. -/
theorem textField_congr
    {tree other : Json.Value}
    {key : String}
    (same : tree.get? key = other.get? key)
    (context : String) :
    textField tree key context = textField other key context := by
  rw [textField, textField, field_congr same]

/-- Texts that are alike in two values are read alike. -/
theorem textsField_congr
    {tree other : Json.Value}
    {key : String}
    (same : tree.get? key = other.get? key)
    (context : String) :
    textsField tree key context = textsField other key context := by
  rw [textsField, textsField, field_congr same]

/-- Going on from objects that go together gives the same result if each pair of them does. -/
theorem objectField_bind_congr
    {R : Json.Value → Json.Value → Prop}
    {tree other : Json.Value}
    {key context : String}
    {next otherNext : List (String × Json.Value) → Except DocumentFault α}
    (together :
      Option.Rel (fun value others => value.fields?.isSome = others.fields?.isSome ∧ R value others)
        (tree.get? key) (other.get? key))
    (alike :
      ∀ fields otherFields, R (.object fields) (.object otherFields) →
        next fields = otherNext otherFields) :
    (objectField tree key context >>= next) = (objectField other key context >>= otherNext) := by
  rw [objectField, objectField, bind_assoc, bind_assoc]
  refine field_bind_congr together fun value otherValue related => ?_
  obtain ⟨sameKind, related⟩ := related
  rw [asObject, asObject]
  cases isObject : value.fields? with
  | none =>
      rw [isObject, Option.isSome_none, eq_comm, Option.isSome_eq_false_iff,
        Option.isNone_iff_eq_none] at sameKind
      rw [sameKind]
      rfl
  | some fields =>
      rw [isObject, Option.isSome_some, eq_comm, Option.isSome_iff_exists] at sameKind
      obtain ⟨otherFields, otherIsObject⟩ := sameKind
      rw [otherIsObject]
      rw [fields?_eq_some_iff] at isObject otherIsObject
      subst isObject otherIsObject
      exact alike fields otherFields related

/-- What is made of two results is the same if it is at each of their steps. -/
theorem map_bind_congr
    {first other : Except ε α}
    {next otherNext : α → Except ε β}
    {view : α → γ}
    {viewNext : β → δ}
    (same : view <$> first = view <$> other)
    (sameNext :
      ∀ value otherValue, view value = view otherValue →
        viewNext <$> next value = viewNext <$> otherNext otherValue) :
    viewNext <$> (first >>= next) = viewNext <$> (other >>= otherNext) := by
  cases first with
  | error fault =>
      cases other with
      | error otherFault =>
          cases same
          rfl
      | ok otherValue =>
          cases same
  | ok value =>
      cases other with
      | error otherFault =>
          cases same
      | ok otherValue =>
          exact sameNext value otherValue (Except.ok.inj same)

/-- Making something of every value changes nothing but the value that is found. -/
theorem lookup_map_values
    (make : String → α → β)
    (fields : List (String × α))
    (key : String) :
    (fields.map fun field => (field.1, make field.1 field.2)).lookup key =
      (fields.lookup key).map (make key) := by
  induction fields with
  | nil =>
      rfl
  | cons first rest inductionHypothesis =>
      rw [List.map_cons, List.lookup_cons, List.lookup_cons, inductionHypothesis]
      cases atFirst : key == first.1 with
      | false =>
          rfl
      | true =>
          rw [eq_of_beq atFirst]
          rfl

/-- A value can be turned into something exactly if it is there. -/
theorem exists_map_eq_some_iff
    {value? : Option α}
    {f : α → β} :
    (∃ image, value?.map f = some image) ↔ value?.isSome := by
  cases value? <;> simp

/-- The value that is reached through the fields along a path. -/
def valueAt? : Json.Value → List String → Option Json.Value
  | value, [] => some value
  | value, key :: path => (value.get? key).bind fun inner => valueAt? inner path

/-- One step along a path is one field. -/
theorem valueAt?_singleton
    (value : Json.Value)
    (key : String) :
    valueAt? value [key] = value.get? key :=
  Option.bind_fun_some _

/-- With a value for the first key of a path, the path goes on from there. -/
theorem valueAt?_cons
    {value inner : Json.Value}
    {key : String}
    (has : value.get? key = some inner)
    (path : List String) :
    valueAt? value (key :: path) = valueAt? inner path := by
  rw [valueAt?, has, Option.bind_some]

/-- What is made of a value along a path is made of the value along the rest of it. -/
theorem map_valueAt?_cons_eq_some_iff
    {value : Json.Value}
    {key : String}
    {path : List String}
    {make : Json.Value → α}
    {made : α} :
    (valueAt? value (key :: path)).map make = some made ↔
      ∃ inner, value.get? key = some inner ∧ (valueAt? inner path).map make = some made := by
  rw [valueAt?, Option.map_bind, Option.bind_eq_some_iff]
  rfl

section Elementwise

variable {R : α → β → Prop}

/-- A list is read element by element if each of its elements is. -/
theorem exists_forall₂_iff
    {given : List α} :
    (∃ read, List.Forall₂ R given read) ↔ ∀ first ∈ given, ∃ second, R first second := by
  induction given with
  | nil =>
      simp
  | cons first rest inductionHypothesis =>
      simp only [List.forall₂_cons_left_iff, List.forall_mem_cons, ← inductionHypothesis]
      constructor
      · rintro ⟨_, second, others, here, later, rfl⟩
        exact ⟨⟨second, here⟩, others, later⟩
      · rintro ⟨⟨second, here⟩, others, later⟩
        exact ⟨second :: others, second, others, here, later, rfl⟩

/-- What is read from a list in two parts is read from one part after the other. -/
theorem forall₂_append_left_iff
    {first second : List α}
    {read : List β} :
    List.Forall₂ R (first ++ second) read ↔
      ∃ fromFirst fromSecond,
        List.Forall₂ R first fromFirst ∧ List.Forall₂ R second fromSecond ∧
          read = fromFirst ++ fromSecond := by
  constructor
  · intro related
    refine ⟨read.take first.length, read.drop first.length, ?_, ?_, by simp⟩
    · have part := List.forall₂_take first.length related
      rwa [List.take_left] at part
    · have part := List.forall₂_drop first.length related
      rwa [List.drop_left] at part
  · rintro ⟨fromFirst, fromSecond, inFirst, inSecond, rfl⟩
    exact List.rel_append inFirst inSecond

/-- What is read comes from an element of the list that is read. -/
theorem exists_of_mem_read
    {given : List α}
    {read : List β}
    (related : List.Forall₂ R given read)
    {second : β}
    (member : second ∈ read) :
    ∃ first ∈ given, R first second := by
  induction related with
  | nil =>
      cases member
  | cons here _ inductionHypothesis =>
      rcases List.mem_cons.mp member with rfl | later
      · exact ⟨_, List.mem_cons_self, here⟩
      · obtain ⟨first, firstMember, fromFirst⟩ := inductionHypothesis later
        exact ⟨first, List.mem_cons_of_mem _ firstMember, fromFirst⟩

/-- What is alike in elements that belong together is alike in the lists. -/
theorem map_eq_map_of_forall₂
    {given : List α}
    {read : List β}
    {f : α → γ}
    {g : β → γ}
    (related : List.Forall₂ R given read)
    (alike : ∀ first second, R first second → f first = g second) :
    given.map f = read.map g := by
  induction related with
  | nil =>
      rfl
  | cons here _ inductionHypothesis =>
      rw [List.map_cons, List.map_cons, alike _ _ here, inductionHypothesis]

end Elementwise

end BenchmarkOrchestration.Document
