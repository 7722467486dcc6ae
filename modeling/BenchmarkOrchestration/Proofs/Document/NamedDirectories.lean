import BenchmarkOrchestration.Proofs.Document.SimplifiedReading

namespace BenchmarkOrchestration

/-!
# Named directories are transparent

The table of named directories matters for nothing but the build keys that begin with a percent
sign.  A document without such keys is read alike with every table, and with none.  A document that
is accepted is read alike when the directories are written out in the places of their names.
-/

namespace Json

/-- A new key goes to the end of an object. -/
theorem putField_of_notMem
    {fields : List (String × Value)}
    {key : String}
    (new : key ∉ fields.map Prod.fst)
    (value : Value) :
    putField fields key value = fields ++ [(key, value)] := by
  induction fields with
  | nil =>
      rfl
  | cons first rest inductionHypothesis =>
      rw [List.map_cons, List.mem_cons, not_or] at new
      have later := inductionHypothesis new.2
      rw [putField, if_neg (Ne.symm new.1), later, List.cons_append]

/-- Fields with new and distinct keys go to the end of an object, one after the other. -/
theorem foldl_putField_of_nodup
    {done fields : List (String × Value)}
    (distinct : ((done ++ fields).map Prod.fst).Nodup) :
    fields.foldl (fun done field => putField done field.1 field.2) done = done ++ fields := by
  induction fields generalizing done with
  | nil =>
      rw [List.foldl_nil, List.append_nil]
  | cons first rest inductionHypothesis =>
      have apart : ((done ++ [first] ++ rest).map Prod.fst).Nodup := by
        rwa [List.append_assoc, List.singleton_append]
      have new : first.1 ∉ done.map Prod.fst := by
        rw [List.map_append, List.map_cons] at distinct
        intro old
        exact (List.nodup_append.mp distinct).2.2 _ old _ List.mem_cons_self rfl
      rw [List.foldl_cons, putField_of_notMem new, inductionHypothesis apart, List.append_assoc,
        List.singleton_append]

/-- The object that a document has for some fields: they are put in one after the other. -/
def objectOf
    (fields : List (String × Value)) :
    Value :=
  .object (fields.foldl (fun done field => putField done field.1 field.2) [])

/-- With distinct keys an object has its fields as they are. -/
theorem objectOf_of_nodup
    {fields : List (String × Value)}
    (distinct : (fields.map Prod.fst).Nodup) :
    objectOf fields = .object fields := by
  have whole := foldl_putField_of_nodup (List.nil_append fields ▸ distinct)
  rw [objectOf, whole, List.nil_append]

end Json

namespace Document.Simplified

/-- Documents are alike beside their named directories if all of their other fields are. -/
def AlikeBesideNames
    (tree other : Json.Value) :
    Prop :=
  ∀ name, name ≠ "directories" → tree.get? name = other.get? name

/-- The keys of the builds of a document. -/
def buildKeys
    (tree : Json.Value) :
    List String :=
  (((tree.get? "builds").bind Json.Value.fields?).getD []).map Prod.fst

/-- A key is literal if it does not begin with a percent sign. -/
def IsLiteral
    (key : String) :
    Prop :=
  key.toList.head? ≠ some '%'

instance (key : String) : Decidable (IsLiteral key) :=
  inferInstanceAs (Decidable (_ ≠ _))

/-- The directory that a key stands for; a key that stands for none is kept. -/
def directoryOf
    (home : String)
    (tree : Json.Value)
    (key : String) :
    String :=
  ((DirectoryNames.ofDocument home tree).resolve key).toOption.getD key

/-- The keys of the builds of a document, with directories in the places of names. -/
def writtenKeys
    (home : String)
    (tree : Json.Value) :
    List String :=
  (buildKeys tree).map (directoryOf home tree)

/-- The builds of a document, with directories in the places of all keys. -/
def writtenOutBuilds
    (home : String)
    (tree : Json.Value) :
    Json.Value → Json.Value
  | .object builds =>
      Json.objectOf (builds.map fun build => (directoryOf home tree build.1, build.2))
  | other => other

/-- The document with directories in the places of all build keys, and otherwise as it is. -/
def writtenOut
    (home : String) :
    Json.Value → Json.Value
  | .object fields =>
      .object (fields.map fun field =>
        (field.1,
          if field.1 = "builds" then writtenOutBuilds home (.object fields) field.2
          else field.2))
  | other => other

/-- Writing out the directories changes nothing but the builds. -/
theorem get?_writtenOut
    (home : String)
    (tree : Json.Value)
    (name : String) :
    (writtenOut home tree).get? name =
      (tree.get? name).map fun value =>
        if name = "builds" then writtenOutBuilds home tree value else value := by
  cases tree with
  | object fields =>
      exact lookup_map_values
        (fun name value =>
          if name = "builds" then writtenOutBuilds home (.object fields) value else value)
        fields name
  | null => rfl
  | boolean value => rfl
  | number value => rfl
  | text value => rfl
  | array elements => rfl

/-- A literal key stands for itself, whatever names there are. -/
theorem resolve_of_isLiteral
    {key : String}
    (literal : IsLiteral key)
    (names : DirectoryNames) :
    names.resolve key = .ok key := by
  have unmarked : DirectoryNames.reference? key = none := by
    rw [DirectoryNames.reference?]
    split
    · rename_i name marked
      exact absurd (congrArg List.head? marked) literal
    · rfl
  rw [DirectoryNames.resolve, unmarked]

/-- Builds under literal keys are added alike, whatever names there are. -/
theorem addBuilds_of_isLiteral
    {builds : List (String × Json.Value)}
    (literal : ∀ key ∈ builds.map Prod.fst, IsLiteral key)
    (names others : DirectoryNames)
    (config : Configuration) :
    addBuilds names builds config = addBuilds others builds config := by
  induction builds generalizing config with
  | nil =>
      rfl
  | cons first rest inductionHypothesis =>
      rw [List.map_cons, List.forall_mem_cons] at literal
      have here := resolve_of_isLiteral literal.1
      have later := inductionHypothesis literal.2
      rw [addBuilds, addBuilds, here names, here others]
      refine bind_congr fun directory => bind_congr fun items => bind_congr fun added => ?_
      exact later added

/-- What a key stands for is the directory that is written in its place. -/
theorem directoryOf_of_standsFor
    {home : String}
    {tree : Json.Value}
    {key directory : String}
    (standsFor : StandsFor home tree key directory) :
    directoryOf home tree key = directory := by
  have resolved := resolve_eq_ok_iff.mpr standsFor
  rw [directoryOf, resolved]
  rfl

/-- A literal key stands for itself in every document. -/
theorem standsFor_of_isLiteral
    {key : String}
    (literal : IsLiteral key)
    (home : String)
    (tree : Json.Value) :
    StandsFor home tree key key :=
  resolve_eq_ok_iff.mp (resolve_of_isLiteral literal _)

/-- Writing out the directories leaves the sections of a document as they are. -/
theorem hasSections_writtenOut
    {home : String}
    {tree : Json.Value}
    {sections : List Section}
    (has : HasSections home tree sections)
    (distinct : (writtenKeys home tree).Nodup)
    (literal : ∀ key ∈ writtenKeys home tree, IsLiteral key) :
    HasSections home (writtenOut home tree) sections := by
  obtain ⟨builds, are, gives⟩ := has
  let placed := builds.map fun build => (directoryOf home tree build.1, build.2)
  have keys : writtenKeys home tree = placed.map Prod.fst := by
    rw [writtenKeys, buildKeys, are]
    simp [placed, Json.Value.fields?]
  rw [keys] at distinct literal
  have written : (writtenOut home tree).get? "builds" = some (.object placed) := by
    rw [get?_writtenOut, are, Option.map_some, if_pos rfl, writtenOutBuilds,
      Json.objectOf_of_nodup distinct]
  refine ⟨placed, written, ?_⟩
  rw [List.forall₂_map_left_iff]
  have literalBuilds : ∀ build ∈ builds, IsLiteral (directoryOf home tree build.1) :=
    fun build member =>
      literal _ (List.mem_map_of_mem (f := Prod.fst) (List.mem_map_of_mem member))
  refine ((List.forall₂_and_left _ _).mpr ⟨literalBuilds, gives⟩).imp ?_
  rintro build part ⟨literalHere, givesPart⟩
  refine ⟨?_, givesPart.entries⟩
  rw [directoryOf_of_standsFor givesPart.directory] at literalHere ⊢
  exact standsFor_of_isLiteral literalHere home (writtenOut home tree)

/--
Named directories are transparent.  A document whose build keys are all literal is read alike with
every table of names, and with none, be it accepted or refused.  A document that is accepted gives
the same configuration once its directories are written out, if they are distinct and literal.
-/
theorem configuration_transparent_to_names
    (home : String) :
    (∀ tree other,
        AlikeBesideNames tree other →
          (∀ key ∈ buildKeys tree, IsLiteral key) →
            configuration home tree = configuration home other) ∧
      ∀ tree config,
        configuration home tree = .ok config →
          (writtenKeys home tree).Nodup →
            (∀ key ∈ writtenKeys home tree, IsLiteral key) →
              configuration home (writtenOut home tree) = .ok config := by
  constructor
  · intro tree other alike literal
    have sameBuilds := alike "builds" (by decide)
    have sameField : objectField tree "builds" "root" = objectField other "builds" "root" := by
      rw [objectField, objectField, field_congr sameBuilds]
    rw [configuration, configuration, ← sameField]
    cases read : objectField tree "builds" "root" with
    | error fault =>
        rfl
    | ok builds =>
        have are := objectField_eq_ok_iff.mp read
        rw [buildKeys, are] at literal
        exact addBuilds_of_isLiteral literal _ _ (.empty .simplified)
  · intro tree config accepted distinct literal
    obtain ⟨sections, placed, has, read, performed⟩ := configuration_eq_ok_iff.mp accepted
    have hasWritten := hasSections_writtenOut has distinct literal
    exact configuration_eq_ok_iff.mpr ⟨sections, placed, hasWritten, read, performed⟩

/-- A document with some value for its table, and a literal key between two others. -/
def tabledDocument
    (table : Json.Value)
    (first last : String) :
    Json.Value :=
  let entry : Json.Value :=
    .object
      [ ("functors", .text "/f"), ("argmap", .object [("mapper", .text "linear")]),
        ("analyzer", .text "/a"), ("cubes", .text "/c"), ("flavors", .array []) ]
  let part (key : String) : Json.Value := .object [("items", .object [(key, entry)])]
  .object
    [ ("directories", table),
      ("builds", .object [(first, part "k"), ("/z", part "k"), (last, part "l")]) ]

/-- A table with a directory below the home directory. -/
def homeTable : Json.Value :=
  .object [("a", .text "~/x"), ("b", .text "/y")]

/-- The configuration that is read with the table. -/
def tabledConfiguration : Configuration :=
  let item (key : String) : Item :=
    { Item.plain key (.uniform "/f") (.mapped (.empty .linear)) with
      analyzerDirectory := "/a"
      profileDirectory := "/c" }
  ⟨.simplified,
    [⟨"/home/x", none, [item "k"]⟩, ⟨"/z", none, [item "k"]⟩, ⟨"/y", none, [item "l"]⟩], [],
    .empty⟩

/-- With its names written out, the document is read alike, even if its table is broken then. -/
theorem configuration_transparent_to_names_homeTable :
    configuration "/home" (tabledDocument homeTable "%a" "%b") = .ok tabledConfiguration ∧
      writtenOut "/home" (tabledDocument homeTable "%a" "%b") =
        tabledDocument homeTable "/home/x" "/y" ∧
      configuration "/home" (tabledDocument homeTable "/home/x" "/y") = .ok tabledConfiguration ∧
      configuration "/home" (tabledDocument homeTable "/home/x" "/y") =
        configuration "/home" (tabledDocument (.number (.integer 42)) "/home/x" "/y") := by
  have accepted :
      configuration "/home" (tabledDocument homeTable "%a" "%b") = .ok tabledConfiguration := by
    decide +kernel
  have written :
      writtenOut "/home" (tabledDocument homeTable "%a" "%b") =
        tabledDocument homeTable "/home/x" "/y" := by
    decide +kernel
  have alike :
      AlikeBesideNames (tabledDocument homeTable "/home/x" "/y")
        (tabledDocument (.number (.integer 42)) "/home/x" "/y") := by
    intro name other
    simp [tabledDocument, Json.Value.get?, List.lookup_cons, beq_eq_false_iff_ne.mpr other]
  have readWritten :=
    (configuration_transparent_to_names "/home").2 _ _ accepted (by decide +kernel)
      (by decide +kernel)
  rw [written] at readWritten
  exact ⟨accepted, written, readWritten,
    (configuration_transparent_to_names "/home").1 _ _ alike (by decide +kernel)⟩

end Document.Simplified

end BenchmarkOrchestration
