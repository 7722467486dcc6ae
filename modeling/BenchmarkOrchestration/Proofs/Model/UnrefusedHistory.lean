import BenchmarkOrchestration.Proofs.Model.History

namespace BenchmarkOrchestration

/-!
# Histories without a refusal

Who cannot go on after a refusal performs the operations of a history up to the first that is
refused.  The end is reached exactly if no directory would get two items of one name.  The
configuration is then the one that the whole history leads to, and it has every item that was to be
added.
-/

namespace Operation

/-- The operation that adds an item to a directory. -/
def adding
    (placed : String × Item) :
    Operation :=
  .addItem placed.1 placed.2

/-- Adding items adds these items. -/
@[simp] theorem filterMap_addition?_map_adding
    (placed : List (String × Item)) :
    (placed.map adding).filterMap addition? = placed := by
  rw [List.filterMap_map]
  exact List.filterMap_some

/-- Adding items registers their directories. -/
@[simp] theorem filterMap_directory?_map_adding
    (placed : List (String × Item)) :
    (placed.map adding).filterMap directory? = placed.map Prod.fst := by
  rw [List.filterMap_map]
  exact congrFun (List.filterMap_eq_map' (f := Prod.fst)) placed

end Operation

namespace Configuration

/-- What the first of several contributes comes before what the others do. -/
theorem filterMap_cons_eq_append
    (contribution? : α → Option β)
    (first : α)
    (rest : List α) :
    (first :: rest).filterMap contribution? =
      (contribution? first).toList ++ rest.filterMap contribution? := by
  cases shape : contribution? first <;> simp [shape]

/-- Perform the operations of a history one after the other, up to the first that is refused. -/
def performUntilRefused :
    Configuration → List Operation → Except DocumentFault Configuration
  | config, [] => .ok config
  | config, operation :: rest =>
      match config.perform operation with
      | (.ok (), after) => after.performUntilRefused rest
      | (.error fault, _) => .error fault

/-- An addition comes first, and the rest is performed if it is not refused. -/
theorem performUntilRefused_addItem
    (config : Configuration)
    (directory : String)
    (item : Item)
    (rest : List Operation) :
    config.performUntilRefused (.addItem directory item :: rest) =
      config.addItem directory item >>= fun added => added.performUntilRefused rest := by
  rw [performUntilRefused, perform, addItem]
  rcases config.putItem directory item with ⟨⟨fault⟩ | ⟨⟩, after⟩ <;> rfl

/-- A history in two parts is performed part after part. -/
theorem performUntilRefused_append
    (config : Configuration)
    (first second : List Operation) :
    config.performUntilRefused (first ++ second) =
      config.performUntilRefused first >>= fun after => after.performUntilRefused second := by
  induction first generalizing config with
  | nil =>
      rfl
  | cons operation rest inductionHypothesis =>
      rw [List.cons_append, performUntilRefused, performUntilRefused]
      rcases config.perform operation with ⟨⟨fault⟩ | ⟨⟩, after⟩
      · rfl
      · exact inductionHypothesis after

/-- Without a refusal the result is that of the whole history. -/
theorem eq_performAll_of_performUntilRefused
    {config result : Configuration}
    {history : List Operation}
    (performed : config.performUntilRefused history = .ok result) :
    result = config.performAll history := by
  induction history generalizing config with
  | nil =>
      exact (Except.ok.inj performed).symm
  | cons operation rest inductionHypothesis =>
      rw [performUntilRefused] at performed
      split at performed
      · rename_i after accepted
        rw [inductionHypothesis performed, performAll, performAll, List.foldl_cons, accepted]
      · cases performed

/-- An operation is refused exactly if it adds an item under a name that its build already has. -/
theorem perform_refused_iff
    {config : Configuration}
    {operation : Operation} :
    (∃ fault, (config.perform operation).1 = .error fault) ↔
      ∃ directory item,
        operation.addition? = some (directory, item) ∧
          config.hasItem directory item.name = true := by
  cases operation with
  | addBuild directory label =>
      cases label <;> simp [perform, Operation.addition?]
  | addItem directory item =>
      rw [perform, putItem_eq]
      by_cases present : config.hasItem directory item.name = true
      · simp [Operation.addition?, present]
      · simp [Operation.addition?, present]
  | setGlobalFlavors flavors =>
      simp [perform, Operation.addition?]
  | setGlobalSubmitter flavor submitter =>
      simp [perform, Operation.addition?]

/-- An operation that is not refused adds what it was to add. -/
theorem accepted_of_perform
    {config : Configuration}
    {operation : Operation}
    (performed : (config.perform operation).1 = .ok ()) :
    config.accepted operation = operation.addition?.toList := by
  rw [accepted, performed]

/-- No directory has two items of one name exactly if no pair of a directory and a name recurs. -/
theorem forall_nodup_itemsIn_iff
    {placed : List (String × Item)} :
    (∀ directory, ((itemsIn directory placed).map Item.name).Nodup) ↔
      (placed.map fun entry => (entry.1, entry.2.name)).Nodup := by
  simp only [itemsIn, List.Nodup, List.pairwise_map, List.pairwise_filter, decide_eq_true_eq]
  simp only [List.pairwise_iff_forall_sublist]
  constructor
  · intro distinct first second inOrder same
    obtain ⟨sameDirectory, sameName⟩ := Prod.mk.inj same
    exact distinct second.1 inOrder sameDirectory rfl sameName
  · intro distinct directory first second inOrder firstHere secondHere sameName
    apply distinct inOrder
    rw [firstHere, secondHere, sameName]

namespace Records

variable
  {config : Configuration}
  {registered : List String}
  {added : List (String × Item)}

/-- Without a refusal, everything that was to be added is recorded. -/
theorem performUntilRefused
    (records : Records config registered added)
    {history : List Operation}
    {result : Configuration}
    (performed : config.performUntilRefused history = .ok result) :
    Records result
      (registered ++ history.filterMap Operation.directory?)
      (added ++ history.filterMap Operation.addition?) := by
  induction history generalizing config registered added with
  | nil =>
      cases performed
      simpa using records
  | cons operation rest inductionHypothesis =>
      rw [Configuration.performUntilRefused] at performed
      split at performed
      · rename_i after accepted
        have here := records.perform operation
        rw [accepted_of_perform (by rw [accepted]), accepted] at here
        have later := inductionHypothesis here performed
        rw [filterMap_cons_eq_append, filterMap_cons_eq_append, ← List.append_assoc,
          ← List.append_assoc]
        exact later
      · cases performed

/-- An addition after others of distinct names is refused if its name is among theirs. -/
theorem not_nodup_of_hasItem
    (records : Records config registered added)
    {directory : String}
    {item : Item}
    (present : config.hasItem directory item.name = true)
    (later : List (String × Item)) :
    ¬ ((itemsIn directory (added ++ (directory, item) :: later)).map Item.name).Nodup := by
  obtain ⟨earlier, member, sameName⟩ := records.hasItem_iff.mp present
  intro distinct
  have split :
      itemsIn directory (added ++ (directory, item) :: later) =
        itemsIn directory added ++ item :: itemsIn directory later := by
    simp [itemsIn]
  rw [split, List.map_append, List.map_cons, List.nodup_append] at distinct
  have earlierName : item.name ∈ (itemsIn directory added).map Item.name :=
    List.mem_map.mpr ⟨earlier, mem_itemsIn.mpr member, sameName⟩
  exact distinct.2.2 _ earlierName _ List.mem_cons_self rfl

/-- The end of a history is reached exactly if no directory would get two items of one name. -/
theorem exists_performUntilRefused_iff
    (records : Records config registered added)
    (history : List Operation) :
    (∃ result, config.performUntilRefused history = .ok result) ↔
      ∀ directory,
        ((itemsIn directory (added ++ history.filterMap Operation.addition?)).map
          Item.name).Nodup := by
  constructor
  · rintro ⟨result, performed⟩
    exact (records.performUntilRefused performed).names
  · intro distinct
    induction history generalizing config registered added with
    | nil =>
        exact ⟨config, rfl⟩
    | cons operation rest inductionHypothesis =>
        -- Were the operation refused, its directory would have the name twice in the end.
        have unrefused : (config.perform operation).1 = .ok () := by
          cases answer : (config.perform operation).1 with
          | ok _ =>
              rfl
          | error fault =>
              obtain ⟨directory, item, adding, present⟩ :=
                perform_refused_iff.mp ⟨fault, answer⟩
              have here := distinct directory
              rw [filterMap_cons_eq_append, adding] at here
              exact absurd here (records.not_nodup_of_hasItem present _)
        have here := records.perform operation
        rw [accepted_of_perform unrefused] at here
        simp only [filterMap_cons_eq_append, ← List.append_assoc] at distinct
        obtain ⟨result, performed⟩ := inductionHypothesis here distinct
        refine ⟨result, ?_⟩
        rw [Configuration.performUntilRefused]
        rcases step : config.perform operation with ⟨answer, after⟩
        rw [step] at unrefused performed
        dsimp only at unrefused
        subst unrefused
        exact performed

end Records

end Configuration

end BenchmarkOrchestration
