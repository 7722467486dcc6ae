import BenchmarkOrchestration.Loading.Loader
import BenchmarkOrchestration.Proofs.Document.Results
import Mathlib.Data.List.Induction

namespace BenchmarkOrchestration

/-!
# What a loader remembers

A loader is used again and again while files around it are written and removed.  It remembers, for
every path, what the first successful load of an equal path gave, and nothing else: a path that was
not loaded with success is read from the files as they are.
-/

namespace Loader

/-- The answer of a load, without the loader after it. -/
def answer
    (loader : Loader)
    (files : FileTree)
    (here : Location)
    (path : String) :
    Except Failure Configuration :=
  (loader.load files here path).1

section

variable
  {loader : Loader}
  {files : FileTree}
  {here : Location}
  {path other : String}
  {config : Configuration}

/-- Equal paths have the same memory. -/
theorem cached?_congr
    (same : Path.key other = Path.key path) :
    loader.cached? other = loader.cached? path := by
  rw [cached?, cached?, same]

/-- What is remembered is the answer; otherwise the path is read. -/
theorem answer_eq
    (loader : Loader)
    (files : FileTree)
    (here : Location)
    (path : String) :
    loader.answer files here path =
      match loader.cached? path with
      | some config => .ok config
      | none => loader.read files here path := by
  rw [answer, load]
  cases loader.cached? path with
  | some config =>
      rfl
  | none =>
      cases loader.read files here path <;> rfl

/-- A path that is remembered is loaded without any change of the loader. -/
theorem load_of_cached
    (known : loader.cached? path = some config) :
    loader.load files here path = (.ok config, loader) := by
  rw [load, known]

/-- A failed load leaves the loader as it is. -/
theorem load_of_error
    {failure : Failure}
    (failed : loader.answer files here path = .error failure) :
    (loader.load files here path).2 = loader := by
  cases known : loader.cached? path with
  | some config =>
      rw [load_of_cached known]
  | none =>
      have refused : loader.read files here path = .error failure := by
        rw [answer_eq, known] at failed
        exact failed
      rw [load, known]
      simp only [refused]

theorem parse_load
    (loader : Loader)
    (files : FileTree)
    (here : Location)
    (path : String) :
    (loader.load files here path).2.parse = loader.parse := by
  rw [load]
  cases loader.cached? path with
  | some config =>
      rfl
  | none =>
      cases loader.read files here path <;> rfl

/-- After a load its path, and every equal one, is remembered as the load answered. -/
theorem cached?_load_of_same
    (same : Path.key other = Path.key path) :
    (loader.load files here path).2.cached? other =
      (loader.answer files here path).toOption := by
  cases known : loader.cached? path with
  | some config =>
      rw [answer, load_of_cached known, cached?_congr same, known]
      rfl
  | none =>
      rw [answer_eq, known, load, known]
      cases loader.read files here path with
      | error failure =>
          rw [cached?_congr same, known]
          rfl
      | ok config =>
          simp [cached?, same, Except.toOption]

/-- A load changes the memory of no other path. -/
theorem cached?_load_of_different
    (different : Path.key other ≠ Path.key path) :
    (loader.load files here path).2.cached? other = loader.cached? other := by
  rw [load]
  cases loader.cached? path with
  | some config =>
      rfl
  | none =>
      cases loader.read files here path with
      | error failure =>
          rfl
      | ok config =>
          simp [cached?, List.lookup_cons, beq_eq_false_iff_ne.mpr different]

/-- What is remembered of a path stays remembered, whatever is loaded. -/
theorem cached?_load_of_cached
    (known : loader.cached? other = some config) :
    (loader.load files here path).2.cached? other = some config := by
  by_cases same : Path.key other = Path.key path
  · have pathKnown : loader.cached? path = some config := by
      rw [← cached?_congr same, known]
    rw [load_of_cached pathKnown, known]
  · rw [cached?_load_of_different same, known]

end

/-- A use of a loader, or a change of the files around it by writing or removing anything. -/
inductive Use where
  | load (path : String)
  | ask (path : String)
  | alter (change : FileTree → FileTree)

/-- A loader, the files around it and the directory in use. -/
structure Site where
  loader : Loader
  files : FileTree
  here : Location

namespace Site

/-- A loader with a parser that is still fresh. -/
def fresh
    (parse : Json.Value → Except DocumentFault Configuration)
    (files : FileTree)
    (here : Location) :
    Site :=
  ⟨.fresh parse, files, here⟩

/-- The answer to a load of a path. -/
def answer
    (site : Site)
    (path : String) :
    Except Failure Configuration :=
  site.loader.answer site.files site.here path

/-- Whether the loader says that a path was loaded. -/
def isCached
    (site : Site)
    (path : String) :
    Bool :=
  site.loader.isCached path

/-- The site after a use; asking whether a path was loaded changes nothing. -/
def perform
    (site : Site) :
    Use → Site
  | .load path => { site with loader := (site.loader.load site.files site.here path).2 }
  | .ask _ => site
  | .alter change => { site with files := change site.files }

/-- The site after several uses. -/
def after
    (site : Site)
    (history : List Use) :
    Site :=
  history.foldl perform site

theorem after_cons
    (site : Site)
    (use : Use)
    (history : List Use) :
    site.after (use :: history) = (site.perform use).after history :=
  rfl

theorem after_append
    (site : Site)
    (earlier later : List Use) :
    site.after (earlier ++ later) = (site.after earlier).after later :=
  List.foldl_append

/-- A load of a path equal to the given one succeeded in the course of a history. -/
def Succeeded
    (site : Site)
    (history : List Use)
    (path : String)
    (config : Configuration) :
    Prop :=
  ∃ earlier other later,
    history = earlier ++ .load other :: later ∧
      Path.key other = Path.key path ∧
      (site.after earlier).answer other = .ok config

/-- What succeeded in a history succeeded in a longer one. -/
theorem Succeeded.append
    {site : Site}
    {history : List Use}
    {path : String}
    {config : Configuration}
    (succeeded : site.Succeeded history path config)
    (rest : List Use) :
    site.Succeeded (history ++ rest) path config := by
  obtain ⟨earlier, other, later, rfl, same, loaded⟩ := succeeded
  exact ⟨earlier, other, later ++ rest, by simp, same, loaded⟩

theorem parse_after
    (site : Site)
    (history : List Use) :
    (site.after history).loader.parse = site.loader.parse := by
  induction history generalizing site with
  | nil =>
      rfl
  | cons use rest inductionHypothesis =>
      rw [after_cons, inductionHypothesis]
      cases use with
      | load path =>
          exact parse_load site.loader site.files site.here path
      | ask path =>
          rfl
      | alter change =>
          rfl

theorem here_after
    (site : Site)
    (history : List Use) :
    (site.after history).here = site.here := by
  induction history generalizing site with
  | nil =>
      rfl
  | cons use rest inductionHypothesis =>
      rw [after_cons, inductionHypothesis]
      cases use <;> rfl

/-- What is remembered stays remembered. -/
theorem cached?_after_of_cached
    {site : Site}
    {path : String}
    {config : Configuration}
    (known : site.loader.cached? path = some config)
    (history : List Use) :
    (site.after history).loader.cached? path = some config := by
  induction history generalizing site with
  | nil =>
      exact known
  | cons use rest inductionHypothesis =>
      rw [after_cons]
      apply inductionHypothesis
      cases use with
      | load other =>
          exact cached?_load_of_cached known
      | ask other =>
          exact known
      | alter change =>
          exact known

/-- A successful load of a path is remembered for every equal path. -/
theorem cached?_perform_load
    {site : Site}
    {path other : String}
    {config : Configuration}
    (loaded : site.answer path = .ok config)
    (same : Path.key other = Path.key path) :
    (site.perform (.load path)).loader.cached? other = some config := by
  rw [perform, cached?_load_of_same same]
  rw [answer] at loaded
  rw [loaded]
  rfl

/-- What is remembered of a path after a use was remembered before, or the use loaded it. -/
theorem cached?_perform
    {site : Site}
    {use : Use}
    {path : String}
    {config : Configuration}
    (known : (site.perform use).loader.cached? path = some config) :
    site.loader.cached? path = some config ∨
      ∃ other, use = .load other ∧ Path.key other = Path.key path ∧
        site.answer other = .ok config := by
  cases use with
  | load other =>
      by_cases same : Path.key path = Path.key other
      · rw [perform, cached?_load_of_same same] at known
        exact .inr ⟨other, rfl, same.symm, Document.toOption_eq_some_iff.mp known⟩
      · rw [perform, cached?_load_of_different same] at known
        exact .inl known
  | ask other =>
      exact .inl known
  | alter change =>
      exact .inl known

/-- A configuration is remembered for a path exactly if a load of an equal path gave it. -/
theorem cached?_after_eq_some_iff
    {parse : Json.Value → Except DocumentFault Configuration}
    {files : FileTree}
    {here : Location}
    {history : List Use}
    {path : String}
    {config : Configuration} :
    ((fresh parse files here).after history).loader.cached? path = some config ↔
      (fresh parse files here).Succeeded history path config := by
  constructor
  · intro known
    -- By induction from the end: either the last use loaded the path, or it was known before.
    induction history using List.reverseRecOn with
    | nil =>
        cases known
    | append_singleton earlier use inductionHypothesis =>
        rw [after_append] at known
        rcases cached?_perform known with before | ⟨other, rfl, same, loaded⟩
        · exact (inductionHypothesis before).append [use]
        · exact ⟨earlier, other, [], rfl, same, loaded⟩
  · rintro ⟨earlier, other, later, rfl, same, loaded⟩
    rw [after_append, after_cons]
    exact cached?_after_of_cached (cached?_perform_load loaded same.symm) later

/-- Two sites agree but for what their loaders remember of one path. -/
structure AgreesExcept
    (key : Path.Key)
    (first second : Site) :
    Prop where
  files : first.files = second.files
  here : first.here = second.here
  parse : first.loader.parse = second.loader.parse
  cached : ∀ path, Path.key path ≠ key → first.loader.cached? path = second.loader.cached? path

namespace AgreesExcept

variable
  {key : Path.Key}
  {first second : Site}

/-- A load makes a difference for its own path only. -/
theorem of_load
    (site : Site)
    (path : String) :
    AgreesExcept (Path.key path) (site.perform (.load path)) site where
  files := rfl
  here := rfl
  parse := parse_load site.loader site.files site.here path
  cached := by
    intro other different
    exact cached?_load_of_different different

/-- Other paths are answered alike. -/
theorem answer_eq
    (agrees : AgreesExcept key first second)
    {path : String}
    (different : Path.key path ≠ key) :
    first.answer path = second.answer path := by
  rw [answer, answer, Loader.answer_eq, Loader.answer_eq, agrees.cached path different, read, read,
    agrees.files, agrees.here, agrees.parse]

/-- The same use leads to sites that agree again. -/
theorem perform
    (agrees : AgreesExcept key first second)
    (use : Use) :
    AgreesExcept key (first.perform use) (second.perform use) := by
  cases use with
  | ask path =>
      exact agrees
  | alter change =>
      exact {
        files := congrArg change agrees.files
        here := agrees.here
        parse := agrees.parse
        cached := agrees.cached }
  | load path =>
      -- Both loads may answer differently for the excepted path, and then change only its memory.
      refine ⟨agrees.files, agrees.here, ?_, ?_⟩
      · simp only [Site.perform, parse_load, agrees.parse]
      · intro other different
        by_cases same : Path.key other = Path.key path
        · have answers := agrees.answer_eq (same ▸ different)
          simp only [answer] at answers
          simp only [Site.perform, cached?_load_of_same same, answers]
        · simp only [Site.perform, cached?_load_of_different same]
          exact agrees.cached other different

/-- So do the same uses one after the other. -/
theorem after
    (agrees : AgreesExcept key first second)
    (history : List Use) :
    AgreesExcept key (first.after history) (second.after history) := by
  induction history generalizing first second with
  | nil =>
      exact agrees
  | cons use rest inductionHypothesis =>
      exact inductionHypothesis (agrees.perform use)

end AgreesExcept

/--
What a loader remembers at the end of a history.  A load that succeeds is the answer for equal
paths from then on, a load that fails leaves no trace, and a load makes no difference to other
paths.  A path that was not loaded with success is read from the files as they are.
-/
structure RemembersLoads
    (parse : Json.Value → Except DocumentFault Configuration)
    (start : Site)
    (history : List Use) :
    Prop where
  lasting :
    ∀ path config, (start.after history).answer path = .ok config →
      ∀ later other, Path.key other = Path.key path →
        ((start.after history).after (.load path :: later)).answer other = .ok config
  failureForgotten :
    ∀ path failure, (start.after history).answer path = .error failure →
      ∀ later,
        (start.after history).after (.load path :: later) = (start.after history).after later
  independent :
    ∀ path other, Path.key other ≠ Path.key path →
      ∀ later,
        ((start.after history).after (.load path :: later)).answer other =
            ((start.after history).after later).answer other ∧
          ((start.after history).after (.load path :: later)).isCached other =
            ((start.after history).after later).isCached other
  isCached_iff :
    ∀ path, (start.after history).isCached path = true ↔
      ∃ config, start.Succeeded history path config
  cachedAnswer :
    ∀ path config, start.Succeeded history path config →
      (start.after history).answer path = .ok config
  unreadable :
    ∀ path, (start.after history).isCached path = false →
      ∀ fault, (start.after history).files.readText start.here path = .error fault →
        (start.after history).answer path = .error (.document (.unreadable path fault.message))
  malformed :
    ∀ path, (start.after history).isCached path = false →
      ∀ text, (start.after history).files.readText start.here path = .ok text →
        Json.read? text = none →
          (start.after history).answer path = .error .malformed
  parsed :
    ∀ path, (start.after history).isCached path = false →
      ∀ text document, (start.after history).files.readText start.here path = .ok text →
        Json.read? text = some document →
          (start.after history).answer path = (parse document).mapError Failure.document

/-- A path without memory is answered by reading it. -/
theorem answer_of_not_isCached
    {site : Site}
    {path : String}
    (unknown : site.isCached path = false) :
    site.answer path = site.loader.read site.files site.here path := by
  have forgotten : site.loader.cached? path = none := by
    simpa [isCached, Loader.isCached] using unknown
  rw [answer, Loader.answer_eq, forgotten]

/-- A remembered path is answered from memory. -/
theorem answer_of_cached
    {site : Site}
    {path : String}
    {config : Configuration}
    (known : site.loader.cached? path = some config) :
    site.answer path = .ok config := by
  rw [answer, Loader.answer_eq, known]

/--
Whatever its parser, and whatever happens to the files, a loader remembers exactly its successful
loads.
-/
theorem after_remembersLoads
    (parse : Json.Value → Except DocumentFault Configuration)
    (files : FileTree)
    (here : Location)
    (history : List Use) :
    RemembersLoads parse (fresh parse files here) history where
  lasting := by
    intro path config loaded later other same
    rw [after_cons]
    apply answer_of_cached
    exact cached?_after_of_cached (cached?_perform_load loaded same) later
  failureForgotten := by
    intro path failure failed later
    rw [after_cons, perform, load_of_error failed]
  independent := by
    intro path other different later
    have agrees := (AgreesExcept.of_load ((fresh parse files here).after history) path).after later
    refine ⟨agrees.answer_eq different, ?_⟩
    rw [after_cons, isCached, isCached, Loader.isCached, Loader.isCached,
      agrees.cached other different]
  isCached_iff := by
    intro path
    simp only [isCached, Loader.isCached, Option.isSome_iff_exists, cached?_after_eq_some_iff]
  cachedAnswer := by
    intro path config succeeded
    exact answer_of_cached (cached?_after_eq_some_iff.mpr succeeded)
  unreadable := by
    intro path unknown fault unread
    rw [answer_of_not_isCached unknown, read, here_after, unread]
  malformed := by
    intro path unknown text content broken
    rw [answer_of_not_isCached unknown, read, here_after, content]
    simp only [broken]
  parsed := by
    intro path unknown text document content document_read
    have parser : ((fresh parse files here).after history).loader.parse = parse :=
      parse_after (fresh parse files here) history
    rw [answer_of_not_isCached unknown, read, here_after, content]
    simp only [document_read, parser]
    cases parse document <;> rfl

/-- Another spelling of a path is answered from memory after the file was removed. -/
example (config : Configuration) :
    let files := FileTree.bare.put ["tmp", "c.json"] (.file "{}".toUTF8 false)
    let removed : Use := .alter fun files => files.removePath [] "/tmp/c.json"
    ((fresh (fun _ => .ok config) files []).after [.load "/tmp/c.json", removed]).answer
        "/tmp//./c.json" =
      .ok config := by
  rfl

end Site

end Loader

end BenchmarkOrchestration
