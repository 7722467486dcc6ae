import BenchmarkOrchestration.Proofs.Model.Settings
import BenchmarkOrchestration.Proofs.Orchestration.BuildCourse
import BenchmarkOrchestration.Proofs.System.ProcessVariables
import BenchmarkOrchestration.Recording.Recorder

namespace BenchmarkOrchestration

/-!
# Options in the environment

Functors and commands of a build see its options as variables.  Options are kept by their keys, and
keys that differ in case only are spellings of one variable.  They are listed in their order, so that
a process sees what was set last for the greatest spelling, even if another one was set later.  Only
a variable with one spelling is sure to have the value that was set last.
-/

namespace BuildSettings

/-- The same settings with options set one after the other. -/
def withOptions
    (settings : BuildSettings)
    (calls : List (String × String)) :
    BuildSettings :=
  calls.foldl (fun settings call => settings.withOption call.1 call.2) settings

/-- What options are set to from the beginning on: the default compiler comes first. -/
def optionsSet
    (calls : List (String × String)) :
    List (String × String) :=
  ("compiler", defaultCompiler) :: calls

/-- After some calls an option has what was set last, or what it had before. -/
theorem get?_withOptions
    (settings : BuildSettings)
    (calls : List (String × String))
    (key : String) :
    (settings.withOptions calls).options.get? key =
      (lastSet? calls key).or (settings.options.get? key) := by
  induction calls using List.reverseRecOn with
  | nil =>
      rfl
  | append_singleton before call inductionHypothesis =>
      have last :
          (settings.withOptions (before ++ [call])).options =
            (settings.withOptions before).options.insert call.1 call.2 := by
        rw [withOptions, List.foldl_append]
        rfl
      rw [last, SortedTable.get?_insert, lastSet?_append_singleton, inductionHypothesis]
      by_cases same : key = call.1
      · rw [if_pos same, if_pos same, Option.some_or]
      · rw [if_neg same, if_neg same]

/-- The options of a build are what was set last from the beginning on. -/
theorem get?_standard_withOptions
    (calls : List (String × String))
    (key : String) :
    (standard.withOptions calls).options.get? key = lastSet? (optionsSet calls) key := by
  have first : standard.options.get? key = lastSet? [("compiler", defaultCompiler)] key := rfl
  rw [get?_withOptions, first, ← lastSet?_append]
  rfl

end BuildSettings

namespace FunctorContext

variable {context : FunctorContext}

/-- An option is there exactly if its key is listed. -/
theorem isSome_get?_iff
    {key : String} :
    (context.options.get? key).isSome ↔ ∃ entry ∈ context.options.entries, entry.1 = key := by
  rw [SortedTable.get?, List.lookup_isSome_iff]
  simp only [beq_iff_eq, eq_comm (a := key)]

/-- The keys of options ascend, so that the greatest of some keys is the last of them. -/
theorem last_iff_greatest_of_split
    {before after : List (String × String)}
    {key value : String}
    (name : String)
    (split : context.options.entries = before ++ (key, value) :: after) :
    context.options.get? key = some value ∧
      ((∀ entry ∈ after, variableName entry.1 ≠ name) ↔
        ∀ other, (context.options.get? other).isSome → variableName other = name → other ≤ key) := by
  have ascending := context.options.ascending
  rw [split, List.pairwise_append, List.pairwise_cons] at ascending
  obtain ⟨_, ⟨later, _⟩, earlier⟩ := ascending
  have smaller : ∀ entry ∈ before, entry.1 < key :=
    fun entry member => earlier entry member (key, value) List.mem_cons_self
  refine ⟨?_, ?_, ?_⟩
  · refine List.lookup_eq_some_iff.mpr ⟨before, after, split, ?_⟩
    intro entry member
    exact bne_iff_ne.mpr (String.ne_of_lt (smaller entry member)).symm
  · intro behind other known same
    obtain ⟨entry, member, rfl⟩ := isSome_get?_iff.mp known
    rw [split, List.mem_append, List.mem_cons] at member
    -- Keys in front are smaller, and those behind are no spellings of the variable.
    rcases member with inFront | rfl | inBack
    · exact String.not_lt.mp (String.lt_asymm (smaller entry inFront))
    · exact String.le_refl _
    · exact absurd same (behind entry inBack)
  · intro greatest entry inBack same
    have known : (context.options.get? entry.1).isSome := by
      refine isSome_get?_iff.mpr ⟨entry, ?_, rfl⟩
      rw [split]
      exact List.mem_append_right _ (List.mem_cons_of_mem _ inBack)
    exact String.not_lt.mpr (greatest entry.1 known same) (later entry inBack)

/-- A variable has the text of the greatest of its keys. -/
theorem lastSet?_environment_eq_some_iff
    {name value : String} :
    lastSet? context.environment name = some value ↔
      ∃ key,
        context.options.get? key = some value ∧
          variableName key = name ∧
          ∀ other, (context.options.get? other).isSome → variableName other = name →
            other ≤ key := by
  rw [lastSet?_eq_some_iff]
  constructor
  · rintro ⟨pairsBefore, pairsAfter, pairs, unset⟩
    obtain ⟨before, behind, entries, _, shape⟩ := List.map_eq_append_iff.mp pairs
    obtain ⟨⟨key, _⟩, after, rfl, same, rfl⟩ := List.map_eq_cons_iff.mp shape
    obtain ⟨spells, rfl⟩ := Prod.mk.inj same
    obtain ⟨has, last⟩ := last_iff_greatest_of_split name entries
    refine ⟨key, has, spells, last.mp ?_⟩
    intro entry member same
    exact unset (List.mem_map.mpr ⟨_, List.mem_map_of_mem member, same⟩)
  · rintro ⟨key, has, rfl, greatest⟩
    obtain ⟨before, after, entries, _⟩ := List.lookup_eq_some_iff.mp has
    have last := (last_iff_greatest_of_split (variableName key) entries).2.mpr greatest
    refine
      ⟨before.map fun entry => (variableName entry.1, entry.2),
        after.map fun entry => (variableName entry.1, entry.2), ?_, ?_⟩
    · rw [environment, entries, List.map_append, List.map_cons]
    · rw [List.map_map]
      intro listed
      obtain ⟨entry, member, same⟩ := List.mem_map.mp listed
      exact last entry member same

end FunctorContext

namespace BuildSettings

/-- The keys for a variable among those that are set. -/
def spellings
    (calls : List (String × String))
    (name : String) :
    List String :=
  ((optionsSet calls).map Prod.fst).filter fun key => FunctorContext.variableName key = name

/-- What a variable is set to last, under whatever spelling. -/
def setLast?
    (calls : List (String × String))
    (name : String) :
    Option String :=
  lastSet? ((optionsSet calls).map fun call => (FunctorContext.variableName call.1, call.2)) name

/-- How an environment carries the options that were set. -/
structure CarriesOptions
    (calls : List (String × String))
    (environment : List (String × String)) :
    Prop where
  greatest :
    ∀ name value,
      lastSet? environment name = some value ↔
        ∃ key ∈ spellings calls name,
          (∀ other ∈ spellings calls name, other ≤ key) ∧
            lastSet? (optionsSet calls) key = some value
  spelledAlike :
    ∀ name,
      (∀ key ∈ spellings calls name, ∀ other ∈ spellings calls name, key = other) →
        lastSet? environment name = setLast? calls name
  seen :
    ∀ (machine : Machine) (name value : String),
      lastSet? environment name = some value →
        (machine.environmentWith environment).lookup (Octets.ofText name) =
          some (Octets.ofText value)

/-- A spelling of a variable is the key of an option for it. -/
theorem mem_spellings_iff
    {calls : List (String × String)}
    {name key : String} :
    key ∈ spellings calls name ↔
      ((standard.withOptions calls).options.get? key).isSome ∧
        FunctorContext.variableName key = name := by
  have set : key ∈ (optionsSet calls).map Prod.fst ↔ (lastSet? (optionsSet calls) key).isSome := by
    rw [Option.isSome_iff_ne_none, ne_eq, lastSet?_eq_none_iff, not_not]
  rw [spellings, List.mem_filter, decide_eq_true_iff, set, get?_standard_withOptions]

/-- A variable with one spelling is set to what the option of this key is set to. -/
theorem setLast?_of_spelledAlike
    {calls : List (String × String)}
    {key : String}
    (alike : ∀ other ∈ spellings calls (FunctorContext.variableName key), other = key) :
    setLast? calls (FunctorContext.variableName key) = lastSet? (optionsSet calls) key := by
  have apart :
      ∀ other ∈ (optionsSet calls).reverse.map Prod.fst,
        FunctorContext.variableName other = FunctorContext.variableName key → other = key := by
    intro other listed same
    rw [List.map_reverse, List.mem_reverse] at listed
    exact alike other (List.mem_filter.mpr ⟨listed, decide_eq_true same⟩)
  have renamed := lookup_map_of_forms_apart id apart
  rw [Option.map_id_fun, id_eq, List.map_reverse] at renamed
  exact renamed

/-- A variable without any spelling is never set. -/
theorem setLast?_eq_none
    {calls : List (String × String)}
    {name : String}
    (unspelled : spellings calls name = []) :
    setLast? calls name = none := by
  rw [setLast?, lastSet?_eq_none_iff, List.map_map]
  intro listed
  obtain ⟨call, member, same⟩ := List.mem_map.mp listed
  have spells : call.1 ∈ spellings calls name :=
    List.mem_filter.mpr ⟨List.mem_map_of_mem member, decide_eq_true same⟩
  rw [unspelled] at spells
  exact List.not_mem_nil spells

/-- A variable has what was set last for its greatest spelling. -/
theorem lastSet?_environment_iff_greatest
    {calls : List (String × String)}
    {context : FunctorContext}
    (same : context.options = (standard.withOptions calls).options)
    (name value : String) :
    lastSet? context.environment name = some value ↔
      ∃ key ∈ spellings calls name,
        (∀ other ∈ spellings calls name, other ≤ key) ∧
          lastSet? (optionsSet calls) key = some value := by
  rw [FunctorContext.lastSet?_environment_eq_some_iff, same]
  simp only [mem_spellings_iff, and_imp]
  constructor
  · rintro ⟨key, has, spells, last⟩
    refine ⟨key, ⟨Option.isSome_of_eq_some has, spells⟩, last, ?_⟩
    rw [← has, get?_standard_withOptions]
  · rintro ⟨key, ⟨_, spells⟩, last, has⟩
    refine ⟨key, ?_, spells, last⟩
    rw [get?_standard_withOptions, has]

/-- The options that are set reach the environment of every context that has them. -/
theorem carriesOptions_environment
    {calls : List (String × String)}
    (context : FunctorContext)
    (same : context.options = (standard.withOptions calls).options) :
    CarriesOptions calls context.environment := by
  have greatest := lastSet?_environment_iff_greatest same
  refine ⟨greatest, ?_, ?_⟩
  · intro name alike
    cases spelled : spellings calls name with
    | nil =>
        rw [setLast?_eq_none spelled, Option.eq_none_iff_forall_ne_some]
        intro value has
        obtain ⟨key, spells, _⟩ := (greatest name value).mp has
        rw [spelled] at spells
        exact List.not_mem_nil spells
    | cons key rest =>
        have spells : key ∈ spellings calls name := by
          rw [spelled]
          exact List.mem_cons_self
        obtain ⟨set, rfl⟩ := mem_spellings_iff.mp spells
        obtain ⟨value, has⟩ := Option.isSome_iff_exists.mp set
        rw [get?_standard_withOptions] at has
        rw [setLast?_of_spelledAlike fun other member => alike other member key spells, has]
        refine (greatest _ value).mpr ⟨key, spells, ?_, has⟩
        intro other member
        obtain rfl := alike other member key spells
        exact String.le_refl other
  · intro machine name value has
    rw [Machine.lookup_environmentWith, has]
    rfl

end BuildSettings

/-- What is handed over carries the options that were set, whether to a functor or as a command. -/
def Exchange.CarriesOptions
    (calls : List (String × String)) :
    Exchange ι → Prop
  | .resolved .. => True
  | .invoked _ _ context _ => BuildSettings.CarriesOptions calls context.environment
  | .commanded command _ => BuildSettings.CarriesOptions calls command.environment

/-- Every exchange of a build carries the options of its settings. -/
theorem Build.BuildExchange.carriesOptions
    {settings : BuildSettings}
    {target : Target}
    {exchange : Exchange ι}
    {calls : List (String × String)}
    (within : Build.BuildExchange settings target exchange)
    (same : settings.options = (BuildSettings.standard.withOptions calls).options) :
    exchange.CarriesOptions calls := by
  cases within with
  | lookup directory name answer =>
      exact trivial
  | invocation mode functor answer =>
      exact BuildSettings.carriesOptions_environment (settings.context target) same
  | command directory text answer =>
      exact BuildSettings.carriesOptions_environment (settings.context target) same

namespace Configuration

/-- All builds pass on the options that were set, one by one and in a sweep. -/
structure PassesOptions
    (config : Configuration)
    (calls : List (String × String))
    (settings : BuildSettings)
    (facilities : Facilities σ ι)
    (session : Session σ) :
    Prop where
  build :
    ∀ target, ∃ transcript result,
      RunsAs session (config.buildTarget facilities settings target)
          (config.buildTarget facilities.transcribed settings target) transcript result ∧
        ∀ exchange ∈ transcript, exchange.CarriesOptions calls
  sweep :
    ∃ transcript results,
      RunsAs session (config.buildAll facilities settings)
          (config.buildAll facilities.transcribed settings) transcript results ∧
        ∀ exchange ∈ transcript, exchange.CarriesOptions calls

/-- A build passes on the options of its settings, whatever its target is. -/
theorem buildTarget_follows_carriesOptions
    (config : Configuration)
    {calls : List (String × String)}
    {settings : BuildSettings}
    (same : settings.options = (BuildSettings.standard.withOptions calls).options)
    (facilities : Facilities σ ι)
    (target : Target)
    (state : σ) :
    Follows facilities state (config.buildTarget facilities settings target)
      (config.buildTarget facilities.transcribed settings target)
      fun exchanges _ => ∀ exchange ∈ exchanges, exchange.CarriesOptions calls := by
  refine (buildTarget_follows config facilities state settings target).mono ?_
  intro exchanges result course exchange member
  exact (course.buildExchange exchange member).carriesOptions same

/--
Whatever options are set, every functor that a build invokes and every command that it hands over
sees for each variable what was set last for the greatest spelling of its key.
-/
theorem passesOptions_withOptions
    (config : Configuration)
    (calls : List (String × String))
    (isUninstrumented isDry : Bool)
    (facilities : Facilities σ ι)
    (session : Session σ) :
    config.PassesOptions calls
      { BuildSettings.standard.withOptions calls with isUninstrumented, isDry }
      facilities session := by
  have same :
      ({ BuildSettings.standard.withOptions calls with isUninstrumented, isDry } :
          BuildSettings).options =
        (BuildSettings.standard.withOptions calls).options :=
    rfl
  have eachBuild := config.buildTarget_follows_carriesOptions same facilities
  constructor
  · intro target
    exact (eachBuild target session.state).exists_runsAs
  · exact (Follows.mapM eachBuild config.targets session.state).exists_runsAs

/-- A configuration with one item that is built by passive functors. -/
def passiveConfiguration : Configuration :=
  let item := { Item.plain "k" (.uniform "/f") (.listed []) with flavors := ["ct"] }
  ⟨.simplified, [⟨"/b", none, [item]⟩], [], .empty⟩

/-- A recorder with the passive functors of the item. -/
def passiveRecorder : Recorder where
  functors :=
    [ ((Path.key "/f", "k_ct"), ⟨"k_ct", false, "make", none⟩),
      ((Path.key "/f", "clean_k_ct"), ⟨"clean_k_ct", false, "make clean", none⟩) ]
  calls := []
  commands := []
  stdout := ""
  failing := []
  tree := ⟨[(["b"], .directory), (["b", "k"], .directory)]⟩
  here := []

/-- A compiler that is set under a smaller spelling is not seen, because the default comes behind. -/
theorem defaultCompiler_seen_over_smallerSpelling :
    BuildSettings.setLast? [("COMPILER", "g++")] "PIRA_COMPILER" = some "g++" ∧
      (passiveConfiguration.buildTarget Recorder.facilities
          (BuildSettings.standard.withOptions [("COMPILER", "g++")]) ⟨"/b", "k", "ct"⟩
          (.start passiveRecorder)).2.state.commands.map
        (fun command => (command.text, lastSet? command.environment "PIRA_COMPILER")) =
        [("make clean", some "clang++"), ("make", some "clang++")] := by
  decide +kernel

end Configuration

end BenchmarkOrchestration
