import WildcardDiff.Proofs.Settings.Writing
import WildcardDiff.Yaml.Basic

/-!
# Changes of layers

Settings change by calls that set a value, load a tree or a file, or clear sources. Each
of them may fail, and a run goes on after a failure with what the failed call left
behind. Every call either does all that it is asked to or changes nothing at all, and
what it does stays within the sources that it names. The defaults are therefore in their
place after every run that does not set or load them, and clearing leads back to them.
-/

namespace WildcardDiff
namespace Settings

/-- Why a change fails. -/
inductive ChangeError
  | tree (error : TreeError)
  | load (error : LoadError)
  deriving DecidableEq

/-- What changes layers and may fail. What it changed before it failed stays changed. -/
abbrev Changing (α : Type) :=
  ExceptT ChangeError (StateM Layers) α

/-- Leave what an attempt leaves, and fail if it stopped early. -/
def Changing.leave (attempt : Attempt Layers) : Changing Unit := do
  set attempt.left
  match attempt.failure with
  | none => pure ()
  | some error => throw (.tree error)

/-- A call that changes layers. A file is looked for among the files of its moment, and
is read as YAML. -/
inductive Change
  | set (source : Source) (key : Text) (value : Value)
  | load (source : Source) (tree : Value)
  | loadFile (source : Source) (reader : Reader) (files : Files) (name : Text)
  | clear (source : Source)
  | clearAll

namespace Change

/-- Take the steps of a call. -/
def perform : Change → Changing Unit
  | .set source key value => do
      Changing.leave ((← get).write source (Path.ofKey key) value)
  | .load source tree => modify fun layers => layers.load source tree
  | .loadFile source reader files name => do
      match treeOfFile reader files name with
      | .error error => throw (.load error)
      | .ok tree => modify fun layers => layers.load source tree
  | .clear source => modify fun layers => layers.clear source
  | .clearAll => modify Layers.clearAll

/-- Whether a call names a source. -/
def Names : Change → Source → Prop
  | .set named _ _, source => source = named
  | .load named _, source => source = named
  | .loadFile named _ _ _, source => source = named
  | .clear named, source => source = named
  | .clearAll, source => source ≠ .compiledDefaults

/-- Whether a call does not set or load the defaults. It may be asked to clear them. -/
def SparesDefaults : Change → Prop
  | .set source _ _ => source ≠ .compiledDefaults
  | .load source _ => source ≠ .compiledDefaults
  | .loadFile source _ _ _ => source ≠ .compiledDefaults
  | .clear _ => True
  | .clearAll => True

/-- Only by clearing them a call can name the defaults and spare them. -/
theorem SparesDefaults.not_names_or_clear
    {change : Change}
    (spares : change.SparesDefaults) :
    ¬change.Names .compiledDefaults ∨ change = .clear .compiledDefaults := by
  cases change with
  | set | load | loadFile => exact .inl (Ne.symm spares)
  | clear source =>
      by_cases same : source = .compiledDefaults
      · exact .inr (congrArg clear same)
      · exact .inl (Ne.symm same)
  | clearAll => exact .inl fun names => names rfl

end Change

/-- Whether clearing a source leaves another one alone, as it does the defaults in any
case. -/
def Source.leaves (cleared source : Source) : Bool :=
  source = .compiledDefaults || source ≠ cleared

/-- The sources that are left when one is cleared, in descending order. -/
def Source.remaining (cleared : Source) : List Source :=
  descending.filter cleared.leaves

namespace Layers

variable {layers : Layers} {change : Change} {path : Path}

/-- How a call ends. -/
def outcome (layers : Layers) (change : Change) : Except ChangeError Unit :=
  (change.perform.run.run layers).1

/-- The layers that a call leaves behind, even if it fails. -/
def after (layers : Layers) (change : Change) : Layers :=
  (change.perform.run.run layers).2

/-- The layers after a run of calls. -/
def afterAll (layers : Layers) (changes : List Change) : Layers :=
  changes.foldl after layers

/-- The layers that a call is asked for, unless it fails. -/
def changed (layers : Layers) : Change → Except ChangeError Layers
  | .set source key value => (layers.set source (Path.ofKey key) value).mapError .tree
  | .load source tree => .ok (layers.load source tree)
  | .loadFile source reader files name =>
      (layers.loadFile reader files name source).mapError .load
  | .clear source => .ok (layers.clear source)
  | .clearAll => .ok layers.clearAll

/-- The value at a path, with the first of some sources that has one. -/
def findAmong
    (layers : Layers)
    (sources : List Source)
    (path : Path) : Option (Value × Source) :=
  sources.findSome? fun source =>
    ((layers.layer source).bind fun tree => tree.at? path).map fun value =>
      (value, source)

/-! ## One call -/

/-- A call does all that it is asked to, or fails and changes nothing. -/
theorem run_perform (layers : Layers) (change : Change) :
    change.perform.run.run layers =
      match layers.changed change with
      | .ok changed => (.ok (), changed)
      | .error error => (.error error, layers) := by
  cases change with
  | set source key value =>
      have steps : (Change.set source key value).perform.run.run layers =
          (Changing.leave (layers.write source (Path.ofKey key) value)).run.run
            layers := rfl
      dsimp only [changed, Layers.set]
      rw [steps]
      cases written : layers.write source (Path.ofKey key) value with
      | mk left failure =>
          cases failure with
          | none => rfl
          | some error =>
              -- Only here a call stops halfway. What stopped the writing was there
              -- before.
              have failed :
                  (layers.write source (Path.ofKey key) value).failure ≠ none := by
                rw [written]
                exact Option.some_ne_none error
              have kept : left = layers := by
                simpa only [written] using left_write_of_failure failed
              rw [kept]
              rfl
  | loadFile source reader files name =>
      dsimp only [changed, Layers.loadFile, Change.perform]
      cases treeOfFile reader files name <;> rfl
  | load source tree => rfl
  | clear source => rfl
  | clearAll => rfl

theorem after_of_changed {changed : Layers} (done : layers.changed change = .ok changed) :
    layers.after change = changed := by
  rw [after, run_perform, done]

theorem changed_of_outcome
    {error : ChangeError}
    (failed : layers.outcome change = .error error) :
    layers.changed change = .error error := by
  rw [outcome, run_perform] at failed
  cases ends : layers.changed change with
  | ok changed =>
      rw [ends] at failed
      cases failed
  | error found =>
      rw [ends] at failed
      rw [Except.error.inj failed]

theorem after_of_not_changed
    {error : ChangeError}
    (failed : layers.changed change = .error error) :
    layers.after change = layers := by
  rw [after, run_perform, failed]

/-- A call that succeeds changes only what it names. -/
theorem layer_changed_of_not_names
    {changed : Layers}
    (done : layers.changed change = .ok changed)
    {source : Source}
    (other : ¬change.Names source) :
    changed.layer source = layers.layer source := by
  cases change with
  | set named key value =>
      have succeeds := mapError_eq_ok_iff.mp done
      dsimp only [Layers.set] at succeeds
      split at succeeds
      · obtain rfl := Except.ok.inj succeeds
        exact if_neg other
      · cases succeeds
  | load named tree =>
      obtain rfl := Except.ok.inj done
      exact if_neg other
  | loadFile named reader files name =>
      obtain ⟨tree, -, rfl⟩ := exists_load_of_loadFile (mapError_eq_ok_iff.mp done)
      exact if_neg other
  | clear named =>
      obtain rfl := Except.ok.inj done
      rw [Layers.clear]
      split
      · rfl
      · exact if_neg other
  | clearAll =>
      obtain rfl := Except.ok.inj done
      exact if_pos (not_not.mp other)

/-- A call changes only what it names, whether it fails or not. -/
theorem layer_after_of_not_names {source : Source} (other : ¬change.Names source) :
    (layers.after change).layer source = layers.layer source := by
  cases ends : layers.changed change with
  | ok changed =>
      rw [after_of_changed ends]
      exact layer_changed_of_not_names ends other
  | error error => rw [after_of_not_changed ends]

/-- A failed call changes nothing. -/
theorem after_of_outcome
    {error : ChangeError}
    (failed : layers.outcome change = .error error) :
    layers.after change = layers :=
  after_of_not_changed (changed_of_outcome failed)

/-- The defaults do not change even if they are cleared. -/
theorem HasDefaults.after (has : layers.HasDefaults) (spares : change.SparesDefaults) :
    (layers.after change).HasDefaults := by
  obtain other | rfl := spares.not_names_or_clear
  · exact (layer_after_of_not_names other).trans has
  · exact has

/-! ## Runs -/

theorem HasDefaults.afterAll
    {changes : List Change}
    (has : layers.HasDefaults)
    (spare : ∀ change ∈ changes, change.SparesDefaults) :
    (layers.afterAll changes).HasDefaults := by
  induction changes generalizing layers with
  | nil => exact has
  | cons change changes inductionHypothesis =>
      rw [List.forall_mem_cons] at spare
      exact inductionHypothesis (has.after spare.1) spare.2

/-! ## Clearing -/

theorem layer_clear (layers : Layers) (cleared source : Source) :
    (layers.clear cleared).layer source =
      if cleared.leaves source then layers.layer source else none := by
  unfold clear Source.leaves
  by_cases same : source = cleared
  · subst same
    by_cases defaults : source = .compiledDefaults <;> simp [defaults]
  · by_cases defaults : cleared = .compiledDefaults <;> simp [defaults, same]

/-- What is read among some sources after one is cleared is read without it. -/
theorem findAmong_clear
    (layers : Layers)
    (cleared : Source)
    (sources : List Source)
    (path : Path) :
    (layers.clear cleared).findAmong sources path =
      layers.findAmong (sources.filter cleared.leaves) path := by
  induction sources with
  | nil => rfl
  | cons source sources inductionHypothesis =>
      unfold findAmong at inductionHypothesis ⊢
      rw [List.findSome?_cons, inductionHypothesis, layer_clear, List.filter_cons]
      cases cleared.leaves source <;> rfl

/-- What is read after a source is cleared is read from the sources that are left. -/
theorem find?_clear (layers : Layers) (cleared : Source) (path : Path) :
    (layers.clear cleared).find? path = layers.findAmong cleared.remaining path :=
  findAmong_clear layers cleared Source.descending path

/-- Clearing everything leads back to the defaults alone. -/
theorem HasDefaults.clearAll (has : layers.HasDefaults) : layers.clearAll = initial := by
  refine congrArg Layers.mk (funext fun source => ?_)
  change _ = if source = .compiledDefaults then some defaults else none
  split
  · rename_i same
    rw [same]
    exact has
  · rfl

/-- A run of calls on settings that were built from the defaults alone, none of which
sets or loads the defaults. Every call of the run leaves the defaults in their place and
all sources that it does not name as they were, and nothing changes if it fails. After a
source is cleared, every setting is read from the sources that are left, and after all
of them are cleared, it is read as at the beginning, as is the merged view. -/
theorem run_changes_what_it_names
    {reader : Reader}
    {files : Files}
    {built : Layers}
    (alone : Layers.build reader files none none none = .ok built)
    {changes : List Change}
    (spare : ∀ change ∈ changes, change.SparesDefaults) :
    (built.afterAll changes).layer .compiledDefaults = some defaults ∧
      ∀ earlier change later, changes = earlier ++ change :: later →
        ∃ before, built.afterAll earlier = before ∧
          (before.after change).layer .compiledDefaults = some defaults ∧
          (∀ source, ¬change.Names source →
            (before.after change).layer source = before.layer source) ∧
          (∀ error, before.outcome change = .error error → before.after change = before) ∧
          (∀ source, change = .clear source → ∀ path,
            (before.after change).find? path = before.findAmong source.remaining path ∧
              (before.after change).get? path =
                (before.findAmong source.remaining path).map Prod.fst) ∧
          (change = .clearAll →
            (∀ path, (before.after change).get? path = built.get? path ∧
              (before.after change).find? path = built.find? path) ∧
            (before.after change).merged = built.merged) := by
  obtain rfl := Except.ok.inj alone
  refine ⟨hasDefaults_initial.afterAll spare, ?_⟩
  rintro earlier change later rfl
  obtain ⟨spareEarlier, spareLater⟩ := List.forall_mem_append.mp spare
  have has : (initial.afterAll earlier).HasDefaults :=
    hasDefaults_initial.afterAll spareEarlier
  refine ⟨_, rfl, has.after (List.forall_mem_cons.mp spareLater).1,
    fun _ other => layer_after_of_not_names other, fun _ failed =>
      after_of_outcome failed, ?_, ?_⟩
  · rintro source rfl path
    have read := find?_clear (initial.afterAll earlier) source path
    exact ⟨read, congrArg (Option.map Prod.fst) read⟩
  · rintro rfl
    have reset : (initial.afterAll earlier).after .clearAll = initial := has.clearAll
    rw [reset]
    exact ⟨fun _ => ⟨rfl, rfl⟩, rfl⟩

/-- A value that cannot be set where the section for patterns is a null. -/
def refused : Change :=
  .set .userConfig Setting.escapeCharacter.key (.text "~")

/-- A file that is not there. -/
def missing : Change :=
  .loadFile .userConfig Yaml.value ⟨[], []⟩ "settings.yaml".toList

/-- A user's settings are loaded, two calls on them fail, and then they are cleared, as
is all. -/
def attempts : List Change :=
  [.load .userConfig (group [(Setting.root, group [("pattern", .null)])]), refused,
    missing, .clear .userConfig, .clearAll]

theorem run_changes_what_it_names_attempts :
    (∀ change ∈ attempts, change.SparesDefaults) ∧
      (emptied.outcome refused = .error (.tree .notAssignable) ∧
        emptied.after refused = emptied) ∧
      (emptied.outcome missing = .error (.load (.notFound "settings.yaml".toList)) ∧
        emptied.after missing = emptied) ∧
      emptied.find? [Setting.root, "pattern"] = some (.null, .userConfig) ∧
      (initial.afterAll (attempts.take 4)).find? [Setting.root, "pattern"] =
        emptied.findAmong Source.userConfig.remaining [Setting.root, "pattern"] ∧
      (initial.afterAll attempts).merged = initial.merged := by
  have spare : ∀ change ∈ attempts, change.SparesDefaults := by
    simp [attempts, refused, missing, Change.SparesDefaults]
  have alone : Layers.build Yaml.value ⟨[], []⟩ none none none = .ok initial := rfl
  obtain ⟨-, each⟩ := run_changes_what_it_names alone spare
  obtain ⟨_, rfl, -, -, refusal, -, -⟩ :=
    each (attempts.take 1) refused (attempts.drop 2) rfl
  have kept : emptied.after refused = emptied := refusal _ rfl
  have second : initial.afterAll (attempts.take 2) = emptied := kept
  obtain ⟨_, rfl, -, -, miss, -, -⟩ :=
    each (attempts.take 2) missing (attempts.drop 3) rfl
  rw [second] at miss
  obtain ⟨_, rfl, -, -, -, clear, -⟩ := each (attempts.take 3) _ (attempts.drop 4) rfl
  have third : initial.afterAll (attempts.take 3) = emptied := by
    change (initial.afterAll (attempts.take 2)).after missing = emptied
    rw [second, miss _ rfl]
  rw [third] at clear
  have fourth : initial.afterAll (attempts.take 4) = emptied.after (.clear .userConfig) :=
    congrArg (fun layers => after layers (.clear .userConfig)) third
  obtain ⟨_, rfl, -, -, -, -, reset⟩ := each (attempts.take 4) _ [] rfl
  refine ⟨spare, ⟨rfl, kept⟩, ⟨rfl, miss _ rfl⟩, rfl, ?_, (reset rfl).2⟩
  rw [fourth]
  exact (clear .userConfig rfl _).1

end Layers
end Settings
end WildcardDiff
