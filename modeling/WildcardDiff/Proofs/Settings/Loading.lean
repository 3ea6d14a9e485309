import WildcardDiff.Settings.Loading
import WildcardDiff.Proofs.Settings.Validation

/-!
# What loading and validation come to

Every tree that is loaded is a mapping, so the settings always have a merged view. Loading
fails for the sake of one file, and validation fails without a message only if the escape
setting is of a kind that the merged view does not show.
-/

namespace WildcardDiff
namespace Settings

variable {reader : Reader} {files : Files} {layers : Layers}

/-! ## Loading -/

theorem isMapping_of_treeOfText
    {file content : Text}
    {tree : Value}
    (read : treeOfText reader file content = .ok tree) :
    tree.isMapping = true := by
  unfold treeOfText at read
  obtain ⟨value, -, kept⟩ := bind_eq_ok_iff.mp read
  split at kept
  · rename_i mapping
    obtain rfl := Except.ok.inj kept
    exact mapping
  · cases kept

theorem isMapping_of_treeOfFile
    {name : Text}
    {tree : Value}
    (read : treeOfFile reader files name = .ok tree) :
    tree.isMapping = true := by
  unfold treeOfFile at read
  split at read
  · cases read
  · dsimp only at read
    split at read
    · cases read
    · obtain ⟨⟨place, file⟩, -, read⟩ := bind_eq_ok_iff.mp read
      cases file with
      | text content => exact isMapping_of_treeOfText read
      | device => exact isMapping_of_treeOfText read
      | directory => cases read
      | bytes => cases read

namespace Layers

theorem OnlyMappings.load
    (only : layers.OnlyMappings)
    {tree : Value}
    (mapping : tree.isMapping = true)
    (source : Source) :
    (layers.load source tree).OnlyMappings := by
  intro other held found
  unfold Layers.load at found
  rw [layer_replace] at found
  split at found
  · obtain rfl := Option.some.inj found
    exact mapping
  · exact only other held found

/-- Whether the defaults are in their place. -/
def HasDefaults (layers : Layers) : Prop :=
  layers.layer .compiledDefaults = some defaults

theorem hasDefaults_initial : initial.HasDefaults := rfl

theorem HasDefaults.load
    (has : layers.HasDefaults)
    {source : Source}
    (other : source ≠ .compiledDefaults)
    (tree : Value) :
    (layers.load source tree).HasDefaults := by
  unfold HasDefaults Layers.load
  rw [layer_replace, if_neg other.symm]
  exact has

/-- Whether loading a mapping keeps a property of layers, for any source but the
defaults. -/
def Keeps (good : Layers → Prop) : Prop :=
  ∀ (layers : Layers) (source : Source) (tree : Value), good layers →
    tree.isMapping = true → source ≠ .compiledDefaults → good (layers.load source tree)

theorem keeps_hasDefaults : Keeps HasDefaults :=
  fun _ _ tree has _ other => has.load other tree

variable {good : Layers → Prop}

theorem exists_load_of_loadFile
    {name : Text}
    {source : Source}
    {loaded : Layers}
    (loads : layers.loadFile reader files name source = .ok loaded) :
    ∃ tree, treeOfFile reader files name = .ok tree ∧
      layers.load source tree = loaded := by
  unfold loadFile at loads
  cases read : treeOfFile reader files name with
  | error error =>
      rw [read] at loads
      cases loads
  | ok tree =>
      rw [read] at loads
      exact ⟨tree, rfl, Except.ok.inj loads⟩

theorem Keeps.loadFile
    (keeps : Keeps good)
    (holds : good layers)
    {name : Text}
    {source : Source}
    (other : source ≠ .compiledDefaults)
    {loaded : Layers}
    (loads : layers.loadFile reader files name source = .ok loaded) :
    good loaded := by
  obtain ⟨tree, read, rfl⟩ := exists_load_of_loadFile loads
  exact keeps layers source tree holds (isMapping_of_treeOfFile read) other

theorem Keeps.loadEnvironment
    (keeps : Keeps good)
    (holds : good layers)
    (environment : Environment) :
    good (layers.loadEnvironment environment) := by
  unfold Layers.loadEnvironment
  cases found : environment.tree? with
  | none => exact holds
  | some tree =>
      refine keeps layers .environment tree holds ?_ (by decide)
      unfold Environment.tree? at found
      dsimp only at found
      split at found
      · obtain rfl := Option.some.inj found
        rfl
      · cases found

/-- The defaults, with the settings of a system file if it is there. -/
def ofSystemFile
    (reader : Reader)
    (files : Files)
    (systemFile : Option Text) : Except LoadError Layers :=
  match systemFile.filter (· ≠ []) with
  | some name =>
      isFile files name >>= fun there =>
        if there then initial.loadFile reader files name .systemConfig else .ok initial
  | none => .ok initial

/-- Layers with the settings of a chosen file. -/
def loadChosen
    (layers : Layers)
    (reader : Reader)
    (files : Files)
    (chosenFile : Option Text) : Except LoadError Layers :=
  match chosenFile.filter (· ≠ []) with
  | some name => layers.loadFile reader files name .userConfig
  | none => .ok layers

/-- Settings are built in three steps, the last of which cannot fail. -/
theorem build_eq
    {systemFile chosenFile : Option Text}
    {environment : Option Environment} :
    build reader files systemFile chosenFile environment =
      ofSystemFile reader files systemFile >>= fun withSystem =>
        withSystem.loadChosen reader files chosenFile >>= fun withChosen =>
          .ok (environment.elim withChosen withChosen.loadEnvironment) := by
  unfold build ofSystemFile loadChosen
  dsimp only
  cases systemFile.filter (· ≠ []) with
  | none => cases chosenFile.filter (· ≠ []) <;> cases environment <;> rfl
  | some name =>
      dsimp only
      cases isFile files name with
      | error error => rfl
      | ok there =>
          cases there <;> cases chosenFile.filter (· ≠ []) <;> cases environment <;> rfl

theorem Keeps.loadChosen
    (keeps : Keeps good)
    (holds : good layers)
    {chosenFile : Option Text}
    {loaded : Layers}
    (loads : layers.loadChosen reader files chosenFile = .ok loaded) :
    good loaded := by
  unfold Layers.loadChosen at loads
  split at loads
  · exact keeps.loadFile holds (by decide) loads
  · obtain rfl := Except.ok.inj loads
    exact holds

theorem Keeps.ofSystemFile
    (keeps : Keeps good)
    (holds : good initial)
    {systemFile : Option Text}
    (loads : ofSystemFile reader files systemFile = .ok layers) :
    good layers := by
  unfold Layers.ofSystemFile at loads
  split at loads
  · obtain ⟨there, -, loads⟩ := bind_eq_ok_iff.mp loads
    split at loads
    · exact keeps.loadFile holds (by decide) loads
    · obtain rfl := Except.ok.inj loads
      exact holds
  · obtain rfl := Except.ok.inj loads
    exact holds

/-- A property that loading keeps is one of all settings that are built. -/
theorem Keeps.build
    (keeps : Keeps good)
    (holds : good initial)
    {systemFile chosenFile : Option Text}
    {environment : Option Environment}
    (built : build reader files systemFile chosenFile environment = .ok layers) :
    good layers := by
  rw [build_eq] at built
  obtain ⟨withSystem, systemLoaded, built⟩ := bind_eq_ok_iff.mp built
  obtain ⟨withChosen, chosenLoaded, built⟩ := bind_eq_ok_iff.mp built
  obtain rfl := Except.ok.inj built
  have kept := keeps.loadChosen (keeps.ofSystemFile holds systemLoaded) chosenLoaded
  cases environment with
  | none => exact kept
  | some entries => exact keeps.loadEnvironment kept entries

/-- Settings that are built have the defaults below all others. -/
theorem hasDefaults_build
    {systemFile chosenFile : Option Text}
    {environment : Option Environment}
    (built : build reader files systemFile chosenFile environment = .ok layers) :
    layers.HasDefaults :=
  keeps_hasDefaults.build hasDefaults_initial built

/-- With the defaults in their place every setting has a value, so that the one for an
absent setting does not count. -/
theorem HasDefaults.choose_eq
    (has : layers.HasDefaults)
    (setting : Setting)
    (absent other : Value) :
    layers.choose setting absent = layers.choose setting other := by
  have default : (defaults.at? setting.path).isSome = true := by cases setting <;> rfl
  have found : (layers.find? setting.path).isSome = true := by
    unfold find?
    rw [List.findSome?_isSome_iff]
    refine ⟨.compiledDefaults, by decide, ?_⟩
    rw [has]
    simpa using default
  obtain ⟨value, same⟩ := Option.isSome_iff_exists.mp found
  unfold choose get?
  rw [same]
  rfl

end Layers

/-! ## Validation -/

namespace Schema

mutual

/-- A value that does not follow a schema is reported. -/
theorem isSome_message?_of_check
    {key : Text}
    {schema : Schema}
    {value : Value}
    {error : Invalid}
    (failed : check key schema value = .error error) :
    error.message?.isSome = true := by
  cases schema with
  | kind wanted =>
      rw [check] at failed
      split at failed
      · cases failed
      · obtain rfl := Except.error.inj failed
        rfl
  | entries wanted =>
      cases value with
      | mapping found =>
          rw [check] at failed
          exact isSome_message?_of_checkEntries failed
      | _ =>
          obtain rfl := Except.error.inj failed
          rfl

/-- Entries that do not follow a schema are reported. -/
theorem isSome_message?_of_checkEntries
    {path : Text}
    {schema : List (String × Schema)}
    {found : Entries}
    {error : Invalid}
    (failed : checkEntries path schema found = .error error) :
    error.message?.isSome = true := by
  cases schema with
  | nil => cases failed
  | cons first rest =>
      rcases first with ⟨name, wanted⟩
      rw [checkEntries] at failed
      split at failed
      · exact isSome_message?_of_checkEntries failed
      · exact isSome_message?_of_checkEntries failed
      · rcases bind_eq_error_iff.mp failed with failed | ⟨_, -, failed⟩
        · exact isSome_message?_of_check failed
        · exact isSome_message?_of_checkEntries failed

end

end Schema

namespace Layers

/-- Whether a setting is read as a value of another kind than a text, which a layer above
hides from the merged view. -/
def Hides (layers : Layers) (setting : Setting) : Prop :=
  ¬ layers.Exposes setting.path ∧
    ∃ value, layers.get? setting.path = some value ∧ value ≠ .null ∧
      Kind.text.admits value = false

end Layers
end Settings
end WildcardDiff
