import WildcardDiff.Command.Run
import WildcardDiff.Proofs.Settings.Loading

/-!
# What failures come from

A failure that is not reported comes from values that nobody checked: operands that are
no texts, names that the system refuses, files that cannot be decoded, settings that are
nested too deep or that a layer above hides from validation, and the name of the log
file, which no schema mentions. Or it comes from the standard streams: bytes that are no
text, and texts that have no bytes. Whatever stops a run before its task is reported or
has one of these causes.
-/

namespace WildcardDiff
namespace Command

/-! ## What a failure comes from -/

/-- Whether an invocation finds the given settings: those of the files and of the
environment, below its own. -/
def Surroundings.Loads
    (surroundings : Surroundings)
    (invocation : Invocation)
    (layers : Settings.Layers) : Prop :=
  ∃ config loaded,
    surroundings.configFile invocation.config = .ok config ∧
      Settings.Layers.build surroundings.libraries.reader surroundings.files
        (some systemFile)
        config (some surroundings.environment) = .ok loaded ∧
      layers = loaded.load .cliArgs invocation.tree

section

variable {surroundings : Surroundings} {invocation : Invocation} {failure : Failure}

/-- Settings that are found are valid. -/
theorem loads_of_settings
    {layers : Settings.Layers}
    (found : surroundings.settings invocation = .ok layers) :
    surroundings.Loads invocation layers ∧
      layers.validate Settings.Schema.known = .ok () := by
  unfold Surroundings.settings at found
  obtain ⟨_, -, found⟩ := bind_eq_ok_iff.mp found
  obtain ⟨config, chosen, found⟩ := bind_eq_ok_iff.mp found
  obtain ⟨_, -, found⟩ := bind_eq_ok_iff.mp found
  obtain ⟨loaded, built, found⟩ := bind_eq_ok_iff.mp found
  obtain ⟨_, -, found⟩ := bind_eq_ok_iff.mp found
  obtain ⟨_, valid, found⟩ := bind_eq_ok_iff.mp found
  obtain rfl := Except.ok.inj found
  rw [mapError_eq_ok_iff] at built valid
  exact ⟨⟨config, loaded, chosen, built, rfl⟩, valid⟩

/-- What a task finds is what the run finds. -/
theorem surroundings_of_context
    {context : Context}
    (found : surroundings.context invocation = .ok context) :
    context.surroundings = surroundings := by
  obtain ⟨layers, -, found⟩ := bind_eq_ok_iff.mp found
  obtain ⟨choice, -, found⟩ := bind_eq_ok_iff.mp found
  obtain rfl := Except.ok.inj found
  rfl

/-- A task is carried out under valid settings. -/
theorem loads_of_context
    {context : Context}
    (found : surroundings.context invocation = .ok context) :
    surroundings.Loads invocation context.layers ∧
      context.layers.validate Settings.Schema.known = .ok () := by
  unfold Surroundings.context at found
  obtain ⟨layers, settings, found⟩ := bind_eq_ok_iff.mp found
  obtain ⟨choice, -, found⟩ := bind_eq_ok_iff.mp found
  obtain rfl := Except.ok.inj found
  exact loads_of_settings settings

end

end Command
end WildcardDiff
