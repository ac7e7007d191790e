import Mathlib.Data.List.Basic
import StringScript.CommandLine.Run

/-!
# The limit that the settings give

A line of settings either gives its setting a value or changes nothing. So each setting in a file is
that of its last line with a valid one. The environment comes before the file, and the command line
before both.
-/

namespace StringScript

namespace Config

/-- The limit that a line of settings gives, if there is one in it and it is valid. -/
def lineLimit? (line : List Char) : Option Nat :=
  let setting := Text.trim line
  if setting.head? = some '#' then none
  else
    match Text.cutAt? '=' setting with
    | none => none
    | some (name, value) =>
      if String.ofList (Text.trim name) = "max_iterations" then Text.signedCount? (Text.trim value)
      else none

/-- The last valid limit in the lines of a text. -/
def textLimit? (text : String) : Option Nat :=
  ((Text.lines text.toList).filterMap lineLimit?).getLast?

/-- The settings after an attempt to change them. -/
def orKeep (config : Config) (changed : Except SettingFault Config) : Config :=
  changed.toOption.getD config

theorem maxIterations_orKeep_set (config : Config) (name value : String) :
    (config.orKeep (config.set name value)).maxIterations =
      (if name = "max_iterations" then Text.signedCount? value.toList else none).getD
        config.maxIterations := by
  unfold set
  by_cases hlimit : name = "max_iterations"
  · rw [if_pos hlimit, if_pos hlimit]
    cases Text.signedCount? value.toList <;> rfl
  · rw [if_neg hlimit, if_neg hlimit]
    by_cases hlog : name = "log"
    · rw [if_pos hlog]
      rfl
    · rw [if_neg hlog]
      rfl

/-- The name and the value of the setting in a line, if there is one. -/
def setting? (line : List Char) : Option (String × String) :=
  if (Text.trim line).head? = some '#' then none
  else
    (Text.cutAt? '=' (Text.trim line)).map fun (name, value) =>
      (.ofList (Text.trim name), .ofList (Text.trim value))

variable {config : Config}

theorem applyLine_eq (line : List Char) :
    config.applyLine line =
      match setting? line with
      | some (name, value) => config.set name value
      | none =>
        if Text.trim line = [] ∨ (Text.trim line).head? = some '#' then .ok config
        else .error (.noSetting (.ofList (Text.trim line))) := by
  unfold applyLine setting?
  generalize Text.trim line = trimmed
  split
  · rfl
  · rfl
  · next hblank hcomment =>
      have hhead : trimmed.head? ≠ some '#' := by
        intro hhead
        exact hcomment _ (List.cons_head?_tail hhead).symm
      rw [if_neg hhead]
      cases Text.cutAt? '=' trimmed with
      | none =>
          dsimp only [Option.map_none]
          rw [if_neg (not_or.mpr ⟨hblank, hhead⟩)]
      | some parts => rfl

theorem orKeep_applyLine (line : List Char) :
    config.orKeep (config.applyLine line) =
      ((setting? line).map fun setting => config.orKeep (config.set setting.1 setting.2)).getD
        config := by
  rw [applyLine_eq]
  cases setting? line with
  | none =>
      dsimp only
      split <;> rfl
  | some setting => rfl

theorem applyLines_cons (number : Nat) (line : List Char) (rest : List (Nat × List Char)) :
    (config.applyLines ((number, line) :: rest)).1 =
      ((config.orKeep (config.applyLine line)).applyLines rest).1 := by
  rw [applyLines]
  cases config.applyLine line <;> rfl

/-! ### The last line counts -/

section LastLine

variable {α : Type} {part : Config → α} {given? : String → String → Option α}

theorem part_orKeep_applyLine
    (hset : ∀ config name value, part (orKeep config (config.set name value)) =
      (given? name value).getD (part config)) (line : List Char) :
    part (config.orKeep (config.applyLine line)) =
      ((setting? line).bind fun setting => given? setting.1 setting.2).getD (part config) := by
  rw [orKeep_applyLine]
  cases setting? line with
  | none => rfl
  | some setting => exact hset config setting.1 setting.2

/-- **The last line counts.** A part of the settings that each line either gives or leaves as it was
is what the last line says that gives it. -/
theorem part_applyText
    (hset : ∀ config name value, part (orKeep config (config.set name value)) =
      (given? name value).getD (part config)) (text : String) :
    part (config.applyText text).1 =
      ((Text.lines text.toList).filterMap fun line =>
        (setting? line).bind fun setting => given? setting.1 setting.2).getLast?.getD
          (part config) := by
  rw [applyText, ← Text.map_snd_numberedLines]
  generalize Text.numberedLines text.toList = lines
  induction lines generalizing config with
  | nil => rfl
  | cons line rest ih =>
      rw [applyLines_cons, ih, part_orKeep_applyLine hset, List.map_cons, List.filterMap_cons]
      cases (setting? line.2).bind fun setting => given? setting.1 setting.2 with
      | none => rfl
      | some given =>
          dsimp only
          rw [List.getLast?_cons]
          rfl

end LastLine

theorem lineLimit?_eq_bind (line : List Char) :
    lineLimit? line = (setting? line).bind fun setting =>
      if setting.1 = "max_iterations" then Text.signedCount? setting.2.toList else none := by
  unfold lineLimit? setting?
  by_cases hcomment : (Text.trim line).head? = some '#'
  · rw [if_pos hcomment, if_pos hcomment]
    rfl
  · rw [if_neg hcomment, if_neg hcomment]
    cases Text.cutAt? '=' (Text.trim line) with
    | none => rfl
    | some parts => simp

theorem maxIterations_applyText (text : String) :
    (config.applyText text).1.maxIterations = (textLimit? text).getD config.maxIterations := by
  rw [part_applyText maxIterations_orKeep_set, textLimit?, funext lineLimit?_eq_bind]

theorem maxIterations_applyEnvironment (environment : String → Option String) :
    (config.applyEnvironment environment).1.maxIterations =
      ((environment ConfigError.limitVariable).bind fun value =>
        Text.signedCount? (Text.trim value.toList)).getD config.maxIterations := by
  unfold applyEnvironment
  cases environment ConfigError.limitVariable with
  | none => rfl
  | some value =>
      have hset := config.maxIterations_orKeep_set "max_iterations"
        (.ofList (Text.trim value.toList))
      rw [if_pos rfl, String.toList_ofList] at hset
      rw [Option.bind_some, ← hset]
      dsimp only
      cases config.set "max_iterations" (.ofList (Text.trim value.toList)) <;> rfl

end Config

namespace CommandLine

/-- The limit in the environment, if it is valid. -/
def environmentLimit? (s : Surroundings) : Option Nat :=
  (s.environment "STRINGS68_MAX_ITERATIONS").bind fun value =>
    Text.signedCount? (Text.trim value.toList)

/-- The limit in the settings file that is chosen, if that can be read. -/
def fileLimit? (s : Surroundings) (choice : SettingsFile) : Option Nat :=
  (settingsPath? s choice).bind fun path => (s.readText path).toOption.bind Config.textLimit?

/-- The limit of a run: of the first that gives one among the command line, the environment and the
settings file. -/
def limit (s : Surroundings) (args : Arguments) : Nat :=
  (args.maxIterations <|> environmentLimit? s <|> fileLimit? s args.settings).getD 10000

theorem maxIterations_fileSettings (s : Surroundings) (choice : SettingsFile) :
    (fileSettings s choice).1.maxIterations = (fileLimit? s choice).getD 10000 := by
  unfold fileSettings fileLimit?
  cases settingsPath? s choice with
  | none => rfl
  | some path =>
      rw [Option.bind_some]
      dsimp only
      cases s.readText path with
      | error e => rfl
      | ok text => exact Config.maxIterations_applyText text

theorem maxIterations_settings (s : Surroundings) (args : Arguments) :
    (settings s args).1.maxIterations = limit s args := by
  unfold settings limit
  cases args.maxIterations with
  | some count => rfl
  | none =>
      calc ((fileSettings s args.settings).1.applyEnvironment s.environment).1.maxIterations
        _ = (environmentLimit? s).getD (fileSettings s args.settings).1.maxIterations :=
            Config.maxIterations_applyEnvironment s.environment
        _ = (environmentLimit? s).getD ((fileLimit? s args.settings).getD 10000) := by
            rw [maxIterations_fileSettings]
        _ = (environmentLimit? s <|> fileLimit? s args.settings).getD 10000 := by
            cases environmentLimit? s <;> rfl

end CommandLine

end StringScript
