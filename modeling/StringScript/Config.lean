import StringScript.Text.Blank
import StringScript.Text.Line
import StringScript.Text.Numeral
import StringScript.Text.Occurrence

/-!
# Settings

Settings come from a settings file, from the environment and from the command line, each over the
one before. A bad line of a file is reported and changes nothing.
-/

namespace StringScript

structure Config where
  /-- How often the body of a `while` loop may run. -/
  maxIterations : Nat := 10000
  /-- The log filter, for when the environment names none. -/
  log : Option String := none
deriving Repr, DecidableEq, Inhabited

inductive SettingFault
  /-- The line holds no equals sign. -/
  | noSetting (line : String)
  | unknown (name : String)
  | badCount (value : String)
deriving Repr, DecidableEq

def SettingFault.message : SettingFault → String
  | noSetting line => "expected name=value, got '" ++ line ++ "'"
  | unknown name => "unknown setting '" ++ name ++ "'"
  | badCount value => "max_iterations must be a non-negative integer, got '" ++ value ++ "'"

inductive SettingSource
  | line (number : Nat)
  | environment
deriving Repr, DecidableEq

structure ConfigError where
  source : SettingSource
  fault : SettingFault
deriving Repr, DecidableEq

namespace ConfigError

def limitVariable : String := "STRINGS68_MAX_ITERATIONS"

/-- The number of the line; zero for a setting that is in no file. -/
def line (e : ConfigError) : Nat :=
  match e.source with
  | .line number => number
  | .environment => 0

def message (e : ConfigError) : String :=
  match e.source with
  | .line _ => e.fault.message
  | .environment => limitVariable ++ ": " ++ e.fault.message

def describe (e : ConfigError) : String := "line " ++ toString e.line ++ ": " ++ e.message

end ConfigError

namespace Config

def set (config : Config) (name value : String) : Except SettingFault Config :=
  if name = "max_iterations" then
    match Text.signedCount? value.toList with
    | some count => .ok { config with maxIterations := count }
    | none => .error (.badCount value)
  else if name = "log" then .ok { config with log := if value.isEmpty then none else some value }
  else .error (.unknown name)

/-- Applies a line; blank lines and comments change nothing. -/
def applyLine (config : Config) (line : List Char) : Except SettingFault Config :=
  match Text.trim line with
  | [] => .ok config
  | '#' :: _ => .ok config
  | trimmed =>
    match Text.cutAt? '=' trimmed with
    | none => .error (.noSetting (.ofList trimmed))
    | some (name, value) => config.set (.ofList (Text.trim name)) (.ofList (Text.trim value))

def applyLines (config : Config) : List (Nat × List Char) → Config × List ConfigError
  | [] => (config, [])
  | (number, line) :: rest =>
    match config.applyLine line with
    | .ok next => next.applyLines rest
    | .error fault =>
      let (final, errors) := config.applyLines rest
      (final, ⟨.line number, fault⟩ :: errors)

def applyText (config : Config) (text : String) : Config × List ConfigError :=
  config.applyLines (Text.numberedLines text.toList)

def ofText (text : String) : Config × List ConfigError := applyText {} text

def applyEnvironment (config : Config) (environment : String → Option String) :
    Config × List ConfigError :=
  match environment ConfigError.limitVariable with
  | none => (config, [])
  | some value =>
    match config.set "max_iterations" (.ofList (Text.trim value.toList)) with
    | .ok next => (next, [])
    | .error fault => (config, [⟨.environment, fault⟩])

end Config

end StringScript
