import StringScript.CommandLine.Arguments
import StringScript.CommandLine.FileTree
import StringScript.Session

/-!
# Running the program from the command line

A run reads its arguments, settles the settings, reads a program and runs it. Everything that it
asks of its surroundings but the standard input is in `Surroundings`, so that a run is a function.
-/

namespace StringScript.CommandLine

structure Surroundings where
  readText : String → Except FileError String
  isPresent : String → Bool
  environment : String → Option String
  /-- Whether a person types the standard input. -/
  isTerminal : Bool

def Surroundings.ofTree (tree : FileTree) (values : List (String × String)) (isTerminal : Bool) :
    Surroundings where
  readText := tree.readText
  isPresent := tree.has
  environment := fun name => values.lookup name
  isTerminal

structure Report where
  exitCode : Nat
  stdout : String
  stderr : String
deriving Repr, DecidableEq

def complaint (message : String) : String := "strings68: " ++ message ++ "\n"

def warning (message : String) : String := complaint ("warning: " ++ message)

def settingsName : String := ".strings68rc"

def homeSettings (home : String) : String :=
  if home.toList.getLast? = some '/' then home ++ settingsName else home ++ "/" ++ settingsName

/-- The usual places of the settings file, in the order of the search. -/
def settingsPlaces (s : Surroundings) : List String :=
  let here := "./" ++ settingsName
  match s.environment "HOME" with
  | some home => if home.isEmpty then [here] else [homeSettings home, here]
  | none => [here]

def settingsPath? (s : Surroundings) : SettingsFile → Option String
  | .search => (settingsPlaces s).find? s.isPresent
  | .skip => none
  | .file path => some path

/-- The settings of the settings file over the defaults, with the messages of the lines that are
refused. -/
def fileSettings (s : Surroundings) (choice : SettingsFile) : Config × List String :=
  match settingsPath? s choice with
  | none => ({}, [])
  | some path =>
    match s.readText path with
    | .error e => ({}, [path ++ ": " ++ e.message])
    | .ok text =>
      let (config, errors) := Config.ofText text
      (config, errors.map fun e => path ++ ": " ++ e.describe)

def settings (s : Surroundings) (args : Arguments) : Config × List String :=
  let (fromFile, fileMessages) := fileSettings s args.settings
  let (fromEnvironment, errors) := fromFile.applyEnvironment s.environment
  let config :=
    match args.maxIterations with
    | some count => { fromEnvironment with maxIterations := count }
    | none => fromEnvironment
  (config, fileMessages ++ errors.map ConfigError.message)

/-- The log filter: of the environment, of the debug flag or of the settings. -/
def logFilter? (s : Surroundings) (args : Arguments) (config : Config) : Option String :=
  (s.environment "STRINGS68_LOG" <|> s.environment "RUST_LOG") <|>
    (if args.debug then some "debug" else config.log)

/-- Whether a part of a log filter gives a level that has an equals sign in it. -/
def isBadFilter (filter : String) : Bool :=
  (filter.toList.splitOn ',').any fun part => !part.contains '[' && 2 ≤ part.count '='

def filterNotice (filter : String) : String :=
  complaint ("ignoring bad log filter '" ++ filter ++ "': error parsing level filter: " ++
    "expected one of \"off\", \"error\", \"warn\", \"info\", \"debug\", \"trace\", or a number 0-5")

inductive Source
  | file (path : String)
  | input
  | typed
deriving Repr, DecidableEq

/-- What is settled before the program is read: the settings, and the lines about them. -/
structure Setup where
  config : Config
  notices : String
  source : Source

def setup (s : Surroundings) (args : Arguments) : Setup where
  config := (settings s args).1
  notices :=
    let (config, messages) := settings s args
    let filterLines :=
      match logFilter? s args config with
      | some filter => if isBadFilter filter then [filterNotice filter] else []
      | none => []
    String.join (filterLines ++ messages.map warning)
  source :=
    match args.program with
    | none => if s.isTerminal then .typed else .input
    | some path => if path = "-" then .input else .file path

def Setup.greeting (p : Setup) : String :=
  if p.source = .typed then
    "strings68 Interpreter v0.1.0\n" ++
      "Enter your program (type 'exit' or press Ctrl-D to finish):\n"
  else ""

def isExit (line : List Char) : Bool := Text.trim line = "exit".toList

/-- A typed line without the carriage return at its end. -/
def dropReturn (line : List Char) : List Char :=
  if line.getLast? = some '\r' then line.dropLast else line

/-- The lines of a typed program, up to one that ends it. Of the pieces between line feeds the last
one ends without one; it is no line if it is empty, and it cannot be read if the text breaks off in
it. -/
def typedLines (isWhole : Bool) : List (List Char) → Except FileError (List (List Char))
  | [] => .ok []
  | [last] =>
    if !isWhole then .error .notText
    else if last.isEmpty || isExit last then .ok []
    else .ok [last]
  | piece :: rest =>
    if isExit piece then .ok [] else (typedLines isWhole rest).map (dropReturn piece :: ·)

def typedProgram (input : Text.ByteText) : Except FileError String :=
  (typedLines input.isWhole (input.chars.splitOn '\n')).map fun lines =>
    .ofList (lines.flatMap (· ++ ['\n']))

/-- The text of the program, or what to say if it cannot be read. -/
def Setup.program (p : Setup) (s : Surroundings) (input : Text.ByteText) : Except String String :=
  match p.source with
  | .file path => (s.readText path).mapError fun e => path ++ ": " ++ e.message
  | .input =>
    match input.toString? with
    | some text => .ok text
    | none => .error ("stdin: " ++ FileError.notText.message)
  | .typed => (typedProgram input).mapError fun e => "stdin: " ++ e.message

def printed (lines : List String) : String := String.join (lines.map (· ++ "\n"))

/-- Reads and runs the program; the greeting and the notices are already out. -/
def Setup.run (p : Setup) (s : Surroundings) (input : Text.ByteText) : Report :=
  match p.program s input with
  | .error message => ⟨1, "", complaint message⟩
  | .ok source =>
    let heading := if p.source = .typed then "=== Output ===\n" else ""
    let transcript := interpret source p.config
    let stdout := heading ++ printed transcript.lines
    match transcript.result with
    | .ok _ => ⟨0, stdout, ""⟩
    | .error failure => ⟨1, stdout, complaint failure.message⟩

def usageReport (e : UsageError) : Report :=
  ⟨1, "", complaint e.message ++ usage ++ "\n"⟩

def run (s : Surroundings) (argv : List String) (input : Text.ByteText) : Report :=
  match Arguments.parse argv with
  | .error e => usageReport e
  | .ok args =>
    let p := setup s args
    let report := p.run s input
    ⟨report.exitCode, p.greeting ++ report.stdout, p.notices ++ report.stderr⟩

end StringScript.CommandLine
