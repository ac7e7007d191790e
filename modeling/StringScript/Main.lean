import StringScript.CommandLine.Run

/-!
# The program

Gathers what a run needs from the system, and carries out its report.
-/

namespace StringScript.CommandLine

/-- What reading a file gives. The system's number for a path through a plain file is 20, and it may
come with its sign turned. -/
def readFile (path : String) : IO (Except FileError Text.ByteText) := do
  try
    return .ok (.ofBytes (← IO.FS.readBinFile path))
  catch
    | .inappropriateType _ code _ =>
      return .error (if code = 20 || code = -20 then .notDirectory else .isDirectory)
    | _ => return .error .notFound

def gather (paths : List String) : IO Surroundings := do
  let names := ["HOME", ConfigError.limitVariable, "STRINGS68_LOG", "RUST_LOG"]
  let values ← names.filterMapM fun name => do
    return (← IO.getEnv name).map (name, ·)
  let files ← paths.mapM fun path => return (path, ← readFile path)
  return {
    readText := fun path => do
      let content ← (files.lookup path).getD (.error .notFound)
      match content.toString? with
      | some text => .ok text
      | none => .error .notText
    isPresent := fun path =>
      match files.lookup path with
      | some (.ok _) | some (.error .isDirectory) => true
      | _ => false
    environment := fun name => values.lookup name
    isTerminal := ← (← IO.getStdin).isTty }

def pathsOf (s : Surroundings) (args : Arguments) : List String :=
  let settingsPaths :=
    match args.settings with
    | .search => settingsPlaces s
    | .skip => []
    | .file path => [path]
  settingsPaths ++ args.program.toList

/-- Reads what a person types, up to the line that ends it. -/
partial def readTyped (typed : ByteArray) : IO ByteArray := do
  let line ← (← IO.getStdin).getLine
  let typed := typed ++ line.toUTF8
  if line.isEmpty || isExit line.toList then return typed else readTyped typed

end StringScript.CommandLine

open StringScript.CommandLine in
def main (argv : List String) : IO UInt32 := do
  match Arguments.parse argv with
  | .error e =>
    let report := usageReport e
    IO.eprint report.stderr
    return report.exitCode.toUInt32
  | .ok args =>
    let s ← gather (pathsOf (← gather []) args)
    let p := setup s args
    IO.eprint p.notices
    IO.print p.greeting
    let input ←
      match p.source with
      | .file _ => pure .empty
      | .input => (← IO.getStdin).readBinToEnd
      | .typed => readTyped .empty
    let report := p.run s (.ofBytes input)
    IO.print report.stdout
    IO.eprint report.stderr
    return report.exitCode.toUInt32
