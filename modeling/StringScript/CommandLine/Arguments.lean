import StringScript.Text.Numeral

/-!
# Arguments of the command line

An argument that starts with a hyphen, other than a lone hyphen, is a bundle of flags; `--` ends the
flags. All other arguments are positional, and there may be one: the program.
-/

namespace StringScript.CommandLine

inductive SettingsFile
  /-- The first of the usual places that exists. -/
  | search
  | skip
  | file (path : String)
deriving Repr, DecidableEq, Inhabited

structure Arguments where
  program : Option String := none
  settings : SettingsFile := .search
  maxIterations : Option Nat := none
  debug : Bool := false
deriving Repr, DecidableEq, Inhabited

inductive UsageError
  | missingCount
  | badCount (found : String)
  | unknownOption (flag : Char)
  | tooMany (count : Nat)
deriving Repr, DecidableEq

def UsageError.message : UsageError → String
  | missingCount => "-m requires an iteration count"
  | badCount found => "invalid iteration count: " ++ found
  | unknownOption flag => "unknown option: -" ++ flag.toString
  | tooMany count => "too many arguments (" ++ toString count ++ ")"

def usage : String := "Usage: strings68 [-d] [-f[<rcfile>]] [-m<n>] [<program>]"

/-- Whether an argument is a bundle of flags. -/
def isFlags (arg : String) : Bool := arg.toList.head? = some '-' && arg ≠ "-"

namespace Arguments

def setCount (args : Arguments) (found : String) : Except UsageError Arguments :=
  match Text.signedCount? found.toList with
  | some count => .ok { args with maxIterations := some count }
  | none => .error (.badCount found)

/-- Reads the flags of a bundle; `rest` are the arguments after it. Tells whether the last flag took
the first of them. A bare `f` takes it only if it starts with no hyphen and a program may still
follow it. -/
def readFlags (args : Arguments) (rest : List String) :
    List Char → Except UsageError (Arguments × Bool)
  | [] => .ok (args, false)
  | 'd' :: flags => readFlags { args with debug := true } rest flags
  | ['f'] =>
    match rest with
    | file :: later =>
      if file.toList.head? ≠ some '-' && later.any (fun arg => !isFlags arg) then
        .ok ({ args with settings := .file file }, true)
      else .ok ({ args with settings := .skip }, false)
    | [] => .ok ({ args with settings := .skip }, false)
  | 'f' :: file => .ok ({ args with settings := .file (.ofList file) }, false)
  | ['m'] =>
    match rest with
    | found :: _ => (args.setCount found).map (·, true)
    | [] => .error .missingCount
  | 'm' :: found => (args.setCount (.ofList found)).map (·, false)
  | flag :: _ => .error (.unknownOption flag)

def readAll (args : Arguments) : List String → Except UsageError (Arguments × List String)
  | [] => .ok (args, [])
  | arg :: rest =>
    if arg = "--" then .ok (args, rest)
    else if isFlags arg then
      match args.readFlags rest arg.toList.tail, rest with
      | .error e, _ => .error e
      | .ok (next, true), _ :: later => next.readAll later
      | .ok (next, _), rest => next.readAll rest
    else (args.readAll rest).map fun (final, positional) => (final, arg :: positional)

def parse (argv : List String) : Except UsageError Arguments :=
  match readAll {} argv with
  | .error e => .error e
  | .ok (args, []) => .ok args
  | .ok (args, [program]) => .ok { args with program := some program }
  | .ok (_, positional) => .error (.tooMany positional.length)

end Arguments

end StringScript.CommandLine
