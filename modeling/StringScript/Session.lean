import StringScript.Config
import StringScript.Execution

/-!
# Sessions

A session keeps variables and printed lines between programs. Running a program hands out all
pending lines, those printed before it too; executing one leaves them pending.
-/

namespace StringScript

structure Session where
  config : Config
  state : State

/-- How a run ended, with the lines that it hands out. -/
structure Transcript where
  result : Except Failure Unit
  lines : List String

namespace Session

def start (config : Config) : Session := ⟨config, .initial⟩

def store (s : Session) : Store := s.state.store

def pending (s : Session) : List String := s.state.output.toList

def perform (s : Session) (execution : Execution Unit) : Except Failure Unit × Session :=
  match execution s.state with
  | .ok _ state => (.ok (), { s with state })
  | .error failure state => (.error failure, { s with state })

def setVar (s : Session) (name value : String) : Except Failure Unit × Session :=
  s.perform do
    Execution.checkName name
    Execution.setVar name value

def eval (s : Session) (e : Expr) : Except Failure String := e.eval s.store

def execStmt (s : Session) (stmt : Stmt) : Except Failure Unit × Session :=
  s.perform (stmt.run s.config.maxIterations)

def execBlock (s : Session) (block : List Stmt) : Except Failure Unit × Session :=
  s.perform (Stmt.runAll s.config.maxIterations block)

/-- Executes a program; nothing runs if it has a syntax error. -/
def execScript (s : Session) (source : String) : Except Failure Unit × Session :=
  match parseProgram source with
  | .ok block => s.execBlock block
  | .error e => (.error (.parse e), s)

def takeOutput (s : Session) : List String × Session :=
  (s.pending, { s with state := { s.state with output := #[] } })

/-- Hands out the pending lines after something was executed. -/
def transcribe (executed : Except Failure Unit × Session) : Transcript × Session :=
  let (lines, drained) := executed.2.takeOutput
  (⟨executed.1, lines⟩, drained)

def run (s : Session) (block : List Stmt) : Transcript × Session :=
  transcribe (s.execBlock block)

def runScript (s : Session) (source : String) : Transcript × Session :=
  transcribe (s.execScript source)

end Session

/-- Runs a program in a session of its own. -/
def interpret (source : String) (config : Config := {}) : Transcript :=
  ((Session.start config).runScript source).1

def interpretBlock (block : List Stmt) (config : Config := {}) : Transcript :=
  ((Session.start config).run block).1

end StringScript
