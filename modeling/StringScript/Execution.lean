import StringScript.Expr.Eval

/-!
# Running statements

An execution changes a state and may fail; the state that it leaves behind then counts too. A
`while` loop runs its body at most as often as the limit says, so every execution ends.
-/

namespace StringScript

/-- The variables, and the lines that are printed and not yet handed out. -/
structure State where
  store : Store
  output : Array String

def State.initial : State := ⟨.empty, #[]⟩

/-- Steps that may fail in a state, and leave a state behind in either case. -/
abbrev Execution := EStateM Failure State

namespace Execution

/-- A value computed from the store alone. -/
def fromStore {α : Type} (read : Store → Except Failure α) : Execution α := fun s =>
  match read s.store with
  | .ok value => .ok value s
  | .error failure => .error failure s

def evaluate (e : Expr) : Execution String := fromStore fun store => e.eval store

def check (c : Condition) : Execution Bool := fromStore fun store => c.eval store

def setVar (name value : String) : Execution Unit :=
  modify fun s => { s with store := s.store.set name value }

def emit (line : String) : Execution Unit :=
  modify fun s => { s with output := s.output.push line }

def checkName (name : String) : Execution Unit :=
  if isVarName name then pure () else throw (.invalidVariableName name)

/-- Runs `body`, and then gives `name` back the value that it had before, or its absence, also if
`body` fails. -/
def restoring (name : String) (body : Execution Unit) : Execution Unit := fun s =>
  let put (t : State) : State := { t with store := t.store.restore name (s.store.get? name) }
  match body s with
  | .ok value t => .ok value (put t)
  | .error failure t => .error failure (put t)

/-- Runs `body` once for each item, with `name` bound to the item. -/
def forItems (name : String) (body : Execution Unit) : List String → Execution Unit
  | [] => pure ()
  | item :: rest => do
    setVar name item
    body
    forItems name body rest

/-- Runs `body` as long as the condition holds, `more` times at most; one time more is a failure. -/
def repeatWhile (limit : Nat) (condition : Execution Bool) (body : Execution Unit) :
    (more : Nat) → Execution Unit
  | 0 => do
    if ← condition then throw (.iterationLimit limit)
  | more + 1 => do
    if ← condition then
      body
      repeatWhile limit condition body more

end Execution

def characters (text : String) : List String := text.toList.map fun c => String.ofList [c]

def Iteration.elements (text : String) : Iteration → List String
  | chars => characters text
  | items => ArrayText.decode text
  | auto => if ArrayText.isEncoded text then ArrayText.decode text else characters text

open Execution in
mutual

/-- Runs a statement; `limit` bounds the runs of the body of each `while` loop. -/
def Stmt.run (limit : Nat) : Stmt → Execution Unit
  | .assign target e => do
    checkName target
    setVar target (← evaluate e)
  | .print e => do
    emit (← evaluate e)
  | .ifThen condition body => do
    if ← check condition then Stmt.runAll limit body
  | .ifThenElse condition thenBody elseBody => do
    if ← check condition then Stmt.runAll limit thenBody else Stmt.runAll limit elseBody
  | .foreach kind var source body => do
    checkName var
    let text ← evaluate source
    restoring var (forItems var (Stmt.runAll limit body) (kind.elements text))
  | .whileDo condition body =>
    repeatWhile limit (check condition) (Stmt.runAll limit body) limit

def Stmt.runAll (limit : Nat) : List Stmt → Execution Unit
  | [] => pure ()
  | stmt :: rest => do
    Stmt.run limit stmt
    Stmt.runAll limit rest

end

end StringScript
