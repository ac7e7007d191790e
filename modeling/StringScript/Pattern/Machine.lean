import StringScript.Pattern.Node

/-!
# Machines that match patterns

A machine has numbered states. It reads a character at some of them and goes on without reading at
the others; where it may go on to several states, the first is preferred.
-/

namespace StringScript.Pattern

/-- A state; the numbers say where a machine goes on. -/
inductive State
  | read (members : CharSet) (next : Nat)
  | look (place : Look) (next : Nat)
  /-- The states that come next, preferred ones first. -/
  | branch (targets : List Nat)
  | accept
deriving Inhabited

abbrev Building := StateM (Array State)

namespace Building

def add (state : State) : Building Nat :=
  modifyGet fun states => (states.size, states.push state)

def change (number : Nat) (state : State) : Building Unit :=
  modify fun states => states.setIfInBounds number state

/-- The states `first` and `second`, in this order if `greedy`. -/
def prefer (greedy : Bool) (first second : Nat) : State :=
  .branch (if greedy then [first, second] else [second, first])

def copies (count : Nat) (body : Nat → Building Nat) (next : Nat) : Building Nat :=
  match count with
  | 0 => pure next
  | count + 1 => do body (← copies count body next)

/-- Builds `body` once or more often. -/
def onceOrMore (greedy : Bool) (body : Nat → Building Nat) (next : Nat) : Building Nat := do
  let again ← add default
  let start ← body again
  change again (prefer greedy start next)
  return start

/-- Builds `body` any number of times, where each time takes a character. -/
def anyTimes (greedy : Bool) (body : Nat → Building Nat) (next : Nat) : Building Nat := do
  let again ← add default
  let start ← body again
  change again (prefer greedy start next)
  return again

/-- Builds `body` at most `count` times: each further time is preferred to stopping, or stopping to
it. -/
def atMost (greedy : Bool) (count : Nat) (body : Nat → Building Nat) (next : Nat) :
    Building Nat :=
  match count with
  | 0 => pure next
  | count + 1 => do
    let start ← body (← atMost greedy count body next)
    add (prefer greedy start next)

/-- Builds a repetition. A body that may take no character is repeated only after a first time, so
that the order of preference stays that of the times. -/
def repetition (consumes greedy : Bool) (least : Nat) (most : Option Nat)
    (body : Nat → Building Nat) (next : Nat) : Building Nat :=
  match most, least with
  | some most, least => do
    copies least body (← atMost greedy (most - least) body next)
  | none, 0 =>
    if consumes then anyTimes greedy body next
    else do
      let start ← onceOrMore greedy body next
      add (prefer greedy start next)
  | none, least + 1 => do copies least body (← onceOrMore greedy body next)

end Building

open Building in
mutual

/-- Builds a node that goes on to the state `next`, and gives its first state. -/
def Node.build : Node → (next : Nat) → Building Nat
  | .empty, next => pure next
  | .oneOf members, next => add (.read members next)
  | .look place, next => add (.look place next)
  | .concat parts, next => Node.buildInTurn parts next
  | .alternation branches, next => do
    add (.branch (← Node.buildEach branches next))
  | .repeated least most greedy body, next =>
    repetition body.consumes greedy least most (Node.build body) next
  | .capture body, next => body.build next

def Node.buildInTurn : List Node → (next : Nat) → Building Nat
  | [], next => pure next
  | node :: rest, next => do node.build (← Node.buildInTurn rest next)

def Node.buildEach : List Node → (next : Nat) → Building (List Nat)
  | [], _ => pure []
  | node :: rest, next => do
    let start ← node.build next
    return start :: (← Node.buildEach rest next)

end

structure Machine where
  states : Array State
  start : Nat

def Machine.ofNode (node : Node) : Machine :=
  let (start, states) := (node.build 0).run #[.accept]
  ⟨states, start⟩

/-- The number of ways to go on from the states of a machine, and of its states: a bound on the
states that are looked at without reading. -/
def Machine.bound (m : Machine) : Nat :=
  m.states.foldl (fun n state =>
    match state with
    | .branch targets => n + targets.length + 1
    | _ => n + 2) 1

end StringScript.Pattern
