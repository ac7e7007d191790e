import StringScript.Pattern.Machine
import StringScript.Pattern.Parser
import StringScript.Pattern.Weight

/-!
# Finding a pattern in a text

All ways through a machine are followed at once, one character at a time, in the order in which they
are preferred. A way that reaches a state that a preferred way reached at the same place is given
up. The leftmost start wins, and among the ways from there the preferred one.
-/

namespace StringScript.Pattern

/-- A way through a machine: the state that it is at, and where in the text it began. -/
structure Way where
  state : Nat
  start : Nat
deriving Repr

/-- The ways at one place of a text, preferred ones first. `marks` holds for each state the last
place at which a way reached it, counted from 1. -/
structure Front where
  ways : Array Way
  marks : Array Nat

/-- Follows a way to the states at which a machine reads or accepts. `pending` are the states to
look at, preferred ones first, and the fuel bounds their number. -/
def Machine.follow (m : Machine) (before after : Option Char) (place start : Nat) :
    (fuel : Nat) → (pending : List Nat) → Front → Front
  | fuel + 1, number :: pending, front =>
    if front.marks[number]? = some (place + 1) then
      m.follow before after place start fuel pending front
    else
      let front := { front with marks := front.marks.setIfInBounds number (place + 1) }
      match m.states[number]? with
      | some (.read ..) | some .accept =>
        m.follow before after place start fuel pending
          { front with ways := front.ways.push ⟨number, start⟩ }
      | some (.look look next) =>
        if look.holds before after then
          m.follow before after place start fuel (next :: pending) front
        else m.follow before after place start fuel pending front
      | some (.branch targets) =>
        m.follow before after place start fuel (targets ++ pending) front
      | none => m.follow before after place start fuel pending front
  | _, _, front => front

/-- Lets the ways read a character. Gives the ways after it, and where the way began that accepts
before it, if one does; less preferred ways are given up then. -/
def Machine.advance (m : Machine) (bound : Nat) (c : Char) (after : Option Char) (place : Nat) :
    List Way → Front → Front × Option Nat
  | [], front => (front, none)
  | way :: rest, front =>
    match m.states[way.state]? with
    | some .accept => (front, some way.start)
    | some (.read members next) =>
      let front :=
        if members.contains c then
          m.follow (some c) after (place + 1) way.start bound [next] front
        else front
      m.advance bound c after place rest front
    | _ => m.advance bound c after place rest front

def Machine.accepted (m : Machine) (ways : List Way) : Option Nat :=
  (ways.find? fun way => m.states[way.state]? matches some .accept).map (·.start)

/-- Searches the rest of a text from `place` on. `found` is the match so far: where it starts and
ends. As long as there is none, a new way begins at each place, after all others. -/
def Machine.search (m : Machine) (bound : Nat) (before : Option Char) (place : Nat)
    (found : Option (Nat × Nat)) (front : Front) : List Char → Option (Nat × Nat)
  | [] =>
    let front :=
      if found.isNone then m.follow before none place place bound [m.start] front else front
    match m.accepted front.ways.toList with
    | some start => some (start, place)
    | none => found
  | c :: rest =>
    let front :=
      if found.isNone then m.follow before (some c) place place bound [m.start] front else front
    if front.ways.isEmpty && found.isSome then found
    else
      let (next, accepted) :=
        m.advance bound c rest.head? place front.ways.toList { front with ways := #[] }
      let found :=
        match accepted with
        | some start => some (start, place)
        | none => found
      m.search bound (some c) (place + 1) found next rest

def compile (pattern : String) : Except PatternError Machine := do
  let tree ← Tree.parse pattern.toList
  let (node, _) ← tree.toNode {}
  if node.isLight then return .ofNode node else throw .tooLarge

def Machine.find (m : Machine) (text : List Char) : Option (List Char) :=
  let front : Front := ⟨#[], Array.replicate m.states.size 0⟩
  (m.search m.bound none 0 none front text).map fun (start, stop) =>
    (text.drop start).take (stop - start)

def find (pattern text : String) : Except PatternError (Option String) :=
  (compile pattern).map fun m => (m.find text.toList).map String.ofList

end StringScript.Pattern
