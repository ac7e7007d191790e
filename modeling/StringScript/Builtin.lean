/-!
# Built-in functions

The functions that an expression can call. What they compute is in `StringScript.Builtin.Apply`.
-/

namespace StringScript

inductive Builtin
  | concat | uppercase | lowercase | reverse | length | replace | substring
  | «match» | split | get | shiftLeft | shiftRight | rotateLeft | rotateRight
deriving Repr, DecidableEq, Inhabited

namespace Builtin

/-- The functions in their documented order. -/
def all : List Builtin :=
  [concat, uppercase, lowercase, reverse, length, replace, substring,
    «match», split, get, shiftLeft, shiftRight, rotateLeft, rotateRight]

def name : Builtin → String
  | concat => "concat"
  | uppercase => "uppercase"
  | lowercase => "lowercase"
  | reverse => "reverse"
  | length => "length"
  | replace => "replace"
  | substring => "substring"
  | «match» => "match"
  | split => "split"
  | get => "get"
  | shiftLeft => "shiftl"
  | shiftRight => "shiftr"
  | rotateLeft => "rotl"
  | rotateRight => "rotr"

def arity : Builtin → Nat
  | uppercase | lowercase | reverse | length => 1
  | concat | «match» | split | get | shiftLeft | shiftRight | rotateLeft | rotateRight => 2
  | replace | substring => 3

def ofName? (word : String) : Option Builtin := all.find? (·.name = word)

theorem mem_all (f : Builtin) : f ∈ all := by cases f <;> decide

@[simp]
theorem ofName?_name (f : Builtin) : ofName? f.name = some f := by cases f <;> decide

theorem name_eq_of_ofName? {word : String} {f : Builtin} (h : ofName? word = some f) :
    f.name = word := by
  simpa using List.find?_some h

end Builtin

end StringScript
