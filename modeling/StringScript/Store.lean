import Std.Data.ExtTreeMap
import StringScript.Failure
import StringScript.Text.Numeral

/-!
# Variables

A store holds the values of variables by their names, in the order of the names' code points. Two
stores with the same bindings are equal.
-/

namespace StringScript

/-- Whether a name can be assigned to: names of variables are numerals. -/
def isVarName (name : String) : Bool := Text.isNumeral name.toList

structure Store where
  bindings : Std.ExtTreeMap String String

namespace Store

def empty : Store := ⟨∅⟩

instance : Inhabited Store := ⟨empty⟩

def get? (s : Store) (name : String) : Option String := s.bindings[name]?

def set (s : Store) (name value : String) : Store := ⟨s.bindings.insert name value⟩

def erase (s : Store) (name : String) : Store := ⟨s.bindings.erase name⟩

/-- Gives a name its earlier value back, or its absence. -/
def restore (s : Store) (name : String) : Option String → Store
  | some value => s.set name value
  | none => s.erase name

def lookup (s : Store) (name : String) : Except Failure String :=
  match s.get? name with
  | some value => .ok value
  | none => .error (.undefinedVariable name)

def has (s : Store) (name : String) : Bool := (s.get? name).isSome

def size (s : Store) : Nat := s.bindings.size

/-- The bindings, rising by name. -/
def toList (s : Store) : List (String × String) := s.bindings.toList

@[ext]
theorem ext {s t : Store} (h : ∀ name, s.get? name = t.get? name) : s = t := by
  obtain ⟨s⟩ := s
  obtain ⟨t⟩ := t
  exact congrArg Store.mk (Std.ExtTreeMap.ext_getElem? h)

@[simp]
theorem get?_empty (name : String) : empty.get? name = none := by
  simp [get?, empty]

theorem get?_set (s : Store) (name value other : String) :
    (s.set name value).get? other = if name = other then some value else s.get? other := by
  simp [get?, set, Std.ExtTreeMap.getElem?_insert]

theorem get?_erase (s : Store) (name other : String) :
    (s.erase name).get? other = if name = other then none else s.get? other := by
  simp [get?, erase, Std.ExtTreeMap.getElem?_erase]

theorem get?_restore (s : Store) (name : String) (earlier : Option String) (other : String) :
    (s.restore name earlier).get? other = if name = other then earlier else s.get? other := by
  cases earlier <;> simp [restore, get?_set, get?_erase]

end Store

end StringScript
