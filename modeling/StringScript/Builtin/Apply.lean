import StringScript.ArrayText
import StringScript.Failure
import StringScript.Pattern.Find
import StringScript.Text.Case

/-!
# What the built-in functions compute

Characters are counted, never bytes. Positions and counts are numerals of any size: they are
reduced, to the largest count or modulo the length, before they are used.
-/

namespace StringScript.Builtin

/-- The characters of the argument at `position`, which has to be a numeral. -/
def digits (f : Builtin) (position : Nat) (arg : String) : Except Failure (List Char) :=
  if Text.isNumeral arg.toList then .ok arg.toList
  else .error (.invalidArgument f (.notCount position arg))

def count (f : Builtin) (position : Nat) (arg : String) : Except Failure Nat :=
  (f.digits position arg).map Text.cappedValue

def rotated (s : List Char) (k : Nat) : List Char := s.drop k ++ s.take k

def slice (s : List Char) (start stop : Nat) : List Char := (s.take stop).drop start

def apply : Builtin → List String → Except Failure String
  | concat, [s, t] => .ok (s ++ t)
  | uppercase, [s] => .ok (.ofList (Text.upper s.toList))
  | lowercase, [s] => .ok (.ofList (Text.lower s.toList))
  | reverse, [s] => .ok (.ofList s.toList.reverse)
  | length, [s] => .ok (toString s.length)
  | replace, [s, old, new] => .ok (.ofList (Text.replaceAll old.toList new.toList s.toList))
  | substring, [s, start, stop] => do
    let start ← substring.count 2 start
    let stop ← substring.count 3 stop
    return .ofList (slice s.toList start stop)
  | «match», [s, pattern] =>
    match Pattern.find pattern s with
    | .ok found => .ok (found.getD "")
    | .error _ => .error (.invalidArgument «match» (.badPattern pattern))
  | split, [s, sep] =>
    .ok (ArrayText.encode ((Text.fields sep.toList s.toList).map String.ofList))
  | get, [s, index] => do
    let items := ArrayText.decode s
    let place ← get.count 2 index
    match items[place]? with
    | some item => .ok item
    | none => .error (.indexOutOfBounds index items.length)
  | shiftLeft, [s, n] => do
    let n ← shiftLeft.count 2 n
    return .ofList (s.toList.drop n)
  | shiftRight, [s, n] => do
    let n ← shiftRight.count 2 n
    return .ofList (s.toList.take (s.length - n))
  | rotateLeft, [s, n] => do
    let n ← rotateLeft.digits 2 n
    return .ofList (rotated s.toList (Text.residue s.length n))
  | rotateRight, [s, n] => do
    let n ← rotateRight.digits 2 n
    return .ofList (rotated s.toList (s.length - Text.residue s.length n))
  | f, args => .error (.arityMismatch f args.length)

/-- The function that a word names, if it takes `got` arguments. -/
def resolve (word : String) (got : Nat) : Except Failure Builtin :=
  match ofName? word with
  | none => .error (.unknownFunction word)
  | some f => if got = f.arity then .ok f else .error (.arityMismatch f got)

theorem arity_of_resolve {word : String} {got : Nat} {f : Builtin}
    (h : resolve word got = .ok f) : got = f.arity := by
  unfold resolve at h
  split at h
  · cases h
  · split at h
    · next harity =>
        cases h
        exact harity
    · cases h

end StringScript.Builtin
