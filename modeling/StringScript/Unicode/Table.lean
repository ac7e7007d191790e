import StringScript.CharSet

/-!
# Tables of character data

A table is written in base 32, so that a data module stays short. Each number is a run of letters of
the first half of `alphabet` followed by one letter of the second half, most significant digit
first. A set of characters is a list of such numbers: the distance from the end of one range to the
start of the next, and the number of further members in the range, by turns. A partition gives for
each run of code points its class and the number of its further members.
-/

namespace StringScript.Unicode

/-- The 64 letters of a table: a letter's place modulo 32 is its digit, and letters from the 32nd on
end a number. -/
def alphabet : List Char :=
  "0123456789BCDFGHJKLMNPQRSTVWXZbcdfghjklmnpqrstvwxz+*=<>()[]!?%:;".toList

/-- The numbers that a table's letters spell. `acc` is the value of the digits read of the current
number. -/
def readNumbers (acc : Nat) : List Char → List Nat
  | [] => []
  | c :: rest =>
    let place := alphabet.idxOf c
    if place < 32 then readNumbers (32 * acc + place) rest
    else (32 * acc + (place - 32)) :: readNumbers 0 rest

def numbers (table : List String) : List Nat := readNumbers 0 (table.flatMap String.toList)

/-- The ranges that distances and lengths give, from the code point `start` on. -/
def readRanges (start : Nat) : List Nat → List (Nat × Nat)
  | distance :: more :: rest =>
    let lo := start + distance
    (lo, lo + more) :: readRanges (lo + more + 1) rest
  | _ => []

def readSet (table : List String) : CharSet := ⟨readRanges 0 (numbers table)⟩

/-- The runs of a partition, each with its class, from the code point `start` on. -/
def readRuns (start : Nat) : List Nat → List (Nat × Nat × Nat)
  | kind :: more :: rest => (kind, start, start + more) :: readRuns (start + more + 1) rest
  | _ => []

def readKinds (table : List String) (kinds : List Nat) : CharSet :=
  .ofRanges <| (readRuns 0 (numbers table)).filterMap fun (kind, range) =>
    if kinds.contains kind then some range else none

/-- The form in which names of properties and of their values are compared: without case, spaces,
hyphens, underscores and a leading `is`. -/
def looseName (name : String) : List Char :=
  let lower := name.toList.map Char.toLower
  let (marked, body) :=
    match lower with
    | 'i' :: 's' :: rest => (true, rest)
    | body => (false, body)
  let kept := body.filter fun c => c.toNat < 0x80 && c ≠ ' ' && c ≠ '-' && c ≠ '_'
  if marked && kept = ['c'] then ['i', 's', 'c'] else kept

def isNamed (names : List String) (written : String) : Bool :=
  names.any fun name => looseName name = looseName written

end StringScript.Unicode
