import StringScript.Pattern.Node

/-!
# The weight of a pattern

A pattern is refused if the machines that would match it, byte by byte, take too much memory: one
that reads a text forwards and one that reads it backwards. The weight of such a machine follows
from the pattern, so nothing needs to be built for it.
-/

namespace StringScript.Pattern

/-! ## Characters as bytes -/

/-- The bytes that may stand at each place of some characters of one length, first place first. -/
abbrev ByteRanges := List (Nat × Nat)

/-- The ways to write the numbers from `lo` to `hi` with `more` bytes of six bits after the first
digit; `lead` is what the first digit is added to. -/
def byteRanges (lead : Nat) : (more : Nat) → (lo hi : Nat) → List ByteRanges
  | 0, lo, hi => [[(lead + lo, lead + hi)]]
  | more + 1, lo, hi =>
    let block := 64 ^ (more + 1)
    let first := lo / block
    let last := hi / block
    let within (digit lo hi : Nat) : List ByteRanges :=
      (byteRanges 0x80 more lo hi).map ((lead + digit, lead + digit) :: ·)
    if first = last then within first (lo % block) (hi % block)
    else
      let startsWhole := lo % block = 0
      let endsWhole := hi % block = block - 1
      let wholeFirst := if startsWhole then first else first + 1
      let wholeEnd := if endsWhole then last + 1 else last
      let wholes : List ByteRanges :=
        if wholeFirst < wholeEnd then
          [(lead + wholeFirst, lead + wholeEnd - 1) :: List.replicate (more + 1) (0x80, 0xBF)]
        else []
      (if startsWhole then [] else within first (lo % block) (block - 1)) ++ wholes ++
        (if endsWhole then [] else within last 0 (hi % block))

def utf8Ranges (lo hi : Nat) : List ByteRanges :=
  let part (lead more first last : Nat) : List ByteRanges :=
    if max lo first ≤ min hi last then byteRanges lead more (max lo first) (min hi last) else []
  part 0 0 0 0x7F ++ part 0xC0 1 0x80 0x7FF ++ part 0xE0 2 0x800 0xFFFF ++
    part 0xF0 3 0x10000 0x10FFFF

def setRanges (s : CharSet) : List ByteRanges := s.ranges.flatMap fun (lo, hi) => utf8Ranges lo hi

/-- Groups neighbours with the same first bytes. -/
def byFirst (ways : List ByteRanges) : List (List ByteRanges) :=
  ways.splitBy fun a b => a.head? == b.head?

/-- The states that tell `ways` apart from their first bytes on, each by the ways that it still
leads to. -/
def suffixStates : (depth : Nat) → List ByteRanges → List (List ByteRanges)
  | 0, _ => []
  | depth + 1, ways =>
    ways :: (byFirst ways).flatMap fun group =>
      let tails := group.map List.tail
      if tails.all List.isEmpty then [] else suffixStates depth tails

/-- The non-empty beginnings of a way to write a character. -/
def starts : ByteRanges → List ByteRanges
  | [] => []
  | place :: rest => [place] :: (starts rest).map (place :: ·)

/-! ## Weights -/

inductive Direction
  | forwards | backwards
deriving DecidableEq

def stateWeight : Nat := 32

def branchWeight (targets : Nat) : Nat := stateWeight + 4 * targets

def rangesWeight (ranges : Nat) : Nat := stateWeight + 8 * ranges

def setWeight (direction : Direction) (s : CharSet) : Nat :=
  match s.ranges with
  | [] => stateWeight
  | ranges =>
    if s.size = 1 then
      ranges.foldl (fun n (lo, _) => n + (utf8Ranges lo lo).flatten.length) 0 * stateWeight
    else if s.isAscii then rangesWeight ranges.length + stateWeight
    else
      let ways := setRanges s
      match direction with
      | .forwards =>
        let states := (suffixStates 4 ways).eraseDups
        states.foldl (fun n state => n + rangesWeight (byFirst state).length) stateWeight
      | .backwards =>
        branchWeight ways.length + (ways.flatMap starts).eraseDups.length * stateWeight

/-- The weight of a repetition of something of the weight `body`. -/
def repetitionWeight (consumes : Bool) (body least : Nat) : Option Nat → Nat
  | none =>
    if least = 0 then
      if consumes then body + branchWeight 2 else body + 2 * branchWeight 2 + stateWeight
    else least * body + branchWeight 2
  | some most =>
    if most = least then least * body
    else if least = 0 && most = 1 then body + branchWeight 2 + stateWeight
    else
      max (least * body) stateWeight + stateWeight + (most - least) * (body + branchWeight 2)

mutual

def Node.weight (direction : Direction) : Node → Nat
  | .empty | .look _ => stateWeight
  | .oneOf members => setWeight direction members
  | .concat parts => Node.weights direction parts
  | .alternation branches =>
    Node.weights direction branches + branchWeight branches.length + stateWeight
  | .repeated least most _ body =>
    repetitionWeight body.consumes (body.weight direction) least most
  | .capture body =>
    if direction = .forwards then body.weight direction + 2 * stateWeight
    else body.weight direction

def Node.weights (direction : Direction) : List Node → Nat
  | [] => 0
  | node :: rest => node.weight direction + Node.weights direction rest

end

/-- The largest weight of a machine: ten mebibytes. -/
def maxWeight : Nat := 10 * 1024 * 1024

def Node.isLight (node : Node) : Bool :=
  node.weight .forwards ≤ maxWeight && node.weight .backwards ≤ maxWeight

end StringScript.Pattern
