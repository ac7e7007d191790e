/-!
# Sets of characters

A set is a list of ranges of code points, in rising order and apart from each other. Tables of
character properties and the classes of patterns are such sets.
-/

namespace StringScript

/-- A set of code points; each pair holds the first and the last code point of a range. -/
structure CharSet where
  ranges : List (Nat × Nat)
deriving Repr, DecidableEq, Inhabited

namespace CharSet

def top : Nat := 0x10FFFF

/-- The code points that are no characters: the halves of surrogate pairs. -/
def surrogates : Nat × Nat := (0xD800, 0xDFFF)

def empty : CharSet := ⟨[]⟩

/-- Joins a range to the ranges after it, none of which starts before it. -/
private def joinRange : Nat × Nat → List (Nat × Nat) → List (Nat × Nat)
  | range, [] => [range]
  | (lo, hi), (lo', hi') :: rest =>
    if lo' ≤ hi + 1 then joinRange (lo, max hi hi') rest
    else (lo, hi) :: (lo', hi') :: rest

/-- The set of the code points in any of the ranges, which may come in any order and overlap. -/
def ofRanges (ranges : List (Nat × Nat)) : CharSet :=
  ⟨(ranges.mergeSort (fun a b => a.1 ≤ b.1)).foldr joinRange []⟩

def singleton (c : Char) : CharSet := ⟨[(c.toNat, c.toNat)]⟩

def ofChars (cs : List Char) : CharSet :=
  ofRanges (cs.map fun c => (c.toNat, c.toNat))

def containsPoint (s : CharSet) (n : Nat) : Bool :=
  s.ranges.any fun (lo, hi) => lo ≤ n && n ≤ hi

def contains (s : CharSet) (c : Char) : Bool := s.containsPoint c.toNat

def isEmpty (s : CharSet) : Bool := s.ranges.isEmpty

def union (s t : CharSet) : CharSet := ofRanges (s.ranges ++ t.ranges)

/-- The ranges between those of a rising list, from `start` to `last`. -/
private def gaps (last : Nat) : Nat → List (Nat × Nat) → List (Nat × Nat)
  | start, [] => if start ≤ last then [(start, last)] else []
  | start, (lo, hi) :: rest =>
    if start < lo ∧ start ≤ last then (start, min (lo - 1) last) :: gaps last (hi + 1) rest
    else gaps last (hi + 1) rest

def complementTo (last : Nat) (s : CharSet) : CharSet :=
  ⟨gaps last 0 s.ranges⟩

def complement (s : CharSet) : CharSet :=
  complementTo top (ofRanges (surrogates :: s.ranges))

def all : CharSet := empty.complement

/-- The code points common to two lists of rising ranges. The fuel bounds the steps, each of which
leaves a range behind. -/
private def meet : Nat → List (Nat × Nat) → List (Nat × Nat) → List (Nat × Nat)
  | fuel + 1, (lo, hi) :: rest, (lo', hi') :: rest' =>
    let common := if max lo lo' ≤ min hi hi' then [(max lo lo', min hi hi')] else []
    if hi ≤ hi' then common ++ meet fuel rest ((lo', hi') :: rest')
    else common ++ meet fuel ((lo, hi) :: rest) rest'
  | _, _, _ => []

def inter (s t : CharSet) : CharSet :=
  ⟨meet (s.ranges.length + t.ranges.length) s.ranges t.ranges⟩

def diff (s t : CharSet) : CharSet := s.inter (t.complementTo top)

def symmDiff (s t : CharSet) : CharSet := (s.union t).diff (s.inter t)

def isAscii (s : CharSet) : Bool := s.ranges.all fun (_, hi) => hi < 0x80

def size (s : CharSet) : Nat := s.ranges.foldl (fun n (lo, hi) => n + (hi + 1 - lo)) 0

end CharSet

end StringScript
