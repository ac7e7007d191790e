/-!
# Numerals

A numeral is a non-empty run of ASCII digits of any length, with leading zeros allowed. Its value is
`Nat.ofDigitChars 10`. The reduced readings `cappedValue` and `residue` go digit by digit, so that
no intermediate number grows with the length of the numeral.
-/

namespace StringScript.Text

def isNumeral (s : List Char) : Bool :=
  !s.isEmpty && s.all Char.isDigit

def numeralValue (s : List Char) : Nat :=
  Nat.ofDigitChars 10 s 0

/-- Counts are 64-bit numbers: each is below this bound, the 64th power of two. -/
def countBound : Nat := 18446744073709551616

def maxCount : Nat := countBound - 1

def digitValue (c : Char) : Nat := c.toNat - '0'.toNat

/-- The value of a numeral, or the largest count if that is smaller. Both the product and the sum of
a step stop at the largest count. -/
def cappedValue (s : List Char) : Nat :=
  s.foldl (fun n c => min (min (10 * n) maxCount + digitValue c) maxCount) 0

/-- The remainder of a numeral's value by `modulus`, and zero for the modulus zero. -/
def residue (modulus : Nat) (s : List Char) : Nat :=
  if modulus = 0 then 0 else s.foldl (fun r c => (10 * r + digitValue c) % modulus) 0

def count? (s : List Char) : Option Nat :=
  if isNumeral s && numeralValue s < countBound then some (numeralValue s) else none

/-- The count that a numeral, with or without a plus sign before it, spells, if it is in range. -/
def signedCount? : List Char → Option Nat
  | '+' :: s => count? s
  | s => count? s

end StringScript.Text
