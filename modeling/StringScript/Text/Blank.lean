import StringScript.CharSet

/-!
# Blanks

The white space of the language is the Unicode property White_Space, in programs, in settings and in
patterns alike.
-/

namespace StringScript.Text

/-- The 25 characters with the Unicode property White_Space. -/
def blanks : CharSet :=
  ⟨[(0x09, 0x0D), (0x20, 0x20), (0x85, 0x85), (0xA0, 0xA0), (0x1680, 0x1680), (0x2000, 0x200A),
    (0x2028, 0x2029), (0x202F, 0x202F), (0x205F, 0x205F), (0x3000, 0x3000)]⟩

def isBlank (c : Char) : Bool := blanks.contains c

def trim (s : List Char) : List Char :=
  ((s.dropWhile isBlank).reverse.dropWhile isBlank).reverse

end StringScript.Text
