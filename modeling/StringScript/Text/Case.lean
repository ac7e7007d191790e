import StringScript.Unicode.CaseMapping
import StringScript.Unicode.Property

/-!
# Upper and lower case

Each character is mapped on its own, to one character or to several, with one exception: a capital
sigma at the end of a word becomes a final sigma.
-/

namespace StringScript.Text

open Unicode

def upper (s : List Char) : List Char := s.flatMap upperOf

/-- Whether a character with case comes next, after any characters that are to be passed over. -/
def meetsCased (s : List Char) : Bool :=
  match s.dropWhile caseIgnorable.contains with
  | [] => false
  | c :: _ => cased.contains c

/-- The lower-case form of what is left of a text; `before` is what came before, last character
first. A sigma ends a word if a character with case is met before it and none after it. -/
def lowerFrom (before : List Char) : List Char → List Char
  | [] => []
  | c :: rest =>
    let image :=
      if c ≠ 'Σ' then lowerOf c
      else if meetsCased before && !meetsCased rest then ['ς'] else ['σ']
    image ++ lowerFrom (c :: before) rest

def lower (s : List Char) : List Char := lowerFrom [] s

end StringScript.Text
