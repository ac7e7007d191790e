import StringScript.Unicode.Category
import StringScript.Unicode.Property

/-!
# Quoted text

The form in which messages and printed expressions show a text: between double quotes, with a
backslash form for each character that would not show as itself.
-/

namespace StringScript.Text

open Unicode

/-- The characters that show nothing, or nothing definite: controls, formats, separators other than
the plain space, and code points without a character. -/
def unprintable : CharSet :=
  (Category.members [.control, .format, .surrogate, .privateUse, .unassigned,
    .lineSeparator, .paragraphSeparator, .spaceSeparator]).diff (.singleton ' ')

/-- The form by code point, in lower-case hexadecimal digits between braces. -/
def codePointForm (c : Char) : List Char :=
  ['\\', 'u', '\x7b'] ++ Nat.toDigits 16 c.toNat ++ ['\x7d']

def isPlain (c : Char) : Bool := ' ' ≤ c && c ≤ '~'

/-- The form of a character inside quotes. A character that would be drawn upon the one before it
goes by its code point. -/
def quotedChar (c : Char) : List Char :=
  if c = '\x00' then ['\\', '0']
  else if c = '\t' then ['\\', 't']
  else if c = '\r' then ['\\', 'r']
  else if c = '\n' then ['\\', 'n']
  else if c = '"' || c = '\\' then ['\\', c]
  else if isPlain c then [c]
  else if graphemeExtend.contains c || unprintable.contains c then codePointForm c
  else [c]

def quote (s : String) : String :=
  .ofList ('"' :: s.toList.flatMap quotedChar ++ ['"'])

end StringScript.Text
