import StringScript.Text.Numeral
import StringScript.Text.Occurrence

/-!
# Arrays written as text

An array is a text too: the number of its items, a separator, and the items with separators between
them. The count in front tells an array of one item, and the empty array, from a plain text. A text
that is no array counts as an array of one item.
-/

namespace StringScript.ArrayText

/-- The character NUL, which no literal of a program can hold. -/
def separator : Char := '\x00'

def encode (items : List String) : String :=
  .ofList (Nat.toDigits 10 items.length ++
    separator :: [separator].intercalate (items.map String.toList))

/-- The items of an array, if `text` is one: the count before the first separator is a numeral in
range and agrees with the number of items after it. -/
def items? (text : String) : Option (List String) :=
  match Text.cutAt? separator text.toList with
  | none => none
  | some (header, body) =>
    match Text.count? header with
    | none => none
    | some 0 => if body.isEmpty then some [] else none
    | some count =>
      let items := body.splitOn separator
      if items.length = count then some (items.map String.ofList) else none

def isEncoded (text : String) : Bool := (items? text).isSome

def decode (text : String) : List String := (items? text).getD [text]

end StringScript.ArrayText
