/-!
# Text from bytes

Bytes spell a text in UTF-8, possibly only up to some place.
-/

namespace StringScript.Text

/-- The text that bytes spell, up to the first place where they spell no character. -/
structure ByteText where
  chars : List Char
  /-- Whether all bytes are spelled out. -/
  isWhole : Bool
deriving Repr, DecidableEq, Inhabited

namespace ByteText

def ofString (text : String) : ByteText := ⟨text.toList, true⟩

/-- The text of the bytes from place `i` on. The fuel bounds the characters. -/
def decodeFrom (bytes : ByteArray) : (fuel i : Nat) → ByteText
  | 0, i => ⟨[], bytes.size ≤ i⟩
  | fuel + 1, i =>
    if bytes.size ≤ i then ⟨[], true⟩
    else
      match bytes.utf8DecodeChar? i with
      | none => ⟨[], false⟩
      | some c =>
        let rest := decodeFrom bytes fuel (i + c.utf8Size)
        { rest with chars := c :: rest.chars }

def ofBytes (bytes : ByteArray) : ByteText := decodeFrom bytes bytes.size 0

def toString? (t : ByteText) : Option String :=
  if t.isWhole then some (.ofList t.chars) else none

end ByteText

end StringScript.Text
