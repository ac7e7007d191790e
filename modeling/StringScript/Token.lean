import StringScript.Text.Quoted

/-!
# Tokens

The pieces of one line of a program.
-/

namespace StringScript

inductive Token
  /-- A literal; its escapes are resolved. -/
  | text (value : String)
  /-- A run of ASCII letters, digits and underscores. -/
  | word (value : String)
  | leftParen
  | rightParen
  | comma
  | assign
deriving Repr, DecidableEq, Inhabited

namespace Token

def describe : Token → String
  | text value => Text.quote value
  | word value => "'" ++ value ++ "'"
  | leftParen => "'('"
  | rightParen => "')'"
  | comma => "','"
  | assign => "'='"

end Token

end StringScript
