import StringScript.Text.Blank
import StringScript.Token

/-!
# Reading the tokens of a line

The reader goes over the characters once. Its mode says which token is open; blanks only end words.
Columns are counted in bytes of UTF-8, from 1.
-/

namespace StringScript

inductive LexError
  | unknownEscape (c : Char)
  | nulInLiteral
  /-- The literal that starts at the column has no closing quote. -/
  | unterminated (column : Nat)
  | unexpected (c : Char) (column : Nat)
deriving Repr, DecidableEq

def LexError.message : LexError → String
  | unknownEscape c => "unknown escape '\\" ++ c.toString ++ "'"
  | nulInLiteral => "NUL character in string literal"
  | unterminated column => "unterminated string starting at column " ++ toString column
  | unexpected c column =>
    "unexpected character '" ++ c.toString ++ "' at column " ++ toString column

namespace Token

def isWordChar (c : Char) : Bool := c.isAlphanum || c == '_'

/-- The token that is open, with its characters so far, last first. -/
inductive Mode
  | gap
  | word (letters : List Char)
  /-- Inside a literal that starts at the column. -/
  | literal (column : Nat) (content : List Char)
  /-- Inside a literal, after a backslash. -/
  | escape (column : Nat) (content : List Char)
deriving Repr, DecidableEq

/-- What a character gives when no token is open: the tokens that it completes and the next mode. -/
def opened (offset : Nat) (c : Char) : Except LexError (List Token × Mode) :=
  if Text.isBlank c then .ok ([], .gap)
  else if isWordChar c then .ok ([], .word [c])
  else if c = '(' then .ok ([leftParen], .gap)
  else if c = ')' then .ok ([rightParen], .gap)
  else if c = ',' then .ok ([comma], .gap)
  else if c = '=' then .ok ([assign], .gap)
  else if c = '"' then .ok ([], .literal (offset + 1) [])
  else .error (.unexpected c (offset + 1))

def escaped? (c : Char) : Option Char :=
  if c = '"' || c = '\\' then some c
  else if c = 'n' then some '\n'
  else if c = 't' then some '\t'
  else none

/-- What a character at the byte `offset` gives: the tokens that it completes and the next mode. -/
def step (offset : Nat) (c : Char) : Mode → Except LexError (List Token × Mode)
  | .gap => opened offset c
  | .word letters =>
    if isWordChar c then .ok ([], .word (c :: letters))
    else
      (opened offset c).map fun (tokens, mode) =>
        (word (.ofList letters.reverse) :: tokens, mode)
  | .literal column content =>
    if c = '"' then .ok ([text (.ofList content.reverse)], .gap)
    else if c = '\\' then .ok ([], .escape column content)
    else if c = '\x00' then .error .nulInLiteral
    else .ok ([], .literal column (c :: content))
  | .escape column content =>
    match escaped? c with
    | some meant => .ok ([], .literal column (meant :: content))
    | none => .error (.unknownEscape c)

def atEnd : Mode → Except LexError (List Token)
  | .gap => .ok []
  | .word letters => .ok [word (.ofList letters.reverse)]
  | .literal column _ | .escape column _ => .error (.unterminated column)

/-- The tokens of what is left of a line from the byte `offset` on. -/
def scan (mode : Mode) (offset : Nat) : List Char → Except LexError (List Token)
  | [] => atEnd mode
  | c :: rest =>
    match step offset c mode with
    | .error e => .error e
    | .ok (tokens, next) => (scan next (offset + c.utf8Size) rest).map (tokens ++ ·)

def tokenize (source : String) : Except LexError (List Token) := scan .gap 0 source.toList

end Token

end StringScript
