import StringScript.Expr
import StringScript.Token.Lexer

/-!
# Reading expressions

A reading takes tokens from the front of a list. It tells what is left also when it fails: a refused
token is taken too. Calls may nest, so `operand` and `resume` carry the calls that are still open.
-/

namespace StringScript

/-- Why tokens are not what they should be. A missing token is the end of the line. -/
inductive SyntaxError
  | lexical (error : LexError)
  | expectedExpr (found : Option Token)
  /-- A comma or a closing parenthesis has to follow an argument. -/
  | expectedArgEnd (function : String) (found : Token)
  | unclosedCall (function : String)
  | expectedWord (what : String) (found : Option Token)
  | expectedKeyword (keyword : String) (found : Option Token)
  | unknownComparison (word : String)
  | expectedEnd (found : Token)
  | badTarget (found : Token)
deriving Repr, DecidableEq

namespace SyntaxError

def describeFound : Option Token → String
  | some token => token.describe
  | none => "end of line"

def message : SyntaxError → String
  | lexical error => error.message
  | expectedExpr found => "expected expression, found " ++ describeFound found
  | expectedArgEnd function found =>
    "expected ',' or ')' in " ++ function ++ "(), found " ++ found.describe
  | unclosedCall function => "missing ')' in call to " ++ function
  | expectedWord what found => "expected " ++ what ++ ", found " ++ describeFound found
  | expectedKeyword keyword found =>
    "expected '" ++ keyword ++ "', found " ++ describeFound found
  | unknownComparison word =>
    "unknown condition operator '" ++ word ++
      "' (expected equals, contains, startswith or endswith)"
  | expectedEnd found => "unexpected " ++ found.describe ++ " after end of statement"
  | badTarget found => "invalid assignment target " ++ found.describe

end SyntaxError

/-- A call whose arguments are not all read. -/
structure OpenCall where
  function : String
  args : List Expr
deriving Repr, Inhabited

def OpenCall.push (call : OpenCall) (arg : Expr) : OpenCall :=
  { call with args := call.args ++ [arg] }

def OpenCall.toExpr (call : OpenCall) : Expr := .call call.function call.args

namespace Expr

mutual

/-- Reads an expression that stands as the next argument of the innermost open call, or alone. -/
def operand (calls : List OpenCall) : List Token → Except SyntaxError Expr × List Token
  | [] => (.error (.expectedExpr none), [])
  | .text value :: rest => resume calls (.text value) rest
  | .word function :: .leftParen :: .rightParen :: rest => resume calls (.call function []) rest
  | .word function :: .leftParen :: rest => operand (⟨function, []⟩ :: calls) rest
  | .word name :: rest => resume calls (.var name) rest
  | token :: rest => (.error (.expectedExpr (some token)), rest)

/-- Goes on after an expression: with the innermost open call, or to the end of the reading. -/
def resume : List OpenCall → Expr → List Token → Except SyntaxError Expr × List Token
  | [], e, rest => (.ok e, rest)
  | inner :: _, _, [] => (.error (.unclosedCall inner.function), [])
  | inner :: outer, e, .comma :: rest => operand (inner.push e :: outer) rest
  | inner :: outer, e, .rightParen :: rest => resume outer (inner.push e).toExpr rest
  | inner :: _, _, token :: rest => (.error (.expectedArgEnd inner.function token), rest)

end

end Expr

abbrev Reading := ExceptT SyntaxError (StateM (List Token))

namespace Reading

/-- Reads `tokens`: what was read, or why not, and what is left. -/
def run {α : Type} (reading : Reading α) (tokens : List Token) :
    Except SyntaxError α × List Token :=
  ExceptT.run reading tokens

def next : Reading (Option Token) :=
  modifyGet fun tokens => (tokens.head?, tokens.tail)

def expr : Reading Expr := ExceptT.mk (Expr.operand [])

/-- Takes a word; `what` says what it is for. -/
def word (what : String) : Reading String := do
  match ← next with
  | some (.word value) => pure value
  | found => throw (.expectedWord what found)

def keyword (expected : String) : Reading Unit := do
  match ← next with
  | some (.word value) =>
    if value = expected then pure ()
    else throw (.expectedKeyword expected (some (.word value)))
  | found => throw (.expectedKeyword expected found)

/-- Takes the next token if it is the given word, and tells whether it is. -/
def keyword? (expected : String) : Reading Bool :=
  modifyGet fun tokens =>
    if tokens.head? = some (.word expected) then (true, tokens.tail) else (false, tokens)

def finish : Reading Unit := do
  match ← get with
  | [] => pure ()
  | token :: _ => throw (.expectedEnd token)

def condition : Reading Condition := do
  let lhs ← expr
  let operator ← word "condition operator"
  match Comparison.ofKeyword? operator with
  | none => throw (.unknownComparison operator)
  | some comparison => pure ⟨lhs, comparison, ← expr⟩

def whole {α : Type} (reading : Reading α) (tokens : List Token) : Except SyntaxError α :=
  ((do let value ← reading; finish; pure value : Reading α).run tokens).1

end Reading

def Expr.parse (source : String) : Except SyntaxError Expr :=
  match Token.tokenize source with
  | .error e => .error (.lexical e)
  | .ok tokens => Reading.expr.whole tokens

end StringScript
