import StringScript.Expr
import StringScript.Token

/-!
# Printing expressions

An expression as text, and as the tokens that spell it.
-/

namespace StringScript

mutual

def Expr.render : Expr → String
  | .text value => Text.quote value
  | .var name => name
  | .call function args => function ++ "(" ++ Expr.renderArgs args ++ ")"

def Expr.renderArgs : List Expr → String
  | [] => ""
  | [arg] => arg.render
  | arg :: args => arg.render ++ ", " ++ Expr.renderArgs args

end

def Condition.render (c : Condition) : String :=
  c.lhs.render ++ " " ++ c.comparison.keyword ++ " " ++ c.rhs.render

mutual

/-- The tokens that spell an expression. -/
def Expr.tokens : Expr → List Token
  | .text value => [.text value]
  | .var name => [.word name]
  | .call function args => .word function :: .leftParen :: Expr.argTokens args ++ [.rightParen]

def Expr.argTokens : List Expr → List Token
  | [] => []
  | [arg] => arg.tokens
  | arg :: args => arg.tokens ++ .comma :: Expr.argTokens args

end

def Condition.tokens (c : Condition) : List Token :=
  c.lhs.tokens ++ .word c.comparison.keyword :: c.rhs.tokens

end StringScript
