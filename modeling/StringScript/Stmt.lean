import StringScript.Expr

/-!
# Statements
-/

namespace StringScript

/-- What a `foreach` loop goes over: the characters of a text, its items, or its items if it is an
array and else its characters. -/
inductive Iteration
  | chars | items | auto
deriving Repr, DecidableEq, Inhabited

inductive Stmt
  | assign (target : String) (value : Expr)
  | print (value : Expr)
  | ifThen (test : Condition) (body : List Stmt)
  | ifThenElse (test : Condition) (thenBody elseBody : List Stmt)
  | foreach (kind : Iteration) (var : String) (source : Expr) (body : List Stmt)
  | whileDo (test : Condition) (body : List Stmt)
deriving Repr, Inhabited

end StringScript
