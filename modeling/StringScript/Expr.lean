/-!
# Expressions and conditions
-/

namespace StringScript

inductive Expr
  | text (value : String)
  | var (name : String)
  | call (function : String) (args : List Expr)
deriving Repr, Inhabited

inductive Comparison
  | equals | contains | startsWith | endsWith
deriving Repr, DecidableEq, Inhabited

structure Condition where
  lhs : Expr
  comparison : Comparison
  rhs : Expr
deriving Repr, Inhabited

namespace Comparison

def all : List Comparison := [equals, contains, startsWith, endsWith]

def keyword : Comparison → String
  | equals => "equals"
  | contains => "contains"
  | startsWith => "startswith"
  | endsWith => "endswith"

def ofKeyword? (word : String) : Option Comparison := all.find? (·.keyword = word)

@[simp]
theorem ofKeyword?_keyword (c : Comparison) : ofKeyword? c.keyword = some c := by
  cases c <;> decide

theorem keyword_eq_of_ofKeyword? {word : String} {c : Comparison} (h : ofKeyword? word = some c) :
    c.keyword = word := by
  simpa using List.find?_some h

end Comparison

end StringScript
