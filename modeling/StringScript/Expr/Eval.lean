import StringScript.Builtin.Apply
import StringScript.Store

/-!
# Values of expressions

Evaluation goes from left to right and stops at the first failure. The name and the number of
arguments of a call are checked before any argument is evaluated.
-/

namespace StringScript

mutual

def Expr.eval (store : Store) : Expr → Except Failure String
  | .text value => .ok value
  | .var name => store.lookup name
  | .call function args => do
    let f ← Builtin.resolve function args.length
    f.apply (← Expr.evalArgs store args)

def Expr.evalArgs (store : Store) : List Expr → Except Failure (List String)
  | [] => .ok []
  | arg :: args => do
    let value ← arg.eval store
    return value :: (← Expr.evalArgs store args)

end

theorem Expr.length_of_evalArgs {store : Store} {args : List Expr} {values : List String}
    (h : Expr.evalArgs store args = .ok values) : values.length = args.length := by
  induction args generalizing values with
  | nil =>
      rw [Expr.evalArgs] at h
      cases h
      rfl
  | cons arg args ih =>
      rw [Expr.evalArgs] at h
      cases harg : arg.eval store with
      | error failure =>
          rw [harg] at h
          cases h
      | ok value =>
          cases hargs : Expr.evalArgs store args with
          | error failure =>
              rw [harg, hargs] at h
              cases h
          | ok others =>
              rw [harg, hargs] at h
              cases h
              simp [ih hargs]

/-- Compares two values; on the right stands what is looked for. -/
def Comparison.holds (c : Comparison) (lhs rhs : String) : Bool :=
  match c with
  | equals => lhs = rhs
  | contains => Text.hasInfix rhs.toList lhs.toList
  | startsWith => rhs.toList.isPrefixOf lhs.toList
  | endsWith => rhs.toList.isSuffixOf lhs.toList

def Condition.eval (store : Store) (c : Condition) : Except Failure Bool := do
  let lhs ← c.lhs.eval store
  let rhs ← c.rhs.eval store
  return c.comparison.holds lhs rhs

end StringScript
