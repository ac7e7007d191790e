import Mathlib.Data.List.Basic
import StringScript.Proofs.Grammar.Statement

/-!
# Acceptance and refusal of expressions

The reader of expressions accepts the spelled expressions and nothing else. Where it refuses, it has
gone as far as it can: what it took before the refused token is the start of an expression, and what
it took with that token is not. The first half holds since the calls that are open can always be
closed. For the second half, a refusal does not depend on the tokens after it, while an expression
with the same start would be read to its end.
-/

namespace StringScript

/-! ### Acceptance -/

theorem Expr.tokens_injective : Function.Injective Expr.tokens := by
  intro e other h
  have hread : ∀ found : Expr, Reading.expr.run found.tokens = (.ok found, []) := fun found =>
    Reading.run_expr_eq_ok_iff.mpr ⟨(List.append_nil _).symm, found.endsBefore_nil⟩
  have hsame := (hread e).symm.trans (h ▸ hread other)
  cases hsame
  rfl

theorem Expr.parse_eq_ok_iff {source : String} {e : Expr} :
    Expr.parse source = .ok e ↔ Token.tokenize source = .ok e.tokens := by
  unfold Expr.parse
  cases htokenize : Token.tokenize source with
  | error fault => simp
  | ok tokens => simp [Reading.whole_eq_ok_iff, Reading.run_expr_eq_ok_iff]

/-- **The reader accepts exactly what is spelled.** This holds for expressions and for conditions at
the front of any tokens, and for an expression that is a whole text. No two expressions are spelled
the same. -/
theorem Reading.accepts_exactly_spelled :
    (∀ tokens e rest, expr.run tokens = (.ok e, rest) ↔
      tokens = e.tokens ++ rest ∧ e.EndsBefore rest) ∧
    (∀ tokens lhs comparison rhs rest, condition.run tokens = (.ok ⟨lhs, comparison, rhs⟩, rest) ↔
      tokens = lhs.tokens ++ [.word comparison.keyword] ++ rhs.tokens ++ rest ∧
        rhs.EndsBefore rest) ∧
    (∀ source e, Expr.parse source = .ok e ↔ Token.tokenize source = .ok e.tokens) ∧
    Function.Injective Expr.tokens := by
  refine ⟨fun _ _ _ => run_expr_eq_ok_iff, ?_, fun _ _ => Expr.parse_eq_ok_iff,
    Expr.tokens_injective⟩
  intro tokens lhs comparison rhs rest
  rw [run_condition_eq_ok_iff, Condition.tokens]
  simp

/-! ### Starts of expressions -/

/-- Some expression is spelled by the tokens and more, or by the tokens alone. -/
def Expr.StartsWith (tokens : List Token) : Prop := ∃ e : Expr, tokens <+: e.tokens

theorem Expr.StartsWith.of_append {tokens more : List Token}
    (h : StartsWith (tokens ++ more)) : StartsWith tokens := by
  obtain ⟨e, he⟩ := h
  exact ⟨e, (List.prefix_append tokens more).trans he⟩

/-- Open calls and a next argument start an expression: each call is closed after its argument. -/
theorem Expr.startsWith_tokensOf_append (calls : List OpenCall) (arg : Expr) :
    StartsWith (OpenCall.tokensOf calls ++ arg.tokens) := by
  induction calls generalizing arg with
  | nil => exact ⟨arg, List.prefix_rfl⟩
  | cons inner outer ih =>
      have hclosed := ih (inner.push arg).toExpr
      rw [OpenCall.tokens_toExpr_push] at hclosed
      rw [OpenCall.tokensOf]
      simp only [← List.append_assoc] at hclosed
      exact hclosed.of_append

theorem Expr.startsWith_tokensOf (calls : List OpenCall) :
    StartsWith (OpenCall.tokensOf calls) :=
  (startsWith_tokensOf_append calls (.text "")).of_append

/-! ### Refusal -/

/-- The token that an error names as found, where an expression was to be read; `none` is the end of
the tokens. -/
inductive SyntaxError.Finds : SyntaxError → Option Token → Prop
  | operand (found : Option Token) : Finds (.expectedExpr found) found
  | argEnd (function : String) (found : Token) : Finds (.expectedArgEnd function found) (some found)
  | unclosed (function : String) : Finds (.unclosedCall function) none

/-- A reading, of which the tokens `before` are already taken, refuses some tokens at their end or
at the first of them with which no expression starts, and leaves what is after that token. -/
inductive Expr.Refuses (read : List Token → Except SyntaxError Expr × List Token)
    (before : List Token) (error : SyntaxError) : (tokens rest : List Token) → Prop
  | atEnd (taken : List Token) (hfinds : error.Finds none)
    (hstarts : Expr.StartsWith (before ++ taken)) : Refuses read before error taken []
  | atToken (taken : List Token) (found : Token) (rest : List Token)
    (hfinds : error.Finds (some found)) (hstarts : Expr.StartsWith (before ++ taken))
    (hsame : ∀ later, read (taken ++ found :: later) = (.error error, later)) :
    Refuses read before error (taken ++ found :: rest) rest

/-- A reading that takes `front` first refuses where the reading after it does. Whether `front` is
taken may depend on one more token. -/
theorem Expr.Refuses.prepend {read next : List Token → Except SyntaxError Expr × List Token}
    {before front tokens rest : List Token} {error : SyntaxError}
    (h : Refuses next (before ++ front) error tokens rest)
    (hread : ∀ others : List Token, others.head? = tokens.head? →
      read (front ++ others) = next others) :
    Refuses read before error (front ++ tokens) rest := by
  cases h with
  | atEnd _ hfinds hstarts =>
      rw [List.append_assoc] at hstarts
      exact .atEnd _ hfinds hstarts
  | atToken taken found _ hfinds hstarts hsame =>
      rw [List.append_assoc] at hstarts
      rw [← List.append_assoc]
      refine .atToken _ found rest hfinds hstarts fun later => ?_
      have hhead : (taken ++ found :: later).head? = (taken ++ found :: rest).head? := by
        cases taken <;> rfl
      rw [List.append_assoc, hread _ hhead, hsame]

namespace Expr

theorem refuses_operand {error : SyntaxError} {rest : List Token} :
    ∀ (calls : List OpenCall) (tokens : List Token), operand calls tokens = (.error error, rest) →
      Refuses (operand calls) (OpenCall.tokensOf calls) error tokens rest := by
  apply Expr.operand.induct
    (fun calls tokens => operand calls tokens = (.error error, rest) →
      Refuses (operand calls) (OpenCall.tokensOf calls) error tokens rest)
    (fun calls inner tokens => resume calls inner tokens = (.error error, rest) →
      Refuses (resume calls inner) (OpenCall.tokensOf calls ++ inner.tokens) error tokens rest)
  case case1 =>
    intro calls h
    rw [operand] at h
    cases h
    exact .atEnd [] (.operand none) (by simpa using startsWith_tokensOf calls)
  case case2 =>
    intro calls value tokens ih h
    rw [operand] at h
    have hrest := ih h
    rw [Expr.tokens] at hrest
    exact hrest.prepend fun others _ => operand.eq_2 calls value others
  case case3 =>
    intro calls function tokens ih h
    rw [operand] at h
    have hrest := ih h
    rw [Expr.tokens, argTokens] at hrest
    exact hrest.prepend fun others _ => operand.eq_3 calls function others
  case case4 =>
    intro calls function tokens hclose ih h
    rw [operand.eq_4 _ _ _ hclose] at h
    have hrest := ih h
    rw [OpenCall.tokensOf, OpenCall.tokens, List.flatMap_nil] at hrest
    refine hrest.prepend fun others hhead => operand.eq_4 calls function others ?_
    rintro later rfl
    obtain ⟨more, rfl⟩ := List.head?_eq_some_iff.mp hhead.symm
    exact hclose more rfl
  case case5 =>
    intro calls name tokens hclosed hopen ih h
    rw [operand.eq_5 _ _ _ hclosed hopen] at h
    have hrest := ih h
    rw [Expr.tokens] at hrest
    refine hrest.prepend fun others hhead => ?_
    have hopen' : ∀ later, others = .leftParen :: later → False := by
      rintro later rfl
      obtain ⟨more, rfl⟩ := List.head?_eq_some_iff.mp hhead.symm
      exact hopen more rfl
    exact operand.eq_5 calls name others (fun _ => hopen' _) hopen'
  case case6 =>
    intro calls token tokens htext _ _ hword h
    have hsame : ∀ later, operand calls (token :: later) =
        (.error (.expectedExpr (some token)), later) := by
      intro later
      cases token with
      | text value => exact absurd rfl (htext value)
      | word name => exact absurd rfl (hword name)
      | leftParen => rfl
      | rightParen => rfl
      | comma => rfl
      | assign => rfl
    rw [hsame] at h
    cases h
    exact .atToken [] token rest (.operand _) (by simpa using startsWith_tokensOf calls) hsame
  case case7 =>
    intro inner tokens h
    rw [resume] at h
    cases h
  case case8 =>
    intro inner outer arg h
    rw [resume] at h
    cases h
    exact .atEnd [] (.unclosed _)
      (by simpa using startsWith_tokensOf_append (inner :: outer) arg)
  case case9 =>
    intro inner outer arg tokens ih h
    rw [resume] at h
    have hrest := ih h
    rw [OpenCall.tokensOf, OpenCall.tokens_push, ← List.append_assoc, ← List.append_assoc]
      at hrest
    exact hrest.prepend fun others _ => resume.eq_3 arg inner outer others
  case case10 =>
    intro inner outer arg tokens ih h
    rw [resume] at h
    have hrest := ih h
    rw [OpenCall.tokens_toExpr_push, ← List.append_assoc, ← List.append_assoc] at hrest
    exact hrest.prepend fun others _ => resume.eq_4 arg inner outer others
  case case11 =>
    intro inner outer arg token tokens hcomma hclose h
    have hsame : ∀ later, resume (inner :: outer) arg (token :: later) =
        (.error (.expectedArgEnd inner.function token), later) := fun later =>
      resume.eq_5 arg inner outer token later hcomma hclose
    rw [hsame] at h
    cases h
    exact .atToken [] token rest (.argEnd _ _)
      (by simpa using startsWith_tokensOf_append (inner :: outer) arg) hsame

end Expr

/-- **An expression is refused at the first token that cannot be right.** The tokens before the one
that the error names start an expression, and with that token they start none. The refused token is
taken, and no token after it. -/
theorem Reading.refuses_first_wrong_token {tokens rest : List Token} {error : SyntaxError}
    (h : expr.run tokens = (.error error, rest)) :
    ∃ k ≤ tokens.length, error.Finds tokens[k]? ∧ Expr.StartsWith (tokens.take k) ∧
      (k < tokens.length → ¬ Expr.StartsWith (tokens.take (k + 1))) ∧
      rest = tokens.drop (k + 1) := by
  cases Expr.refuses_operand [] tokens h with
  | atEnd _ hfinds hstarts =>
      refine ⟨tokens.length, Nat.le_refl _, ?_, ?_, fun hlt => absurd hlt (Nat.lt_irrefl _), ?_⟩
      · rwa [List.getElem?_eq_none (Nat.le_refl _)]
      · rwa [List.take_length]
      · rw [List.drop_eq_nil_of_le (Nat.le_succ _)]
  | atToken taken found _ hfinds hstarts hsame =>
      have htake : (taken ++ found :: rest).take (taken.length + 1) = taken ++ [found] := by
        rw [List.take_length_add_append, List.take_succ_cons, List.take_zero]
      refine ⟨taken.length, by simp, by simpa using hfinds, ?_, ?_, by simp⟩
      · rw [List.take_left]
        exact hstarts
      · rintro - ⟨e, later, he⟩
        rw [htake, List.append_assoc] at he
        -- The expression would be read to its end, but its start is refused.
        have hread : expr.run e.tokens = (.ok e, []) :=
          run_expr_eq_ok_iff.mpr ⟨(List.append_nil _).symm, e.endsBefore_nil⟩
        have hrefused : expr.run e.tokens = (.error error, later) := by
          rw [← he]
          exact hsame later
        rw [hread] at hrefused
        cases hrefused

/-- The argument of an inner call is followed by an equals sign. -/
theorem Reading.refuses_first_wrong_token_nested :
    let tokens : List Token := [.word "f", .leftParen, .text "a", .comma, .word "g", .leftParen,
      .word "1", .assign, .rightParen, .rightParen]
    let error : SyntaxError := .expectedArgEnd "g" .assign
    expr.run tokens = (.error error, [.rightParen, .rightParen]) ∧
      ∃ k ≤ tokens.length, error.Finds tokens[k]? ∧ Expr.StartsWith (tokens.take k) ∧
        (k < tokens.length → ¬ Expr.StartsWith (tokens.take (k + 1))) ∧
        [.rightParen, .rightParen] = tokens.drop (k + 1) := by
  intro tokens error
  have h : expr.run tokens = (.error error, [.rightParen, .rightParen]) := rfl
  exact ⟨h, refuses_first_wrong_token h⟩

end StringScript
