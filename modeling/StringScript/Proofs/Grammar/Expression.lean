import StringScript.Expr.Parser
import StringScript.Expr.Printer

/-!
# Expressions as tokens

A reading of an expression succeeds exactly on the tokens that spell one, and takes no more of them
than that. The calls that are open at some point of the reading spell what was read so far, so
nothing is lost from one step to the next; that gives one direction. For the other, reading the
tokens of an expression comes down to going on after it.
-/

namespace StringScript

/-- Where the tokens of an expression end: a name with a parenthesis after it begins a call. -/
def Expr.EndsBefore : Expr → List Token → Prop
  | .var _, .leftParen :: _ => False
  | _, _ => True

@[simp]
theorem Expr.endsBefore_nil (e : Expr) : e.EndsBefore [] := by
  cases e <;> trivial

@[simp]
theorem Expr.endsBefore_word (e : Expr) (value : String) (rest : List Token) :
    e.EndsBefore (.word value :: rest) := by
  cases e <;> trivial

@[simp]
theorem Expr.endsBefore_comma (e : Expr) (rest : List Token) : e.EndsBefore (.comma :: rest) := by
  cases e <;> trivial

@[simp]
theorem Expr.endsBefore_rightParen (e : Expr) (rest : List Token) :
    e.EndsBefore (.rightParen :: rest) := by
  cases e <;> trivial

theorem Expr.exists_tokens_eq_cons (e : Expr) :
    ∃ first rest, e.tokens = first :: rest ∧
      ((∃ value, first = .text value) ∨ ∃ value, first = .word value) := by
  cases e with
  | text value => exact ⟨.text value, [], by rw [Expr.tokens], .inl ⟨value, rfl⟩⟩
  | var name => exact ⟨.word name, [], by rw [Expr.tokens], .inr ⟨name, rfl⟩⟩
  | call function args =>
      exact ⟨.word function, .leftParen :: argTokens args ++ [.rightParen], by rw [Expr.tokens]; rfl,
        .inr ⟨function, rfl⟩⟩

theorem Expr.argTokens_cons_cons (arg next : Expr) (args : List Expr) :
    argTokens (arg :: next :: args) = arg.tokens ++ .comma :: argTokens (next :: args) := by
  rw [argTokens]
  exact List.cons_ne_nil next args

theorem Expr.argTokens_append_ne_rightParen (arg : Expr) (args : List Expr)
    (others rest : List Token) : argTokens (arg :: args) ++ others ≠ .rightParen :: rest := by
  obtain ⟨first, later, harg, hfirst⟩ := arg.exists_tokens_eq_cons
  have hne : first ≠ .rightParen := by
    rintro rfl
    rcases hfirst with ⟨value, h⟩ | ⟨value, h⟩ <;> cases h
  cases args with
  | nil =>
      rw [argTokens, harg]
      exact fun h => hne (List.cons.inj h).1
  | cons next args =>
      rw [argTokens_cons_cons, harg]
      exact fun h => hne (List.cons.inj h).1

theorem Expr.argTokens_concat (args : List Expr) (last : Expr) :
    argTokens (args ++ [last]) =
      args.flatMap (fun arg => arg.tokens ++ [.comma]) ++ last.tokens := by
  induction args with
  | nil => rw [List.nil_append, argTokens, List.flatMap_nil, List.nil_append]
  | cons arg args ih =>
      have hne : args ++ [last] ≠ [] := List.append_ne_nil_of_right_ne_nil args (by simp)
      obtain ⟨next, others, hargs⟩ := List.exists_cons_of_ne_nil hne
      rw [List.cons_append, hargs, argTokens_cons_cons, ← hargs, ih, List.flatMap_cons]
      simp

/-! ### Only expressions are read -/

/-- The tokens of a call that is open, with a comma after each of its arguments. -/
def OpenCall.tokens (call : OpenCall) : List Token :=
  .word call.function :: .leftParen :: call.args.flatMap fun arg => arg.tokens ++ [.comma]

def OpenCall.tokensOf : List OpenCall → List Token
  | [] => []
  | inner :: outer => OpenCall.tokensOf outer ++ inner.tokens

theorem OpenCall.tokens_push (call : OpenCall) (arg : Expr) :
    (call.push arg).tokens = call.tokens ++ arg.tokens ++ [.comma] := by
  simp [OpenCall.tokens, OpenCall.push]

theorem OpenCall.tokens_toExpr_push (call : OpenCall) (arg : Expr) :
    (call.push arg).toExpr.tokens = call.tokens ++ arg.tokens ++ [.rightParen] := by
  rw [OpenCall.toExpr, Expr.tokens, OpenCall.push, Expr.argTokens_concat]
  simp [OpenCall.tokens]

namespace Expr

/-- What was read, and what is left, make up the tokens from the start of the outermost call. -/
theorem tokens_of_operand {e : Expr} {rest : List Token} :
    ∀ (calls : List OpenCall) (tokens : List Token), operand calls tokens = (.ok e, rest) →
      OpenCall.tokensOf calls ++ tokens = e.tokens ++ rest ∧ e.EndsBefore rest := by
  apply Expr.operand.induct
    (fun calls tokens => operand calls tokens = (.ok e, rest) →
      OpenCall.tokensOf calls ++ tokens = e.tokens ++ rest ∧ e.EndsBefore rest)
    (fun calls inner tokens => resume calls inner tokens = (.ok e, rest) →
      inner.EndsBefore tokens →
      OpenCall.tokensOf calls ++ inner.tokens ++ tokens = e.tokens ++ rest ∧ e.EndsBefore rest)
  -- The first six cases are the starts of an operand, the others the ways to go on after one.
  case case1 =>
    intro calls h
    simp [operand] at h
  case case2 =>
    intro calls value tokens ih h
    rw [operand] at h
    simpa [Expr.tokens] using ih h trivial
  case case3 =>
    intro calls function tokens ih h
    rw [operand] at h
    simpa [Expr.tokens, argTokens] using ih h trivial
  case case4 =>
    intro calls function tokens hclose ih h
    rw [operand.eq_4 _ _ _ hclose] at h
    simpa [OpenCall.tokensOf, OpenCall.tokens] using ih h
  case case5 =>
    intro calls name tokens hclosed hopen ih h
    rw [operand.eq_5 _ _ _ hclosed hopen] at h
    have hends : (Expr.var name).EndsBefore tokens := by
      unfold EndsBefore
      split
      · next heq => cases heq; exact hopen _ rfl
      · trivial
    simpa [Expr.tokens] using ih h hends
  case case6 =>
    intro calls token tokens htext hclosed hopen hword h
    rw [operand.eq_6 _ _ _ htext hclosed hopen hword] at h
    cases h
  case case7 =>
    intro inner tokens h hends
    rw [resume] at h
    cases h
    exact ⟨rfl, hends⟩
  case case8 =>
    intro inner outer arg h
    simp [resume] at h
  case case9 =>
    intro inner outer arg tokens ih h _
    rw [resume] at h
    simpa [OpenCall.tokensOf, OpenCall.tokens_push] using ih h
  case case10 =>
    intro inner outer arg tokens ih h _
    rw [resume] at h
    have hends : (inner.push arg).toExpr.EndsBefore tokens := trivial
    simpa [OpenCall.tokensOf, OpenCall.tokens_toExpr_push] using ih h hends
  case case11 =>
    intro inner outer arg token tokens hcomma hclose h
    rw [resume.eq_5 _ _ _ _ _ hcomma hclose] at h
    cases h

/-! ### All expressions are read -/

mutual

/-- The reading of an expression goes on after its tokens. -/
theorem operand_tokens :
    ∀ (e : Expr) (calls : List OpenCall) (rest : List Token), e.EndsBefore rest →
      operand calls (e.tokens ++ rest) = resume calls e rest
  | .text value, calls, rest, _ => by
    rw [Expr.tokens, List.singleton_append, operand]
  | .var name, calls, rest, hends => by
    have hopen : ∀ later, rest = .leftParen :: later → False := by
      intro later hrest
      rw [hrest] at hends
      exact hends
    rw [Expr.tokens, List.singleton_append, operand.eq_5 _ _ _ (fun _ => hopen _) hopen]
  | .call function [], calls, rest, _ => by
    rw [Expr.tokens, argTokens]
    exact operand.eq_3 calls function rest
  | .call function (arg :: args), calls, rest, _ => by
    have hclose : ∀ later, argTokens (arg :: args) ++ .rightParen :: rest = .rightParen :: later →
        False := fun later => argTokens_append_ne_rightParen arg args _ later
    have hargs := operand_argTokens (arg :: args) (by simp) function [] calls rest
    rw [Expr.tokens]
    simp only [List.cons_append, List.append_assoc, List.nil_append]
    rw [operand.eq_4 _ _ _ hclose, hargs, List.nil_append]

theorem operand_argTokens :
    ∀ (args : List Expr), args ≠ [] → ∀ (function : String) (before : List Expr)
      (calls : List OpenCall) (rest : List Token),
      operand (⟨function, before⟩ :: calls) (argTokens args ++ .rightParen :: rest) =
        resume calls (.call function (before ++ args)) rest
  | [], hne, _, _, _, _ => absurd rfl hne
  | [arg], _, function, before, calls, rest => by
    rw [argTokens, operand_tokens arg _ _ (arg.endsBefore_rightParen rest), resume]
    rfl
  | arg :: next :: args, _, function, before, calls, rest => by
    have hnext := operand_argTokens (next :: args) (by simp) function (before ++ [arg]) calls rest
    rw [argTokens_cons_cons, List.append_assoc, List.cons_append,
      operand_tokens arg _ _ (arg.endsBefore_comma _), resume, OpenCall.push, hnext]
    simp

end

end Expr

/-- **Expressions are read as they are spelled.** A reading takes an expression from the front of
some tokens exactly if they start with its tokens, and these cannot be the start of a call. -/
theorem Reading.run_expr_eq_ok_iff {tokens rest : List Token} {e : Expr} :
    Reading.expr.run tokens = (.ok e, rest) ↔ tokens = e.tokens ++ rest ∧ e.EndsBefore rest := by
  constructor
  · intro h
    exact Expr.tokens_of_operand [] tokens h
  · rintro ⟨rfl, hends⟩
    change Expr.operand [] (e.tokens ++ rest) = _
    rw [Expr.operand_tokens e [] rest hends, Expr.resume]

end StringScript
