import StringScript.ArrayText
import StringScript.Proofs.Grammar.Concatenation

/-!
# Literals

No literal of a program holds a separator: the reader of tokens refuses the character, no escape
means it, and a program that is read has only literals that are tokens of its lines.
-/

namespace StringScript

open ArrayText (separator)

/-! ### Literals of programs -/

mutual

def Expr.literals : Expr → List String
  | .text value => [value]
  | .var _ => []
  | .call _ args => Expr.argLiterals args

def Expr.argLiterals : List Expr → List String
  | [] => []
  | arg :: args => arg.literals ++ Expr.argLiterals args

end

def Condition.literals (c : Condition) : List String := c.lhs.literals ++ c.rhs.literals

mutual

def Stmt.literals : Stmt → List String
  | .assign _ value => value.literals
  | .print value => value.literals
  | .ifThen test body => test.literals ++ Stmt.literalsAll body
  | .ifThenElse test thenBody elseBody =>
    test.literals ++ (Stmt.literalsAll thenBody ++ Stmt.literalsAll elseBody)
  | .foreach _ _ source body => source.literals ++ Stmt.literalsAll body
  | .whileDo test body => test.literals ++ Stmt.literalsAll body

def Stmt.literalsAll : List Stmt → List String
  | [] => []
  | stmt :: rest => stmt.literals ++ Stmt.literalsAll rest

end

/-! ### Literals are tokens -/

mutual

theorem Expr.mem_tokens_of_mem_literals {value : String} :
    ∀ e : Expr, value ∈ e.literals → .text value ∈ e.tokens
  | .text _, h => by
    rw [Expr.literals, List.mem_singleton] at h
    rw [Expr.tokens, h]
    exact List.mem_singleton_self _
  | .var _, h => by
    rw [Expr.literals] at h
    cases h
  | .call function args, h => by
    rw [Expr.literals] at h
    rw [Expr.tokens]
    simp [Expr.mem_argTokens_of_mem_argLiterals args h]

theorem Expr.mem_argTokens_of_mem_argLiterals {value : String} :
    ∀ args : List Expr, value ∈ Expr.argLiterals args → .text value ∈ Expr.argTokens args
  | [], h => by
    rw [Expr.argLiterals] at h
    cases h
  | [arg], h => by
    rw [Expr.argLiterals, Expr.argLiterals, List.append_nil] at h
    rw [Expr.argTokens]
    exact arg.mem_tokens_of_mem_literals h
  | arg :: next :: args, h => by
    rw [Expr.argLiterals, List.mem_append] at h
    rw [Expr.argTokens_cons_cons, List.mem_append]
    refine h.imp (arg.mem_tokens_of_mem_literals ·) fun hargs => ?_
    exact List.mem_cons_of_mem _ (Expr.mem_argTokens_of_mem_argLiterals (next :: args) hargs)

end

theorem Condition.mem_tokens_of_mem_literals {value : String} (c : Condition)
    (h : value ∈ c.literals) : .text value ∈ c.tokens := by
  rw [Condition.literals, List.mem_append] at h
  rw [Condition.tokens, List.mem_append]
  refine h.imp (c.lhs.mem_tokens_of_mem_literals ·) fun hrhs => ?_
  exact List.mem_cons_of_mem _ (c.rhs.mem_tokens_of_mem_literals hrhs)

mutual

theorem Stmt.mem_tokenLines_of_mem_literals {value : String} :
    ∀ stmt : Stmt, value ∈ stmt.literals → .text value ∈ stmt.tokenLines.flatten
  | .assign _ e, h => by
    rw [Stmt.literals] at h
    simp [Stmt.tokenLines, e.mem_tokens_of_mem_literals h]
  | .print e, h => by
    rw [Stmt.literals] at h
    simp [Stmt.tokenLines, e.mem_tokens_of_mem_literals h]
  | .ifThen test body, h => by
    rw [Stmt.literals, List.mem_append] at h
    rw [Stmt.tokenLines, List.flatten_cons, List.flatten_append, List.mem_append, List.mem_append]
    rcases h with htest | hbody
    · simp [Header.tokens, test.mem_tokens_of_mem_literals htest]
    · exact .inr (.inl (Stmt.mem_tokenLinesAll_of_mem_literalsAll body hbody))
  | .ifThenElse test thenBody elseBody, h => by
    rw [Stmt.literals, List.mem_append, List.mem_append] at h
    rcases h with htest | hthen | helse
    · simp [Stmt.tokenLines, Header.tokens, test.mem_tokens_of_mem_literals htest]
    · have hlines := Stmt.mem_tokenLinesAll_of_mem_literalsAll thenBody hthen
      rw [Stmt.tokenLines, List.flatten_cons, List.flatten_append]
      exact List.mem_append_right _ (List.mem_append_left _ hlines)
    · have hlines := Stmt.mem_tokenLinesAll_of_mem_literalsAll elseBody helse
      rw [Stmt.tokenLines, List.flatten_cons, List.flatten_append, List.flatten_cons,
        List.flatten_append]
      simp only [List.mem_append, hlines, true_or, or_true]
  | .foreach kind var source body, h => by
    rw [Stmt.literals, List.mem_append] at h
    rw [Stmt.tokenLines, List.flatten_cons, List.flatten_append, List.mem_append, List.mem_append]
    rcases h with hsource | hbody
    · simp [Header.tokens, source.mem_tokens_of_mem_literals hsource]
    · exact .inr (.inl (Stmt.mem_tokenLinesAll_of_mem_literalsAll body hbody))
  | .whileDo test body, h => by
    rw [Stmt.literals, List.mem_append] at h
    rw [Stmt.tokenLines, List.flatten_cons, List.flatten_append, List.mem_append, List.mem_append]
    rcases h with htest | hbody
    · simp [Header.tokens, test.mem_tokens_of_mem_literals htest]
    · exact .inr (.inl (Stmt.mem_tokenLinesAll_of_mem_literalsAll body hbody))

theorem Stmt.mem_tokenLinesAll_of_mem_literalsAll {value : String} :
    ∀ block : List Stmt, value ∈ Stmt.literalsAll block →
      .text value ∈ (Stmt.tokenLinesAll block).flatten
  | [], h => by
    rw [Stmt.literalsAll] at h
    cases h
  | stmt :: rest, h => by
    rw [Stmt.literalsAll, List.mem_append] at h
    rw [Stmt.tokenLinesAll, List.flatten_append, List.mem_append]
    exact h.imp (stmt.mem_tokenLines_of_mem_literals ·)
      (Stmt.mem_tokenLinesAll_of_mem_literalsAll rest ·)

end

/-! ### Literals without separators -/

/-- No literal of a program that can be read has a separator in it. -/
theorem separator_notMem_of_mem_literalsAll {source value : String} {program : List Stmt}
    (h : parseProgram source = .ok program) (hvalue : value ∈ Stmt.literalsAll program) :
    separator ∉ value.toList := by
  obtain ⟨-, tokens, htokens, hlines⟩ :=
    Outline.wellFormed_empty.addLines (addLines_of_parseProgram h)
  have hmem := Stmt.mem_tokenLinesAll_of_mem_literalsAll program hvalue
  obtain ⟨line, hline, htext⟩ := List.mem_flatten.mp hmem
  have hread : Stmt.tokenLinesAll program = tokens := by
    simpa [Outline.tokenLines, Outline.blockLines, Outline.empty, Stmt.tokenLinesAll] using hlines
  obtain ⟨place, hplace, rfl⟩ := List.getElem_of_mem (hread ▸ hline)
  have htokenize := htokens.get (htokens.length_eq ▸ hplace) hplace
  obtain ⟨_, hspelling⟩ := Token.exists_spelledBy_of_tokenize htokenize htext
  exact hspelling.separator_notMem

end StringScript
