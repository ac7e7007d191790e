import Mathlib.Data.List.Basic
import StringScript.Proofs.Grammar.Expression
import StringScript.Stmt.Parser

/-!
# Statements as tokens

The readings of a statement of one line, and of the first line of a block, succeed exactly on the
tokens that spell one. A loop that does not say what it goes over is the only case where the tokens
could be taken in two ways: a variable that is called like the word for it is that word instead.
-/

namespace StringScript

/-! ### Readings that succeed -/

namespace Reading

variable {α β : Type} {tokens rest : List Token}

theorem run_bind (x : Reading α) (f : α → Reading β) (tokens : List Token) :
    (x >>= f).run tokens = match x.run tokens with
      | (.ok value, rest) => (f value).run rest
      | (.error e, rest) => (.error e, rest) := by
  change (match x.run tokens with | (outcome, rest) => ExceptT.bindCont f outcome rest) = _
  rcases x.run tokens with ⟨_ | _, _⟩ <;> rfl

theorem run_bind_eq_ok_iff {x : Reading α} {f : α → Reading β} {value : β} :
    (x >>= f).run tokens = (.ok value, rest) ↔
      ∃ first later, x.run tokens = (.ok first, later) ∧ (f first).run later = (.ok value, rest) := by
  rw [run_bind]
  constructor
  · intro h
    rcases hx : x.run tokens with ⟨e | first, later⟩
    · rw [hx] at h
      cases h
    · rw [hx] at h
      exact ⟨first, later, rfl, h⟩
  · rintro ⟨first, later, hx, hf⟩
    rw [hx]
    exact hf

theorem run_pure_eq_ok_iff {first value : α} :
    (pure first : Reading α).run tokens = (.ok value, rest) ↔ value = first ∧ tokens = rest := by
  constructor
  · intro h
    cases h
    exact ⟨rfl, rfl⟩
  · rintro ⟨rfl, rfl⟩
    rfl

theorem run_throw_ne_ok (e : SyntaxError) (value : α) :
    (throw e : Reading α).run tokens ≠ (.ok value, rest) := by
  intro h
  cases h

theorem run_word_eq_ok_iff {what value : String} :
    (word what).run tokens = (.ok value, rest) ↔ tokens = .word value :: rest := by
  constructor
  · intro h
    match tokens, h with
    | .word found :: later, h =>
        cases h
        rfl
  · rintro rfl
    rfl

theorem run_keyword (expected found : String) (rest : List Token) :
    (keyword expected).run (.word found :: rest) =
      if found = expected then (.ok (), rest)
      else (.error (.expectedKeyword expected (some (.word found))), rest) := by
  change (if found = expected then (pure () : Reading Unit)
    else throw (.expectedKeyword expected (some (.word found)))).run rest = _
  split <;> rfl

theorem run_keyword_eq_ok_iff {expected : String} {value : Unit} :
    (keyword expected).run tokens = (.ok value, rest) ↔ tokens = .word expected :: rest := by
  constructor
  · intro h
    match tokens, h with
    | .word found :: later, h =>
        rw [run_keyword] at h
        split at h
        · next heq =>
            cases h
            rw [heq]
        · cases h
  · rintro rfl
    rw [run_keyword, if_pos rfl]

theorem run_keyword? (expected : String) (tokens : List Token) :
    (keyword? expected).run tokens =
      if tokens.head? = some (.word expected) then (.ok true, tokens.tail)
      else (.ok false, tokens) := by
  change (match (if tokens.head? = some (.word expected) then (true, tokens.tail)
    else (false, tokens)) with | (taken, rest) => (Except.ok taken, rest)) = _
  by_cases h : tokens.head? = some (.word expected)
  · rw [if_pos h, if_pos h]
  · rw [if_neg h, if_neg h]

theorem run_finish_eq_ok_iff {value : Unit} :
    finish.run tokens = (.ok value, rest) ↔ tokens = [] ∧ rest = [] := by
  constructor
  · intro h
    match tokens, h with
    | [], h =>
        cases h
        exact ⟨rfl, rfl⟩
  · rintro ⟨rfl, rfl⟩
    rfl

theorem whole_eq_ok_iff {reading : Reading α} {value : α} :
    reading.whole tokens = .ok value ↔ reading.run tokens = (.ok value, []) := by
  constructor
  · intro h
    obtain ⟨rest, hrun⟩ : ∃ rest, (reading >>= fun found => finish >>= fun _ => pure found).run
        tokens = (.ok value, rest) := ⟨_, Prod.ext h rfl⟩
    obtain ⟨found, later, hreading, hfinish⟩ := run_bind_eq_ok_iff.mp hrun
    obtain ⟨_, _, hend, hpure⟩ := run_bind_eq_ok_iff.mp hfinish
    obtain ⟨rfl, -⟩ := run_finish_eq_ok_iff.mp hend
    obtain ⟨rfl, -⟩ := run_pure_eq_ok_iff.mp hpure
    exact hreading
  · intro h
    have hrun : (reading >>= fun found => finish >>= fun _ => pure found).run tokens =
        (.ok value, []) := by
      rw [run_bind, h]
      rfl
    exact congrArg Prod.fst hrun

theorem run_condition_eq_ok_iff {c : Condition} :
    condition.run tokens = (.ok c, rest) ↔ tokens = c.tokens ++ rest ∧ c.rhs.EndsBefore rest := by
  unfold condition
  constructor
  · intro h
    obtain ⟨lhs, afterLhs, hlhs, hrest⟩ := run_bind_eq_ok_iff.mp h
    obtain ⟨operator, afterOperator, hoperator, hrhs⟩ := run_bind_eq_ok_iff.mp hrest
    rw [(run_expr_eq_ok_iff.mp hlhs).1, run_word_eq_ok_iff.mp hoperator]
    cases hcomparison : Comparison.ofKeyword? operator with
    | none =>
        rw [hcomparison] at hrhs
        exact absurd hrhs (run_throw_ne_ok _ _)
    | some comparison =>
        rw [hcomparison] at hrhs
        obtain ⟨rhs, afterRhs, hexpr, hpure⟩ := run_bind_eq_ok_iff.mp hrhs
        obtain ⟨rfl, rfl⟩ := run_pure_eq_ok_iff.mp hpure
        obtain ⟨rfl, hends⟩ := run_expr_eq_ok_iff.mp hexpr
        rw [← Comparison.keyword_eq_of_ofKeyword? hcomparison]
        exact ⟨by simp [Condition.tokens], hends⟩
  · rintro ⟨rfl, hends⟩
    have hlhs : expr.run (c.tokens ++ rest) =
        (.ok c.lhs, .word c.comparison.keyword :: (c.rhs.tokens ++ rest)) :=
      run_expr_eq_ok_iff.mpr ⟨by simp [Condition.tokens], c.lhs.endsBefore_word _ _⟩
    have hrhs : expr.run (c.rhs.tokens ++ rest) = (.ok c.rhs, rest) :=
      run_expr_eq_ok_iff.mpr ⟨rfl, hends⟩
    rw [run_bind, hlhs]
    dsimp only
    rw [run_bind, run_word_eq_ok_iff.mpr rfl]
    dsimp only
    rw [Comparison.ofKeyword?_keyword]
    dsimp only
    rw [run_bind, hrhs]
    rfl

end Reading

/-! ### The tokens of a line -/

/-- The word for what a loop goes over, if it has one. -/
def Iteration.tokens : Iteration → List Token
  | .chars => [.word "char"]
  | .items => [.word "item"]
  | .auto => []

/-- Without a word for what it goes over, a loop cannot have a variable that reads as one. -/
def Iteration.admits (kind : Iteration) (var : String) : Bool :=
  kind ≠ .auto || (var ≠ "char" && var ≠ "item")

def Header.tokens : Header → List Token
  | .ifThen test => .word "if" :: (test.tokens ++ [.word "then"])
  | .foreach kind var source =>
    .word "foreach" :: (kind.tokens ++ .word var :: .word "in" :: (source.tokens ++ [.word "do"]))
  | .whileDo test => .word "while" :: (test.tokens ++ [.word "do"])

def Header.isClear : Header → Bool
  | .foreach kind var _ => kind.admits var
  | _ => true

namespace Reading

variable {tokens : List Token}

/-- The first line of a block with a condition: `if` and `while` differ in their words only. -/
def guarded (first last : String) (build : Condition → Header) : Reading Header := do
  keyword first
  let test ← condition
  keyword last
  pure (build test)

theorem whole_guarded_eq_ok_iff {first last : String} {build : Condition → Header}
    {header : Header} :
    (guarded first last build).whole tokens = .ok header ↔
      ∃ test, header = build test ∧ tokens = .word first :: (test.tokens ++ [.word last]) := by
  simp only [whole_eq_ok_iff, guarded, run_bind_eq_ok_iff, run_keyword_eq_ok_iff,
    run_condition_eq_ok_iff, run_pure_eq_ok_iff]
  constructor
  · rintro ⟨_, _, rfl, test, _, ⟨rfl, -⟩, _, _, rfl, rfl, rfl⟩
    exact ⟨test, rfl, rfl⟩
  · rintro ⟨test, rfl, rfl⟩
    exact ⟨(), _, rfl, test, _, ⟨rfl, test.rhs.endsBefore_word _ _⟩, (), _, rfl, rfl, rfl⟩

theorem whole_ifHeader_eq_ok_iff {header : Header} :
    ifHeader.whole tokens = .ok header ↔
      ∃ test, header = .ifThen test ∧ tokens = (Header.ifThen test).tokens :=
  whole_guarded_eq_ok_iff

theorem whole_whileHeader_eq_ok_iff {header : Header} :
    whileHeader.whole tokens = .ok header ↔
      ∃ test, header = .whileDo test ∧ tokens = (Header.whileDo test).tokens :=
  whole_guarded_eq_ok_iff

/-- What a loop says after the word for what it goes over. -/
def loopRest (kind : Iteration) : Reading Header := do
  let var ← word "loop variable"
  keyword "in"
  let source ← expr
  keyword "do"
  pure (.foreach kind var source)

theorem run_loopRest_eq_ok_iff {kind : Iteration} {header : Header} :
    (loopRest kind).run tokens = (.ok header, []) ↔
      ∃ var source, header = .foreach kind var source ∧
        tokens = .word var :: .word "in" :: (source.tokens ++ [.word "do"]) := by
  simp only [loopRest, run_bind_eq_ok_iff, run_keyword_eq_ok_iff, run_word_eq_ok_iff,
    run_expr_eq_ok_iff, run_pure_eq_ok_iff]
  constructor
  · rintro ⟨var, _, rfl, _, _, rfl, source, _, ⟨rfl, -⟩, _, _, rfl, rfl, rfl⟩
    exact ⟨var, source, rfl, rfl⟩
  · rintro ⟨var, source, rfl, rfl⟩
    exact ⟨var, _, rfl, (), _, rfl, source, _, ⟨rfl, source.endsBefore_word _ _⟩, (), _, rfl, rfl,
      rfl⟩

theorem run_foreachHeader (tokens : List Token) :
    foreachHeader.run (.word "foreach" :: tokens) =
      if tokens.head? = some (.word "char") then (loopRest .chars).run tokens.tail
      else if tokens.head? = some (.word "item") then (loopRest .items).run tokens.tail
      else (loopRest .auto).run tokens := by
  have hform : foreachHeader = keyword "foreach" >>= fun _ => keyword? "char" >>= fun isChar =>
      if isChar then loopRest .chars
      else keyword? "item" >>= fun isItem =>
        if isItem then loopRest .items else loopRest .auto := rfl
  rw [hform, run_bind, run_keyword, if_pos rfl]
  dsimp only
  rw [run_bind, run_keyword?]
  by_cases hchar : tokens.head? = some (.word "char")
  · rw [if_pos hchar, if_pos hchar]
    rfl
  · rw [if_neg hchar, if_neg hchar]
    dsimp only
    rw [if_neg Bool.false_ne_true, run_bind, run_keyword?]
    by_cases hitem : tokens.head? = some (.word "item")
    · rw [if_pos hitem, if_pos hitem]
      rfl
    · rw [if_neg hitem, if_neg hitem]
      rfl

theorem whole_foreachHeader_eq_ok_iff {header : Header} :
    foreachHeader.whole tokens = .ok header ↔
      ∃ kind var source, header = .foreach kind var source ∧ kind.admits var ∧
        tokens = (Header.foreach kind var source).tokens := by
  rw [whole_eq_ok_iff]
  constructor
  · intro h
    obtain ⟨_, later, hforeach, -⟩ := run_bind_eq_ok_iff.mp h
    rw [run_keyword_eq_ok_iff.mp hforeach, run_foreachHeader] at h
    rw [run_keyword_eq_ok_iff.mp hforeach]
    by_cases hchar : later.head? = some (.word "char")
    · rw [if_pos hchar] at h
      obtain ⟨var, source, rfl, htail⟩ := run_loopRest_eq_ok_iff.mp h
      refine ⟨.chars, var, source, rfl, rfl, ?_⟩
      rw [← List.cons_head?_tail hchar, htail]
      rfl
    · rw [if_neg hchar] at h
      by_cases hitem : later.head? = some (.word "item")
      · rw [if_pos hitem] at h
        obtain ⟨var, source, rfl, htail⟩ := run_loopRest_eq_ok_iff.mp h
        refine ⟨.items, var, source, rfl, rfl, ?_⟩
        rw [← List.cons_head?_tail hitem, htail]
        rfl
      · rw [if_neg hitem] at h
        obtain ⟨var, source, rfl, rfl⟩ := run_loopRest_eq_ok_iff.mp h
        refine ⟨.auto, var, source, rfl, ?_, rfl⟩
        have hvar : var ≠ "char" ∧ var ≠ "item" :=
          ⟨fun heq => hchar (heq ▸ rfl), fun heq => hitem (heq ▸ rfl)⟩
        simp [Iteration.admits, hvar]
  · rintro ⟨kind, var, source, rfl, hadmits, rfl⟩
    have hrest : (loopRest kind).run (.word var :: .word "in" :: (source.tokens ++ [.word "do"])) =
        (.ok (.foreach kind var source), []) := run_loopRest_eq_ok_iff.mpr ⟨var, source, rfl, rfl⟩
    rw [Header.tokens, run_foreachHeader]
    cases kind with
    | chars => exact hrest
    | items => exact hrest
    | auto =>
        have hvar : var ≠ "char" ∧ var ≠ "item" := by simpa [Iteration.admits] using hadmits
        rw [if_neg, if_neg]
        · exact hrest
        · simpa [Iteration.tokens] using hvar.2
        · simpa [Iteration.tokens] using hvar.1

theorem run_assignment (target : String) (later : List Token) :
    assignment.run (.word target :: .assign :: later) =
      (expr >>= fun e => pure (Stmt.assign target e)).run later := rfl

theorem whole_assignment_eq_ok_iff {stmt : Stmt} (h : tokens[1]? = some .assign) :
    assignment.whole tokens = .ok stmt ↔
      ∃ target e, stmt = .assign target e ∧ tokens = .word target :: .assign :: e.tokens := by
  rw [whole_eq_ok_iff]
  constructor
  · intro hrun
    match tokens, h with
    | .word target :: .assign :: later, _ =>
        rw [run_assignment] at hrun
        obtain ⟨e, rest, hexpr, hpure⟩ := run_bind_eq_ok_iff.mp hrun
        obtain ⟨rfl, rfl⟩ := run_pure_eq_ok_iff.mp hpure
        have htokens := (run_expr_eq_ok_iff.mp hexpr).1
        rw [List.append_nil] at htokens
        exact ⟨target, e, rfl, by rw [htokens]⟩
  · rintro ⟨target, e, rfl, rfl⟩
    have hexpr : expr.run e.tokens = (.ok e, []) :=
      run_expr_eq_ok_iff.mpr ⟨(List.append_nil _).symm, e.endsBefore_nil⟩
    rw [run_assignment, run_bind, hexpr]
    rfl

theorem whole_printStmt_eq_ok_iff {stmt : Stmt} :
    printStmt.whole tokens = .ok stmt ↔
      ∃ e, stmt = .print e ∧ tokens = .word "print" :: e.tokens := by
  simp only [whole_eq_ok_iff, printStmt, run_bind_eq_ok_iff, run_keyword_eq_ok_iff,
    run_expr_eq_ok_iff, run_pure_eq_ok_iff]
  constructor
  · rintro ⟨_, _, rfl, e, _, ⟨rfl, -⟩, rfl, rfl⟩
    exact ⟨e, rfl, by rw [List.append_nil]⟩
  · rintro ⟨e, rfl, rfl⟩
    exact ⟨(), _, rfl, e, [], ⟨by rw [List.append_nil], e.endsBefore_nil⟩, rfl, rfl⟩

end Reading

end StringScript
