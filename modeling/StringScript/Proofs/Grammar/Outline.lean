import StringScript.Proofs.Grammar.Line

/-!
# Outlines as tokens

Statements have tokens line by line, and so have the statements and open blocks of an outline. Each
line that is read adds its tokens to those of the outline, whatever block it opens or ends, so an
outline always spells the lines that it was read from.
-/

namespace StringScript

/-! ### The lines of a program -/

mutual

/-- The tokens of a statement, line by line. -/
def Stmt.tokenLines : Stmt → List (List Token)
  | .assign target value => [.word target :: .assign :: value.tokens]
  | .print value => [.word "print" :: value.tokens]
  | .ifThen test body =>
    (Header.ifThen test).tokens :: (tokenLinesAll body ++ [[.word "endif"]])
  | .ifThenElse test thenBody elseBody =>
    (Header.ifThen test).tokens ::
      (tokenLinesAll thenBody ++ [.word "else"] :: (tokenLinesAll elseBody ++ [[.word "endif"]]))
  | .foreach kind var source body =>
    (Header.foreach kind var source).tokens :: (tokenLinesAll body ++ [[.word "endfor"]])
  | .whileDo test body =>
    (Header.whileDo test).tokens :: (tokenLinesAll body ++ [[.word "endwhile"]])

def Stmt.tokenLinesAll : List Stmt → List (List Token)
  | [] => []
  | stmt :: rest => stmt.tokenLines ++ tokenLinesAll rest

end

mutual

/-- No loop that does not say what it goes over has a variable that reads as the word for it. -/
def Stmt.isClear : Stmt → Bool
  | .assign .. | .print _ => true
  | .ifThen _ body => areClear body
  | .ifThenElse _ thenBody elseBody => areClear thenBody && areClear elseBody
  | .foreach kind var _ body => kind.admits var && areClear body
  | .whileDo _ body => areClear body

def Stmt.areClear : List Stmt → Bool
  | [] => true
  | stmt :: rest => stmt.isClear && areClear rest

end

theorem Stmt.tokenLinesAll_append (stmts others : List Stmt) :
    tokenLinesAll (stmts ++ others) = tokenLinesAll stmts ++ tokenLinesAll others := by
  induction stmts with
  | nil => rfl
  | cons stmt rest ih =>
      rw [List.cons_append, tokenLinesAll, tokenLinesAll, ih, List.append_assoc]

theorem Stmt.tokenLinesAll_singleton (stmt : Stmt) : tokenLinesAll [stmt] = stmt.tokenLines := by
  rw [tokenLinesAll, tokenLinesAll, List.append_nil]

theorem Stmt.areClear_append (stmts others : List Stmt) :
    areClear (stmts ++ others) = (areClear stmts && areClear others) := by
  induction stmts with
  | nil => rfl
  | cons stmt rest ih => rw [List.cons_append, areClear, areClear, ih, Bool.and_assoc]

theorem Stmt.areClear_concat {stmts : List Stmt} {stmt : Stmt} (hstmts : areClear stmts)
    (hstmt : stmt.isClear) : areClear (stmts ++ [stmt]) := by
  rw [areClear_append, areClear, areClear, hstmts, hstmt]
  rfl

/-! ### What a line does -/

namespace Outline

variable {o next later : Outline}

theorem terminate_of_eq {block : OpenBlock} {word : Terminator}
    (h : word = block.header.terminator) (outer : List OpenBlock) (read : List Stmt) :
    terminate ⟨block :: outer, read⟩ word = .ok (push ⟨outer, read⟩ block.close) :=
  if_pos h

theorem terminate_of_ne {block : OpenBlock} {word : Terminator} (outer : List OpenBlock)
    (read : List Stmt) : word ≠ block.header.terminator → terminate ⟨block :: outer, read⟩ word =
      match word, block.header, block.thenBody with
      | .otherwise, .ifThen _, none =>
        .ok ⟨{ block with thenBody := some block.body, body := [] } :: outer, read⟩
      | _, header, _ => .error (.mismatch header block.line word) :=
  fun h => if_neg h

/-- A word closes the innermost open block, or it is the `else` of an `if` block with one part. -/
theorem exists_block_of_terminate {word : Terminator} (h : o.terminate word = .ok next) :
    ∃ inner outer, o.blocks = inner :: outer ∧
      ((word = inner.header.terminator ∧ next = push ⟨outer, o.program⟩ inner.close) ∨
        (word = .otherwise ∧ inner.thenBody = none ∧ (∃ test, inner.header = .ifThen test) ∧
          next =
            ⟨{ inner with thenBody := some inner.body, body := [] } :: outer, o.program⟩)) := by
  obtain ⟨_ | ⟨inner, outer⟩, read⟩ := o
  · cases h
  · refine ⟨inner, outer, rfl, ?_⟩
    by_cases hword : word = inner.header.terminator
    · rw [terminate_of_eq hword] at h
      cases h
      exact .inl ⟨hword, rfl⟩
    · rw [terminate_of_ne _ _ hword] at h
      split at h
      · next test hheader hthen =>
          cases h
          exact .inr ⟨rfl, hthen, ⟨test, hheader⟩, rfl⟩
      · cases h

/-- A line that is read is a word for a block, the first line of one, or a statement. -/
theorem exists_form_of_addLine {number : Nat} {line : String}
    (h : o.addLine number line = .ok next) :
    ∃ form, LineForm.ofLine line = .ok form ∧
      ((∃ word, form = .terminator word ∧ o.terminate word = .ok next) ∨
        (∃ header, form = .header header ∧
          next = { o with blocks := ⟨number, header, none, []⟩ :: o.blocks }) ∨
        ∃ stmt, form = .simple stmt ∧ next = o.push stmt) := by
  unfold addLine at h
  cases hform : LineForm.ofLine line with
  | error fault =>
      rw [hform] at h
      cases h
  | ok form =>
      rw [hform] at h
      refine ⟨form, rfl, ?_⟩
      cases form with
      | terminator word => exact .inl ⟨word, rfl, h⟩
      | header header =>
          cases h
          exact .inr (.inl ⟨header, rfl, rfl⟩)
      | simple stmt =>
          cases h
          exact .inr (.inr ⟨stmt, rfl, rfl⟩)

theorem addLines_cons_eq_ok_iff {line : Nat × String} {rest : List (Nat × String)} :
    o.addLines (line :: rest) = .ok later ↔
      ∃ next, o.addLine line.1 line.2 = .ok next ∧ next.addLines rest = .ok later := by
  rw [addLines]
  cases o.addLine line.1 line.2 with
  | error fault => simp
  | ok next => simp

end Outline

/-! ### Outlines spell what was read -/

namespace OpenBlock

/-- The lines of the part before `else`, with the line of that word. -/
def thenLines (block : OpenBlock) : List (List Token) :=
  match block.thenBody with
  | none => []
  | some thenBody => Stmt.tokenLinesAll thenBody ++ [[.word "else"]]

def tokenLines (block : OpenBlock) : List (List Token) :=
  block.header.tokens :: (block.thenLines ++ Stmt.tokenLinesAll block.body)

/-- Only `if` blocks have two parts, and no loop is open to misreading. -/
structure WellFormed (block : OpenBlock) : Prop where
  header : block.header.isClear
  thenBody : ∀ stmts, block.thenBody = some stmts →
    Stmt.areClear stmts ∧ ∃ test, block.header = .ifThen test
  body : Stmt.areClear block.body

theorem tokenLines_push (block : OpenBlock) (stmt : Stmt) :
    ({ block with body := block.body ++ [stmt] } : OpenBlock).tokenLines =
      block.tokenLines ++ stmt.tokenLines := by
  simp only [tokenLines, thenLines, Stmt.tokenLinesAll_append, Stmt.tokenLinesAll_singleton,
    List.cons_append, List.append_assoc]

theorem WellFormed.tokenLines_close {block : OpenBlock} (h : block.WellFormed) :
    block.close.tokenLines = block.tokenLines ++ [[.word block.header.terminator.text]] := by
  obtain ⟨line, header, thenBody, body⟩ := block
  cases thenBody with
  | none =>
      cases header <;> simp [close, tokenLines, thenLines, Stmt.tokenLines, Header.terminator,
        Terminator.text]
  | some stmts =>
      obtain ⟨-, test, rfl⟩ := h.thenBody stmts rfl
      simp [close, tokenLines, thenLines, Stmt.tokenLines, Header.terminator, Terminator.text]

theorem WellFormed.isClear_close {block : OpenBlock} (h : block.WellFormed) :
    block.close.isClear := by
  obtain ⟨line, header, thenBody, body⟩ := block
  have hbody : Stmt.areClear body := h.body
  cases header with
  | ifThen test =>
      cases thenBody with
      | none => exact hbody
      | some stmts =>
          have hthen := (h.thenBody stmts rfl).1
          simp [close, Stmt.isClear, hthen, hbody]
  | foreach kind var source =>
      have hadmits : kind.admits var := h.header
      simp [close, Stmt.isClear, hadmits, hbody]
  | whileDo test => exact hbody

end OpenBlock

namespace Outline

def blockLines : List OpenBlock → List (List Token)
  | [] => []
  | inner :: outer => blockLines outer ++ inner.tokenLines

/-- The tokens of what was read, line by line. -/
def tokenLines (o : Outline) : List (List Token) :=
  Stmt.tokenLinesAll o.program ++ blockLines o.blocks

structure WellFormed (o : Outline) : Prop where
  program : Stmt.areClear o.program
  blocks : ∀ block ∈ o.blocks, block.WellFormed

theorem wellFormed_empty : empty.WellFormed := ⟨rfl, by simp [empty]⟩

theorem tokenLines_push (o : Outline) (stmt : Stmt) :
    (o.push stmt).tokenLines = o.tokenLines ++ stmt.tokenLines := by
  obtain ⟨blocks, program⟩ := o
  cases blocks with
  | nil =>
      simp [push, tokenLines, blockLines, Stmt.tokenLinesAll_append, Stmt.tokenLinesAll_singleton]
  | cons inner outer =>
      simp [push, tokenLines, blockLines, OpenBlock.tokenLines_push]

theorem WellFormed.push {o : Outline} {stmt : Stmt} (h : o.WellFormed) (hstmt : stmt.isClear) :
    (o.push stmt).WellFormed := by
  obtain ⟨blocks, program⟩ := o
  cases blocks with
  | nil => exact ⟨Stmt.areClear_concat h.program hstmt, by simp [Outline.push]⟩
  | cons inner outer =>
      obtain ⟨hinner, houter⟩ := List.forall_mem_cons.mp h.blocks
      refine ⟨h.program, List.forall_mem_cons.mpr ⟨?_, houter⟩⟩
      exact ⟨hinner.header, hinner.thenBody, Stmt.areClear_concat hinner.body hstmt⟩

theorem WellFormed.terminate {o next : Outline} {word : Terminator} (h : o.WellFormed)
    (hterminate : o.terminate word = .ok next) :
    next.WellFormed ∧ next.tokenLines = o.tokenLines ++ [[.word word.text]] := by
  obtain ⟨inner, outer, hblocks, hcases⟩ := exists_block_of_terminate hterminate
  obtain ⟨blocks, program⟩ := o
  dsimp only at hblocks hcases
  subst hblocks
  obtain ⟨hinner, houter⟩ := List.forall_mem_cons.mp h.blocks
  obtain ⟨rfl, rfl⟩ | ⟨rfl, hthen, ⟨test, hheader⟩, rfl⟩ := hcases
  · have hrest : (⟨outer, program⟩ : Outline).WellFormed := ⟨h.program, houter⟩
    refine ⟨hrest.push hinner.isClear_close, ?_⟩
    rw [tokenLines_push, hinner.tokenLines_close]
    simp [tokenLines, blockLines]
  · refine ⟨⟨h.program, List.forall_mem_cons.mpr ⟨⟨hinner.header, ?_, rfl⟩, houter⟩⟩, ?_⟩
    · intro stmts hstmts
      cases hstmts
      exact ⟨hinner.body, test, hheader⟩
    · simp [tokenLines, blockLines, OpenBlock.tokenLines, OpenBlock.thenLines, hthen,
        Stmt.tokenLinesAll, Terminator.text]

theorem WellFormed.addLine {o next : Outline} {number : Nat} {line : String} (h : o.WellFormed)
    (hline : o.addLine number line = .ok next) :
    next.WellFormed ∧ ∃ tokens, Token.tokenize line = .ok tokens ∧
      next.tokenLines = o.tokenLines ++ [tokens] := by
  obtain ⟨form, hform, hcases⟩ := exists_form_of_addLine hline
  obtain ⟨tokens, htokens, hspells⟩ := LineForm.tokenize_of_ofLine hform
  obtain ⟨word, rfl, hterminate⟩ | ⟨header, rfl, rfl⟩ | ⟨stmt, rfl, rfl⟩ := hcases
  · cases hspells
    obtain ⟨hnext, hlines⟩ := h.terminate hterminate
    exact ⟨hnext, _, htokens, hlines⟩
  · cases hspells with
    | header header hclear =>
        have hblock : OpenBlock.WellFormed ⟨number, header, none, []⟩ := ⟨hclear, by simp, rfl⟩
        refine ⟨⟨h.program, List.forall_mem_cons.mpr ⟨hblock, h.blocks⟩⟩, _, htokens, ?_⟩
        simp [tokenLines, blockLines, OpenBlock.tokenLines, OpenBlock.thenLines,
          Stmt.tokenLinesAll]
  · cases hspells with
    | assign target e =>
        refine ⟨h.push rfl, _, htokens, ?_⟩
        rw [tokenLines_push, Stmt.tokenLines]
    | print e =>
        refine ⟨h.push rfl, _, htokens, ?_⟩
        rw [tokenLines_push, Stmt.tokenLines]

/-- An outline spells the lines that it was read from. -/
theorem WellFormed.addLines {o later : Outline} {lines : List (Nat × String)} (h : o.WellFormed)
    (hlines : o.addLines lines = .ok later) :
    later.WellFormed ∧ ∃ tokens,
      List.Forall₂ (fun line => (Token.tokenize line.2 = .ok ·)) lines tokens ∧
        later.tokenLines = o.tokenLines ++ tokens := by
  induction lines generalizing o with
  | nil =>
      cases hlines
      exact ⟨h, [], .nil, by rw [List.append_nil]⟩
  | cons line rest ih =>
      obtain ⟨next, hline, hrest⟩ := addLines_cons_eq_ok_iff.mp hlines
      obtain ⟨hnext, first, hfirst, hfirstLines⟩ := h.addLine hline
      obtain ⟨hlater, tokens, htokens, hrestLines⟩ := ih hnext hrest
      refine ⟨hlater, first :: tokens, .cons hfirst htokens, ?_⟩
      rw [hrestLines, hfirstLines, List.append_assoc, List.singleton_append]

end Outline

end StringScript
