import StringScript.Proofs.Grammar.Concatenation

/-!
# Texts that are no programs

A text that is no program is either the start of one, with blocks still open at its end, or has a
line that nothing after it can mend. In the first case the words that end the open blocks make it a
program. In the second the fault depends on the lines up to it only.
-/

namespace StringScript

/-! ### Faults of lines -/

namespace Outline

variable {o : Outline} {lines others : List (Nat × String)}

theorem terminate_ne_unmatched {word : Terminator} {fault : ParseFault}
    (h : o.terminate word = .error fault) (header : Header) : fault ≠ .unmatched header := by
  rintro rfl
  obtain ⟨_ | ⟨block, outer⟩, read⟩ := o
  · cases h
  · by_cases hword : word = block.header.terminator
    · rw [terminate_of_eq hword] at h
      cases h
    · rw [terminate_of_ne _ _ hword] at h
      split at h <;> cases h

theorem addLine_ne_unmatched {number : Nat} {line : String} {fault : ParseFault}
    (h : o.addLine number line = .error fault) (header : Header) : fault ≠ .unmatched header := by
  unfold addLine at h
  cases hform : LineForm.ofLine line with
  | error found =>
      rw [hform] at h
      cases h
      obtain ⟨e, rfl⟩ | rfl := LineForm.fault_of_ofLine hform
      · exact nofun
      · exact nofun
  | ok form =>
      rw [hform] at h
      cases form with
      | terminator word => exact terminate_ne_unmatched h header
      | header opened => cases h
      | simple stmt => cases h

/-- Reading fails at one of the lines, and never for a block that is open. -/
theorem addLines_eq_error {e : ParseError} (h : o.addLines lines = .error e) :
    (∃ text, (e.line, text) ∈ lines) ∧ ∀ header, e.fault ≠ .unmatched header := by
  induction lines generalizing o with
  | nil => cases h
  | cons line rest ih =>
      rw [addLines] at h
      cases hline : o.addLine line.1 line.2 with
      | error fault =>
          rw [hline] at h
          cases h
          exact ⟨⟨line.2, List.mem_cons_self⟩, addLine_ne_unmatched hline⟩
      | ok next =>
          rw [hline] at h
          obtain ⟨⟨text, htext⟩, hfault⟩ := ih h
          exact ⟨⟨text, List.mem_cons_of_mem _ htext⟩, hfault⟩

/-- Lines after the one where reading fails do not matter. -/
theorem addLines_eq_error_of_append {e : ParseError}
    (h : o.addLines (lines ++ others) = .error e) (hlater : ∀ line ∈ others, e.line < line.1) :
    o.addLines lines = .error e := by
  rw [addLines_append] at h
  cases hlines : o.addLines lines with
  | error first =>
      rw [hlines] at h
      exact h
  | ok next =>
      rw [hlines] at h
      obtain ⟨text, htext⟩ := (addLines_eq_error h).1
      exact absurd (hlater _ htext) (Nat.lt_irrefl _)

end Outline

theorem parseProgram_eq_error_of_addLines {source : String} {e : ParseError}
    (h : Outline.empty.addLines (significantLines source) = .error e) :
    parseProgram source = .error e := by
  rw [parseProgram_eq_bind, h]
  rfl

/-- The line of a fault is one of the text that holds something. -/
theorem exists_line_of_addLines_eq_error {source : String} {e : ParseError}
    (h : Outline.empty.addLines (significantLines source) = .error e) :
    ∃ line, (e.line, line) ∈ Text.numberedLines source.toList ∧
      Text.isSignificant (Text.trim line) := by
  obtain ⟨text, htext⟩ := (Outline.addLines_eq_error h).1
  rw [significantLines_eq_significantFrom] at htext
  exact (mem_significantFrom htext).2.2

/-- A text with the same lines up to a fault has the same fault. -/
theorem parseProgram_eq_error_of_take {source other : String} {e : ParseError}
    (h : Outline.empty.addLines (significantLines source) = .error e)
    (hlines : (Text.lines other.toList).take e.line = (Text.lines source.toList).take e.line) :
    parseProgram other = .error e := by
  have hsplit (text : String) : significantLines text =
      significantFrom 1 ((Text.lines text.toList).take e.line) ++
        significantFrom (1 + ((Text.lines text.toList).take e.line).length)
          ((Text.lines text.toList).drop e.line) := by
    rw [← significantFrom_append, List.take_append_drop, significantLines_eq_significantFrom]
  obtain ⟨text, htext⟩ := (Outline.addLines_eq_error h).1
  rw [significantLines_eq_significantFrom] at htext
  have hlength : ((Text.lines source.toList).take e.line).length = e.line := by
    have hlast := (mem_significantFrom htext).2.1
    rw [List.length_take]
    omega
  -- The lines that the texts share include the bad one; the others have higher numbers.
  have hfirst : Outline.empty.addLines
      (significantFrom 1 ((Text.lines source.toList).take e.line)) = .error e := by
    rw [hsplit source, hlength] at h
    refine Outline.addLines_eq_error_of_append h fun line hline => ?_
    have hnumber := (mem_significantFrom hline).1
    omega
  apply parseProgram_eq_error_of_addLines
  rw [hsplit other, hlines, Outline.addLines_append, hfirst]
  rfl

/-- Further lines do not mend a fault. -/
theorem parseProgram_append_newline_eq_error {source : String} {e : ParseError}
    (h : Outline.empty.addLines (significantLines source) = .error e) (more : String) :
    parseProgram (source ++ "\n" ++ more) = .error e := by
  apply parseProgram_eq_error_of_addLines
  rw [significantLines_append_newline, Outline.addLines_append, h]
  rfl

/-! ### Blocks that are open at the end -/

namespace Outline

/-- The words that end the open blocks, in their order. -/
def closers (o : Outline) : List Terminator := o.blocks.map (·.header.terminator)

theorem closers_push (o : Outline) (stmt : Stmt) : (o.push stmt).closers = o.closers := by
  obtain ⟨_ | ⟨inner, outer⟩, read⟩ := o <;> rfl

theorem otherwise_notMem_closers (o : Outline) : .otherwise ∉ o.closers := by
  intro h
  obtain ⟨block, -, hword⟩ := List.mem_map.mp h
  cases hheader : block.header <;> rw [hheader] at hword <;> cases hword

/-- Whatever blocks are open, the words that end them make a program of what was read. -/
theorem exists_addLines_closers {o : Outline} {lines : List (Nat × String)}
    (h : lines.map Prod.snd = o.closers.map Terminator.text) :
    ∃ program, o.addLines lines = .ok ⟨[], program⟩ := by
  induction lines generalizing o with
  | nil =>
      obtain ⟨_ | ⟨inner, outer⟩, read⟩ := o
      · exact ⟨read, rfl⟩
      · cases h
  | cons line rest ih =>
      obtain ⟨_ | ⟨inner, outer⟩, read⟩ := o
      · cases h
      · obtain ⟨hline, hrest⟩ := List.cons.inj h
        have hclose : addLine ⟨inner :: outer, read⟩ line.1 line.2 =
            .ok (push ⟨outer, read⟩ inner.close) := by
          rw [addLine, hline, LineForm.ofLine_text]
          exact terminate_of_eq rfl outer read
        rw [addLines_cons_of_ok hclose]
        apply ih
        rw [closers_push]
        exact hrest

/-- Each open block has the number of the line where its tokens begin. -/
def Numbered (lines : List (Nat × String)) (program : List Stmt) : List OpenBlock → Prop
  | [] => True
  | inner :: outer =>
    lines[(tokenLines ⟨outer, program⟩).length]?.map Prod.fst = some inner.line ∧
      Numbered lines program outer

variable {lines : List (Nat × String)} {program : List Stmt} {blocks : List OpenBlock}

theorem Numbered.append (h : Numbered lines program blocks) (more : List (Nat × String)) :
    Numbered (lines ++ more) program blocks := by
  induction blocks with
  | nil => trivial
  | cons inner outer ih =>
      obtain ⟨line, hline, -⟩ := Option.map_eq_some_iff.mp h.1
      have hbound := (List.getElem?_eq_some_iff.mp hline).1
      refine ⟨?_, ih h.2⟩
      rw [List.getElem?_append_left hbound]
      exact h.1

theorem Numbered.push {o : Outline} (h : Numbered lines o.program o.blocks) (stmt : Stmt) :
    Numbered lines (o.push stmt).program (o.push stmt).blocks := by
  obtain ⟨_ | ⟨inner, outer⟩, read⟩ := o
  · trivial
  · exact h

theorem Numbered.terminate {o next : Outline} {word : Terminator}
    (h : Numbered lines o.program o.blocks) (hnext : o.terminate word = .ok next) :
    Numbered lines next.program next.blocks := by
  obtain ⟨inner, outer, hblocks, hcases⟩ := exists_block_of_terminate hnext
  rw [hblocks] at h
  have houter : Numbered lines o.program outer := h.2
  obtain ⟨-, rfl⟩ | ⟨-, -, -, rfl⟩ := hcases
  · exact Numbered.push (o := ⟨outer, o.program⟩) houter inner.close
  · exact h

theorem Numbered.addLine {o next : Outline} {number : Nat} {text : String}
    (h : Numbered lines o.program o.blocks) (hlength : o.tokenLines.length = lines.length)
    (hnext : o.addLine number text = .ok next) :
    Numbered (lines ++ [(number, text)]) next.program next.blocks := by
  have hread := h.append [(number, text)]
  obtain ⟨form, -, hcases⟩ := exists_form_of_addLine hnext
  obtain ⟨word, -, hterminate⟩ | ⟨header, -, rfl⟩ | ⟨stmt, -, rfl⟩ := hcases
  · exact hread.terminate hterminate
  · refine ⟨?_, hread⟩
    change (lines ++ [(number, text)])[o.tokenLines.length]?.map Prod.fst = some number
    rw [hlength, List.getElem?_concat_length]
    rfl
  · exact hread.push stmt

theorem Numbered.addLines {o later : Outline} {others : List (Nat × String)}
    (h : Numbered lines o.program o.blocks) (hwellFormed : o.WellFormed)
    (hlength : o.tokenLines.length = lines.length) (hlater : o.addLines others = .ok later) :
    Numbered (lines ++ others) later.program later.blocks := by
  induction others generalizing o lines with
  | nil =>
      cases hlater
      rwa [List.append_nil]
  | cons line rest ih =>
      obtain ⟨next, hline, hrest⟩ := addLines_cons_eq_ok_iff.mp hlater
      obtain ⟨hnext, tokens, -, htokens⟩ := hwellFormed.addLine hline
      have hnextLength : next.tokenLines.length = (lines ++ [line]).length := by
        rw [htokens, List.length_append, List.length_append, hlength]
        rfl
      have hall := ih (h.addLine hlength hline) hnext hnextLength hrest
      rwa [List.append_assoc, List.singleton_append] at hall

end Outline

/-- At the end of the lines a block is open, and every block that was opened after it is closed: from
its first line, which has the number, the lines are those of a block that lacks only its end. -/
def OpensLast (lines : List (Nat × String)) (number : Nat) (header : Header) : Prop :=
  ∃ before text after, lines = before ++ (number, text) :: after ∧
    ∃ block : OpenBlock, block.header = header ∧ block.WellFormed ∧
      List.Forall₂ (fun line => (Token.tokenize line.2 = .ok ·)) ((number, text) :: after)
        block.tokenLines

theorem opensLast_of_addLines {lines : List (Nat × String)} {block : OpenBlock}
    {outer : List OpenBlock} {program : List Stmt}
    (h : Outline.empty.addLines lines = .ok ⟨block :: outer, program⟩) :
    OpensLast lines block.line block.header := by
  obtain ⟨hwellFormed, tokens, htokens, hspelled⟩ := Outline.wellFormed_empty.addLines h
  have hstart : Outline.Numbered [] Outline.empty.program Outline.empty.blocks := trivial
  have hnumbered : Outline.Numbered lines program (block :: outer) :=
    hstart.addLines Outline.wellFormed_empty rfl h
  -- The tokens of the innermost block come last, so its lines are those from their place on.
  have hsplit : tokens = Outline.tokenLines ⟨outer, program⟩ ++ block.tokenLines := by
    rw [Outline.tokenLines, List.append_assoc]
    exact hspelled.symm
  rw [hsplit] at htokens
  have hblock := List.forall₂_drop_append _ _ _ htokens
  obtain ⟨line, after, hline, hafter, hdrop⟩ := List.forall₂_cons_right_iff.mp hblock
  have hnumber : line.1 = block.line := by
    have hfirst := hnumbered.1
    rw [← List.head?_drop, hdrop] at hfirst
    exact Option.some.inj hfirst
  refine ⟨lines.take (Outline.tokenLines ⟨outer, program⟩).length, line.2, after, ?_, block, rfl,
    hwellFormed.blocks block List.mem_cons_self, .cons hline hafter⟩
  rw [← hnumber, ← hdrop, List.take_append_drop]

/-! ### Ends of blocks -/

theorem significantTexts_terminator (word : Terminator) :
    significantTexts word.text = [word.text] := by
  cases word <;> decide

theorem significantTexts_intercalate (words : List Terminator) :
    significantTexts ("\n".intercalate (words.map Terminator.text)) =
      words.map Terminator.text := by
  induction words with
  | nil => decide
  | cons word rest ih =>
      cases rest with
      | nil =>
          rw [List.map_singleton, String.intercalate_singleton]
          exact significantTexts_terminator word
      | cons next others =>
          rw [List.map_cons, List.map_cons, String.intercalate_cons_cons,
            significantTexts_append_newline, significantTexts_terminator]
          exact congrArg _ ih

/-- The words that end the open blocks of a text, each on a line of its own, finish it. -/
theorem exists_parseProgram_closers {source : String} {o : Outline}
    (h : Outline.empty.addLines (significantLines source) = .ok o) :
    ∃ program, parseProgram
      (source ++ "\n" ++ "\n".intercalate (o.closers.map Terminator.text)) = .ok program := by
  have hmoved : ((significantLines ("\n".intercalate (o.closers.map Terminator.text))).map
      (Prod.map (· + (1 + source.toList.count '\n')) id)).map Prod.snd =
        o.closers.map Terminator.text := by
    rw [List.map_map]
    exact (map_snd_significantLines _).trans (significantTexts_intercalate o.closers)
  obtain ⟨program, hprogram⟩ := Outline.exists_addLines_closers hmoved
  refine ⟨program, ?_⟩
  rw [parseProgram_append_newline_eq_bind h, hprogram]
  rfl

/-! ### Two kinds of failure -/

/-- The text is refused only because it stops too early: at the innermost block that is open at its
end. With words that end blocks on further lines it is a program. -/
def IsUnfinished (source : String) : Prop :=
  ∃ number header, parseProgram source = .error ⟨number, .unmatched header⟩ ∧
    OpensLast (significantLines source) number header ∧
    ∃ words : List Terminator, .otherwise ∉ words ∧
      ∃ program, parseProgram
        (source ++ "\n" ++ "\n".intercalate (words.map Terminator.text)) = .ok program

/-- The text is refused for one of its significant lines, and so is every text that is the same up
to that line, with the same fault. -/
def IsBeyondMending (source : String) : Prop :=
  ∃ e, parseProgram source = .error e ∧ (∀ header, e.fault ≠ .unmatched header) ∧
    (∃ line, (e.line, line) ∈ Text.numberedLines source.toList ∧
      Text.isSignificant (Text.trim line)) ∧
    (∀ other : String,
      (Text.lines other.toList).take e.line = (Text.lines source.toList).take e.line →
        parseProgram other = .error e) ∧
    ∀ more, parseProgram (source ++ "\n" ++ more) = .error e

theorem isUnfinished_of_addLines {source : String} {block : OpenBlock} {outer : List OpenBlock}
    {program : List Stmt}
    (h : Outline.empty.addLines (significantLines source) = .ok ⟨block :: outer, program⟩) :
    IsUnfinished source := by
  refine ⟨block.line, block.header, ?_, opensLast_of_addLines h, _,
    Outline.otherwise_notMem_closers _, exists_parseProgram_closers h⟩
  rw [parseProgram_eq_bind, h]
  rfl

theorem isBeyondMending_of_addLines {source : String} {e : ParseError}
    (h : Outline.empty.addLines (significantLines source) = .error e) : IsBeyondMending source :=
  ⟨e, parseProgram_eq_error_of_addLines h, (Outline.addLines_eq_error h).2,
    exists_line_of_addLines_eq_error h, fun _ hlines => parseProgram_eq_error_of_take h hlines,
    parseProgram_append_newline_eq_error h⟩

theorem not_isUnfinished_and_isBeyondMending {source : String} (h : IsUnfinished source) :
    ¬ IsBeyondMending source := by
  rintro ⟨e, herror, hfault, -⟩
  obtain ⟨number, header, hunmatched, -⟩ := h
  rw [herror] at hunmatched
  cases hunmatched
  exact hfault header rfl

/-- **A text is a program, or the start of one, or beyond mending**, and never two of these. -/
theorem parseProgram_trichotomy (source : String) :
    ((∃ program, parseProgram source = .ok program) ∧ ¬ IsUnfinished source ∧
      ¬ IsBeyondMending source) ∨
    ((¬ ∃ program, parseProgram source = .ok program) ∧ IsUnfinished source ∧
      ¬ IsBeyondMending source) ∨
    ((¬ ∃ program, parseProgram source = .ok program) ∧ ¬ IsUnfinished source ∧
      IsBeyondMending source) := by
  cases hlines : Outline.empty.addLines (significantLines source) with
  | error e =>
      have hfinal := isBeyondMending_of_addLines hlines
      refine .inr (.inr ⟨?_, fun h => not_isUnfinished_and_isBeyondMending h hfinal, hfinal⟩)
      rintro ⟨program, hprogram⟩
      rw [parseProgram_eq_error_of_addLines hlines] at hprogram
      cases hprogram
  | ok outline =>
      obtain ⟨_ | ⟨block, outer⟩, program⟩ := outline
      · have hprogram : parseProgram source = .ok program := by
          rw [parseProgram_eq_bind, hlines]
          rfl
        refine .inl ⟨⟨program, hprogram⟩, ?_, ?_⟩
        · rintro ⟨number, header, herror, -⟩
          rw [hprogram] at herror
          cases herror
        · rintro ⟨e, herror, -⟩
          rw [hprogram] at herror
          cases herror
      · have hopen := isUnfinished_of_addLines hlines
        refine .inr (.inl ⟨?_, hopen, not_isUnfinished_and_isBeyondMending hopen⟩)
        obtain ⟨number, header, herror, -⟩ := hopen
        rintro ⟨read, hread⟩
        rw [hread] at herror
        cases herror

example : parseProgram "if 1 equals 2 then\n# not yet closed\nwhile 3 equals 4 do\nprint 5" =
    .error ⟨3, .unmatched (.whileDo ⟨.var "3", .equals, .var "4"⟩)⟩ := rfl

end StringScript
