import StringScript.Proofs.Grammar.Numbering
import StringScript.Proofs.Outcome
import StringScript.Session

/-!
# Programs one after the other

What a line means depends on the lines before it only by the blocks that are open there. After a
whole program none is, so another program that follows is read as it would be alone, with its lines
numbered on. It also runs like that: from where the first program stopped.
-/

namespace StringScript

/-! ### Further down -/

/-- The fault in a text whose lines stand `count` lines further down. -/
def ParseFault.movedDown (count : Nat) : ParseFault → ParseFault
  | .mismatch header openLine found => .mismatch header (openLine + count) found
  | fault => fault

def ParseError.movedDown (count : Nat) (e : ParseError) : ParseError :=
  ⟨e.line + count, e.fault.movedDown count⟩

def OpenBlock.movedDown (count : Nat) (block : OpenBlock) : OpenBlock :=
  { block with line := block.line + count }

/-- A line on its own can only be misspelled. -/
theorem LineForm.fault_of_ofLine {line : String} {fault : ParseFault}
    (h : ofLine line = .error fault) : (∃ e, fault = .bad e) ∨ fault = .unrecognized line := by
  unfold ofLine at h
  split at h
  · cases h
  · split at h
    · cases h
      exact .inl ⟨_, rfl⟩
    · split at h
      · cases h
        exact .inr rfl
      · cases h
        exact .inl ⟨_, rfl⟩
      · cases h

namespace Outline

/-- The outline after a whole program of `count` lines. -/
def placedAfter (program : List Stmt) (count : Nat) (o : Outline) : Outline :=
  ⟨o.blocks.map (·.movedDown count), program ++ o.program⟩

variable {program : List Stmt} {count : Nat}

theorem push_placedAfter (o : Outline) (stmt : Stmt) :
    (o.placedAfter program count).push stmt = (o.push stmt).placedAfter program count := by
  obtain ⟨_ | ⟨inner, outer⟩, read⟩ := o
  · simp [push, placedAfter]
  · rfl

theorem terminate_placedAfter (o : Outline) (word : Terminator) :
    (o.placedAfter program count).terminate word =
      ((o.terminate word).map (placedAfter program count)).mapError (·.movedDown count) := by
  obtain ⟨_ | ⟨⟨line, header, thenBody, body⟩, outer⟩, read⟩ := o
  · rfl
  · by_cases hword : word = header.terminator
    · rw [terminate_of_eq hword, placedAfter, List.map_cons, terminate_of_eq hword]
      exact congrArg Except.ok (push_placedAfter ⟨outer, read⟩ _)
    · rw [terminate_of_ne _ _ hword, placedAfter, List.map_cons, terminate_of_ne _ _ hword]
      cases word <;> cases header <;> cases thenBody <;> rfl

theorem addLine_placedAfter (o : Outline) (number : Nat) (line : String) :
    (o.placedAfter program count).addLine (number + count) line =
      ((o.addLine number line).map (placedAfter program count)).mapError (·.movedDown count) := by
  unfold addLine
  cases hform : LineForm.ofLine line with
  | error fault =>
      obtain ⟨e, rfl⟩ | rfl := LineForm.fault_of_ofLine hform
      · rfl
      · rfl
  | ok form =>
      cases form with
      | terminator word => exact terminate_placedAfter o word
      | header header => rfl
      | simple stmt => exact congrArg Except.ok (push_placedAfter o stmt)

theorem addLines_placedAfter (o : Outline) (lines : List (Nat × String)) :
    (o.placedAfter program count).addLines (lines.map (Prod.map (· + count) id)) =
      ((o.addLines lines).map (placedAfter program count)).mapError (·.movedDown count) := by
  induction lines generalizing o with
  | nil => rfl
  | cons line rest ih =>
      rw [List.map_cons, addLines, addLines]
      dsimp only [Prod.map, id]
      rw [addLine_placedAfter]
      cases o.addLine line.1 line.2 with
      | error fault => rfl
      | ok next => exact ih next

theorem finish_placedAfter (o : Outline) :
    (o.placedAfter program count).finish =
      (o.finish.map (program ++ ·)).mapError (·.movedDown count) := by
  obtain ⟨_ | ⟨inner, outer⟩, read⟩ := o <;> rfl

theorem addLines_append (o : Outline) (lines others : List (Nat × String)) :
    o.addLines (lines ++ others) = o.addLines lines >>= (·.addLines others) := by
  induction lines generalizing o with
  | nil => rfl
  | cons line rest ih =>
      rw [List.cons_append, addLines, addLines]
      cases o.addLine line.1 line.2 with
      | error fault => rfl
      | ok next => exact ih next

end Outline

theorem parseProgram_eq_bind (source : String) :
    parseProgram source = Outline.empty.addLines (significantLines source) >>= Outline.finish := by
  unfold parseProgram
  cases Outline.empty.addLines (significantLines source) <;> rfl

/-- A whole program leaves no block open. -/
theorem addLines_of_parseProgram {source : String} {program : List Stmt}
    (h : parseProgram source = .ok program) :
    Outline.empty.addLines (significantLines source) = .ok ⟨[], program⟩ := by
  rw [parseProgram_eq_bind] at h
  cases hlines : Outline.empty.addLines (significantLines source) with
  | error e =>
      rw [hlines] at h
      cases h
  | ok outline =>
      rw [hlines] at h
      obtain ⟨_ | ⟨inner, outer⟩, read⟩ := outline
      · cases h
        rfl
      · cases h

/-- Further lines are read from the outline that a text leaves. -/
theorem parseProgram_append_newline_eq_bind {a : String} {outline : Outline}
    (h : Outline.empty.addLines (significantLines a) = .ok outline) (b : String) :
    parseProgram (a ++ "\n" ++ b) =
      outline.addLines ((significantLines b).map (Prod.map (· + (1 + a.toList.count '\n')) id)) >>=
        Outline.finish := by
  rw [parseProgram_eq_bind, significantLines_append_newline, Outline.addLines_append, h]
  rfl

theorem parseProgram_append_newline {a : String} {program : List Stmt}
    (h : parseProgram a = .ok program) (b : String) :
    parseProgram (a ++ "\n" ++ b) =
      ((parseProgram b).map (program ++ ·)).mapError (·.movedDown (1 + a.toList.count '\n')) := by
  have hstart : (⟨[], program⟩ : Outline) =
      Outline.empty.placedAfter program (1 + a.toList.count '\n') := by
    simp [Outline.placedAfter, Outline.empty]
  rw [parseProgram_append_newline_eq_bind (addLines_of_parseProgram h), hstart,
    Outline.addLines_placedAfter, parseProgram_eq_bind b]
  cases Outline.empty.addLines (significantLines b) with
  | error e => rfl
  | ok outline => exact Outline.finish_placedAfter outline

/-- **Programs can be joined.** After a program, a line feed and another text are read as the
statements of both; if the other text has a fault, that fault is found, with its line further down
by the lines before it. The joined program runs as the one and then, unless that fails, the
other. -/
theorem parseProgram_concat {a : String} {program : List Stmt}
    (h : parseProgram a = .ok program) (b : String) :
    (∀ others, parseProgram b = .ok others →
      parseProgram (a ++ "\n" ++ b) = .ok (program ++ others)) ∧
    (∀ e, parseProgram b = .error e →
      parseProgram (a ++ "\n" ++ b) = .error ⟨e.line + 1 + a.toList.count '\n',
        e.fault.movedDown (1 + a.toList.count '\n')⟩) ∧
    ∀ others, parseProgram b = .ok others → ∀ s : Session,
      s.execScript (a ++ "\n" ++ b) =
        match s.execScript a with
        | (.ok (), next) => next.execScript b
        | (.error failure, stopped) => (.error failure, stopped) := by
  have hjoined := parseProgram_append_newline h b
  refine ⟨fun others hb => ?_, fun e hb => ?_, fun others hb s => ?_⟩
  · rw [hjoined, hb]
    rfl
  · rw [hjoined, hb, Nat.add_assoc]
    rfl
  · have hboth : parseProgram (a ++ "\n" ++ b) = .ok (program ++ others) := by
      rw [hjoined, hb]
      rfl
    unfold Session.execScript
    rw [hboth, h, hb]
    exact s.execBlock_append program others

theorem parseProgram_concat_mismatch :
    let header : Header := .ifThen ⟨.var "1", .equals, .var "1"⟩
    parseProgram "1=2\n#\n" = .ok [.assign "1" (.var "2")] ∧
      parseProgram "print 1" = .ok [.print (.var "1")] ∧
      parseProgram ("1=2\n#\n" ++ "\n" ++ "print 1") =
        .ok [.assign "1" (.var "2"), .print (.var "1")] ∧
      parseProgram "if 1 equals 1 then\nendfor" = .error ⟨2, .mismatch header 1 .endFor⟩ ∧
      parseProgram ("1=2\n#\n" ++ "\n" ++ "if 1 equals 1 then\nendfor") =
        .error ⟨5, .mismatch header 4 .endFor⟩ ∧
      ∀ s : Session, s.execScript ("1=2\n#\n" ++ "\n" ++ "print 1") =
        match s.execScript "1=2\n#\n" with
        | (.ok (), next) => next.execScript "print 1"
        | (.error failure, stopped) => (.error failure, stopped) := by
  intro header
  have ha : parseProgram "1=2\n#\n" = .ok [.assign "1" (.var "2")] := rfl
  have hb : parseProgram "print 1" = .ok [.print (.var "1")] := rfl
  have hbad : parseProgram "if 1 equals 1 then\nendfor" =
      .error ⟨2, .mismatch header 1 .endFor⟩ := rfl
  obtain ⟨hjoined, -, hruns⟩ := parseProgram_concat ha "print 1"
  have hfault := (parseProgram_concat ha "if 1 equals 1 then\nendfor").2.1 _ hbad
  have hfeeds : "1=2\n#\n".toList.count '\n' = 2 := rfl
  rw [hfeeds] at hfault
  exact ⟨ha, hb, hjoined _ hb, hbad, hfault, hruns _ hb⟩

end StringScript
