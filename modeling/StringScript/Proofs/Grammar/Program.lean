import Mathlib.Data.List.Forall2
import StringScript.Proofs.Grammar.Outline

/-!
# Programs as tokens

A text is taken for a program exactly if its significant lines have the tokens of the program, line
by line. That a program which is read has these tokens is known from its outline. For the other
direction the lines of a program are followed: from any outline on, the lines of a statement add
just that statement.
-/

namespace StringScript

/-- The line is trimmed and has the tokens. -/
def Spelled (line : Nat × String) (tokens : List Token) : Prop :=
  Text.IsTrimmed line.2.toList ∧ Token.tokenize line.2 = .ok tokens

theorem Spelled.ofLine_eq {line : Nat × String} {tokens : List Token} {form : LineForm}
    (h : Spelled line tokens) (hform : form.Spells tokens) : LineForm.ofLine line.2 = .ok form :=
  (LineForm.ofLine_eq_ok_iff h.1).mpr ⟨tokens, h.2, hform⟩

namespace Outline

/-! ### The lines of a statement add it -/

def pushAll (o : Outline) (stmts : List Stmt) : Outline :=
  match o.blocks with
  | [] => { o with program := o.program ++ stmts }
  | block :: outer => { o with blocks := { block with body := block.body ++ stmts } :: outer }

theorem pushAll_nil (o : Outline) : o.pushAll [] = o := by
  obtain ⟨_ | ⟨inner, outer⟩, program⟩ := o <;> simp [pushAll]

theorem pushAll_cons (o : Outline) (stmt : Stmt) (rest : List Stmt) :
    o.pushAll (stmt :: rest) = (o.push stmt).pushAll rest := by
  obtain ⟨_ | ⟨inner, outer⟩, program⟩ := o <;> simp [pushAll, push]

variable {line : Nat × String} {lines : List (Nat × String)}

theorem addLines_cons_of_ok {o next : Outline} (h : o.addLine line.1 line.2 = .ok next) :
    o.addLines (line :: lines) = next.addLines lines := by
  rw [Outline.addLines, h]

theorem addLines_cons_header {o : Outline} {header : Header} (hclear : header.isClear)
    (h : Spelled line header.tokens) :
    o.addLines (line :: lines) =
      Outline.addLines { o with blocks := ⟨line.1, header, none, []⟩ :: o.blocks } lines := by
  apply addLines_cons_of_ok
  rw [Outline.addLine, h.ofLine_eq (.header header hclear)]

theorem addLines_cons_assign {o : Outline} {target : String} {value : Expr}
    (h : Spelled line (.word target :: .assign :: value.tokens)) :
    o.addLines (line :: lines) = (o.push (.assign target value)).addLines lines := by
  apply addLines_cons_of_ok
  rw [Outline.addLine, h.ofLine_eq (.assign target value)]

theorem addLines_cons_print {o : Outline} {value : Expr}
    (h : Spelled line (.word "print" :: value.tokens)) :
    o.addLines (line :: lines) = (o.push (.print value)).addLines lines := by
  apply addLines_cons_of_ok
  rw [Outline.addLine, h.ofLine_eq (.print value)]

theorem addLines_cons_terminator {block : OpenBlock} {outer : List OpenBlock}
    {program : List Stmt} (h : Spelled line [.word block.header.terminator.text]) :
    Outline.addLines ⟨block :: outer, program⟩ (line :: lines) =
      (Outline.push ⟨outer, program⟩ block.close).addLines lines := by
  apply addLines_cons_of_ok
  rw [Outline.addLine, h.ofLine_eq (.terminator _)]
  exact terminate_of_eq rfl outer program

theorem addLines_cons_else {number : Nat} {test : Condition} {body : List Stmt}
    {outer : List OpenBlock} {program : List Stmt} (h : Spelled line [.word "else"]) :
    Outline.addLines ⟨⟨number, .ifThen test, none, body⟩ :: outer, program⟩ (line :: lines) =
      Outline.addLines ⟨⟨number, .ifThen test, some body, []⟩ :: outer, program⟩ lines := by
  apply addLines_cons_of_ok
  rw [Outline.addLine, h.ofLine_eq (.terminator .otherwise)]
  rfl

end Outline

namespace Stmt

variable {lines : List (Nat × String)} {others : List (List Token)}

/-- From any outline on, the lines of the statements add just them. -/
def AddedByLines (stmts : List Stmt) : Prop :=
  ∀ (o : Outline) (lines : List (Nat × String)) (others : List (List Token)),
    List.Forall₂ Spelled lines (tokenLinesAll stmts ++ others) →
      ∃ rest, List.Forall₂ Spelled rest others ∧
        o.addLines lines = (o.pushAll stmts).addLines rest

theorem AddedByLines.closes {stmts : List Stmt} (h : AddedByLines stmts) {block : OpenBlock}
    {outer : List OpenBlock} {program : List Stmt}
    (hlines : List.Forall₂ Spelled lines
      (tokenLinesAll stmts ++ [.word block.header.terminator.text] :: others)) :
    ∃ rest, List.Forall₂ Spelled rest others ∧
      Outline.addLines ⟨block :: outer, program⟩ lines =
        (Outline.push ⟨outer, program⟩
          (OpenBlock.close { block with body := block.body ++ stmts })).addLines rest := by
  obtain ⟨later, hlater, hbody⟩ := h ⟨block :: outer, program⟩ lines _ hlines
  obtain ⟨last, rest, hlast, hrest, rfl⟩ := List.forall₂_cons_right_iff.mp hlater
  refine ⟨rest, hrest, ?_⟩
  rw [hbody]
  exact Outline.addLines_cons_terminator hlast

/-- A block of one part is added by its lines if its body is. -/
theorem AddedByLines.block {body : List Stmt} (h : AddedByLines body) {header : Header}
    (hclear : header.isClear) (o : Outline)
    (hlines : List.Forall₂ Spelled lines
      (header.tokens :: (tokenLinesAll body ++ [[.word header.terminator.text]]) ++ others)) :
    ∃ rest, List.Forall₂ Spelled rest others ∧
      o.addLines lines = (o.push (OpenBlock.close ⟨0, header, none, body⟩)).addLines rest := by
  rw [List.cons_append, List.append_assoc] at hlines
  obtain ⟨first, later, hfirst, hlater, rfl⟩ := List.forall₂_cons_right_iff.mp hlines
  rw [Outline.addLines_cons_header hclear hfirst]
  exact h.closes hlater

mutual

theorem addLines_tokenLines :
    ∀ (stmt : Stmt), stmt.isClear → ∀ (o : Outline) (lines : List (Nat × String))
      (others : List (List Token)), List.Forall₂ Spelled lines (stmt.tokenLines ++ others) →
        ∃ rest, List.Forall₂ Spelled rest others ∧
          o.addLines lines = (o.push stmt).addLines rest
  | .assign target value, _, o, lines, others, hlines => by
    rw [tokenLines] at hlines
    obtain ⟨line, rest, hline, hrest, rfl⟩ := List.forall₂_cons_right_iff.mp hlines
    exact ⟨rest, hrest, Outline.addLines_cons_assign hline⟩
  | .print value, _, o, lines, others, hlines => by
    rw [tokenLines] at hlines
    obtain ⟨line, rest, hline, hrest, rfl⟩ := List.forall₂_cons_right_iff.mp hlines
    exact ⟨rest, hrest, Outline.addLines_cons_print hline⟩
  | .ifThen test body, hclear, o, lines, others, hlines => by
    rw [isClear] at hclear
    rw [tokenLines] at hlines
    exact (addedByLines body hclear).block rfl o hlines
  | .ifThenElse test thenBody elseBody, hclear, o, lines, others, hlines => by
    rw [isClear, Bool.and_eq_true] at hclear
    rw [tokenLines] at hlines
    simp only [List.cons_append, List.append_assoc, List.nil_append] at hlines
    obtain ⟨first, afterFirst, hfirst, hafterFirst, rfl⟩ := List.forall₂_cons_right_iff.mp hlines
    rw [Outline.addLines_cons_header rfl hfirst]
    -- Both parts are bodies of one open block; the line between them sets the first part aside.
    obtain ⟨afterThen, hafterThen, hthen⟩ := addedByLines thenBody hclear.1 _ _ _ hafterFirst
    obtain ⟨turn, afterTurn, hturn, hafterTurn, rfl⟩ :=
      List.forall₂_cons_right_iff.mp hafterThen
    rw [hthen]
    dsimp only [Outline.pushAll]
    rw [Outline.addLines_cons_else hturn]
    exact (addedByLines elseBody hclear.2).closes hafterTurn
  | .foreach kind var source body, hclear, o, lines, others, hlines => by
    rw [isClear, Bool.and_eq_true] at hclear
    rw [tokenLines] at hlines
    have hheader : (Header.foreach kind var source).isClear := hclear.1
    exact (addedByLines body hclear.2).block hheader o hlines
  | .whileDo test body, hclear, o, lines, others, hlines => by
    rw [isClear] at hclear
    rw [tokenLines] at hlines
    exact (addedByLines body hclear).block rfl o hlines

theorem addedByLines : ∀ (stmts : List Stmt), areClear stmts → AddedByLines stmts
  | [], _, o, lines, others, hlines => by
    rw [tokenLinesAll, List.nil_append] at hlines
    exact ⟨lines, hlines, by rw [Outline.pushAll_nil]⟩
  | stmt :: rest, hclear, o, lines, others, hlines => by
    rw [areClear, Bool.and_eq_true] at hclear
    rw [tokenLinesAll, List.append_assoc] at hlines
    obtain ⟨afterFirst, hafterFirst, hfirst⟩ :=
      addLines_tokenLines stmt hclear.1 o lines _ hlines
    obtain ⟨later, hlater, hrest⟩ := addedByLines rest hclear.2 (o.push stmt) _ _ hafterFirst
    exact ⟨later, hlater, by rw [hfirst, hrest, Outline.pushAll_cons]⟩

end

end Stmt

/-! ### Significant lines -/

/-- Blank lines and comments hold nothing. -/
def Text.isSignificant (s : List Char) : Bool := s ≠ [] && s.head? ≠ some '#'

/-- The lines of a text that hold something, trimmed. -/
def significantTexts (source : String) : List String :=
  (((Text.lines source.toList).map Text.trim).filter Text.isSignificant).map .ofList

/-- A line that holds something, trimmed, with its number. -/
def significant? (line : Nat × List Char) : Option (Nat × String) :=
  if Text.isSignificant (Text.trim line.2) then some (line.1, .ofList (Text.trim line.2)) else none

theorem significantLines_eq (source : String) :
    significantLines source = (Text.numberedLines source.toList).filterMap significant? := by
  unfold significantLines
  congr 1
  funext ⟨number, line⟩
  unfold significant?
  dsimp only
  split
  · next hnil =>
      rw [hnil]
      rfl
  · next hcomment =>
      rw [hcomment]
      rfl
  · next hnil hcomment =>
      have hhead : (Text.trim line).head? ≠ some '#' := by
        intro hhead
        exact hcomment _ (List.cons_head?_tail hhead).symm
      have hsignificant : Text.isSignificant (Text.trim line) := by
        simpa [Text.isSignificant] using ⟨hnil, hhead⟩
      rw [if_pos hsignificant]

theorem map_snd_significantLines (source : String) :
    (significantLines source).map Prod.snd = significantTexts source := by
  rw [significantLines_eq]
  unfold significantTexts Text.numberedLines
  generalize Text.lines source.toList = lines
  generalize 1 = start
  induction lines generalizing start with
  | nil => rfl
  | cons line rest ih =>
      rw [List.zipIdx_cons, List.map_cons, List.filterMap_cons, List.map_cons, List.filter_cons]
      dsimp only [Prod.swap, significant?]
      by_cases hsignificant : Text.isSignificant (Text.trim line)
      · rw [if_pos hsignificant, if_pos hsignificant]
        exact congrArg _ (ih (start + 1))
      · rw [if_neg hsignificant, if_neg hsignificant]
        exact ih (start + 1)

theorem isTrimmed_of_mem_significantTexts {source text : String}
    (h : text ∈ significantTexts source) : Text.IsTrimmed text.toList := by
  unfold significantTexts at h
  obtain ⟨trimmed, htrimmed, rfl⟩ := List.mem_map.mp h
  obtain ⟨line, -, rfl⟩ := List.mem_map.mp (List.mem_filter.mp htrimmed).1
  rw [String.toList_ofList]
  exact Text.isTrimmed_trim line

theorem spelled_significantLines {source : String} {tokens : List (List Token)}
    (h : List.Forall₂ (fun line => (Token.tokenize line.2 = .ok ·)) (significantLines source)
      tokens) : List.Forall₂ Spelled (significantLines source) tokens := by
  have htrimmed : ∀ line ∈ significantLines source, Text.IsTrimmed line.2.toList := by
    intro line hline
    have hmem : line.2 ∈ significantTexts source := by
      rw [← map_snd_significantLines]
      exact List.mem_map_of_mem hline
    exact isTrimmed_of_mem_significantTexts hmem
  exact (List.forall₂_and_left _ tokens).mpr ⟨htrimmed, h⟩

/-- **The language is that of its grammar.** A text is read as a program exactly if its significant
lines have the tokens of that program, and no loop of it has a variable that reads as the word for
what the loop goes over. -/
theorem parseProgram_eq_ok_iff (source : String) (program : List Stmt) :
    parseProgram source = .ok program ↔
      List.Forall₂ (fun text tokens => Token.tokenize text = .ok tokens) (significantTexts source)
        (Stmt.tokenLinesAll program) ∧ Stmt.areClear program := by
  rw [← map_snd_significantLines, List.forall₂_map_left_iff]
  constructor
  · intro h
    unfold parseProgram at h
    cases hlines : Outline.empty.addLines (significantLines source) with
    | error e => simp [hlines] at h
    | ok outline =>
        rw [hlines] at h
        obtain ⟨hwellFormed, tokens, htokens, hspelled⟩ := Outline.wellFormed_empty.addLines hlines
        obtain ⟨blocks, read⟩ := outline
        cases blocks with
        | cons block outer => cases h
        | nil =>
            have hread : read = program := Except.ok.inj h
            have htokenLines : Stmt.tokenLinesAll read = tokens := by
              simpa [Outline.tokenLines, Outline.blockLines, Outline.empty, Stmt.tokenLinesAll]
                using hspelled
            rw [← hread, htokenLines]
            exact ⟨htokens, hwellFormed.program⟩
  · rintro ⟨htokens, hclear⟩
    have hspelled : List.Forall₂ Spelled (significantLines source)
        (Stmt.tokenLinesAll program ++ []) := by
      rw [List.append_nil]
      exact spelled_significantLines htokens
    obtain ⟨rest, hrest, hlines⟩ :=
      Stmt.addedByLines program hclear Outline.empty _ _ hspelled
    cases hrest
    unfold parseProgram
    rw [hlines]
    rfl

end StringScript
