import Mathlib.Data.List.Basic
import StringScript.Proofs.Grammar.Statement
import StringScript.Proofs.Grammar.Tokens

/-!
# Lines as tokens

The words that end a block are told by the text of their line, all other lines by their tokens. This
makes no difference on trimmed lines: such a line is a word exactly if that word is its only token.
-/

namespace StringScript

namespace Text

/-- No blank stands at either end. -/
def IsTrimmed (s : List Char) : Prop :=
  (∀ c ∈ s.head?, ¬ isBlank c) ∧ ∀ c ∈ s.getLast?, ¬ isBlank c

theorem not_isBlank_of_mem_head?_dropWhile {s : List Char} {c : Char}
    (h : c ∈ (s.dropWhile isBlank).head?) : ¬ isBlank c := by
  have hnot := List.head?_dropWhile_not isBlank s
  rw [Option.mem_def.mp h] at hnot
  simpa using hnot

theorem isTrimmed_trim (s : List Char) : IsTrimmed (trim s) := by
  constructor
  · intro c hc
    have hprefix : trim s <+: s.dropWhile isBlank := by
      rw [← List.reverse_suffix, trim, List.reverse_reverse]
      exact List.dropWhile_suffix isBlank
    obtain ⟨after, hafter⟩ := hprefix
    have hhead : c ∈ (s.dropWhile isBlank).head? := by
      rw [← hafter, List.head?_append, Option.mem_def.mp hc]
      rfl
    exact not_isBlank_of_mem_head?_dropWhile hhead
  · intro c hc
    rw [trim, List.getLast?_reverse] at hc
    exact not_isBlank_of_mem_head?_dropWhile hc

theorem IsTrimmed.eq_of_blanks_around {s before middle after : List Char} (h : IsTrimmed s)
    (hs : s = before ++ middle ++ after) (hbefore : ∀ c ∈ before, isBlank c)
    (hafter : ∀ c ∈ after, isBlank c) : s = middle := by
  have hfirst : before = [] := by
    cases before with
    | nil => rfl
    | cons c rest =>
        have hc : c ∈ s.head? := by
          rw [hs]
          rfl
        exact absurd (hbefore c (by simp)) (h.1 c hc)
  have hlast : after = [] := by
    rcases List.eq_nil_or_concat after with hnil | ⟨rest, c, hconcat⟩
    · exact hnil
    · have hc : c ∈ s.getLast? := by
        rw [hs, hconcat, List.concat_eq_append, ← List.append_assoc, List.getLast?_append]
        rfl
      exact absurd (hafter c (by simp [hconcat])) (h.2 c hc)
  rw [hs, hfirst, hlast, List.nil_append, List.append_nil]

end Text

/-! ### Lines of one word -/

namespace Token

theorem eq_of_tokenize_eq_word {line value : String} (htrimmed : Text.IsTrimmed line.toList)
    (h : tokenize line = .ok [.word value]) : line = value := by
  obtain ⟨before, rest, hline, hbefore, hlaidOut⟩ := tokenize_eq_ok_iff.mp h
  cases hlaidOut with
  | @cons _ spelling after _ _ hspelling hafter _ hnil =>
      cases hnil
      obtain ⟨rfl, -, -⟩ := hspelling
      rw [List.append_nil, ← List.append_assoc] at hline
      exact String.toList_inj.mp (htrimmed.eq_of_blanks_around hline hbefore hafter)

end Token

/-! ### Lines of any form -/

namespace Terminator

theorem ofText?_text (word : Terminator) : ofText? word.text = some word := by
  cases word <;> decide

theorem text_eq_of_ofText? {line : String} {word : Terminator} (h : ofText? line = some word) :
    word.text = line := by
  simpa using List.find?_some h

theorem tokenize_text (word : Terminator) :
    Token.tokenize word.text = .ok [.word word.text] := by
  cases word <;> rfl

end Terminator

theorem Header.head?_tokens (header : Header) :
    header.tokens.head? = some (.word header.keyword) := by
  cases header <;> rfl

/-- A first line of a block is no assignment: an expression or a word follows its first word. -/
theorem Header.getElem?_one_tokens (header : Header) :
    ∃ second, header.tokens[1]? = some second ∧ second ≠ .assign := by
  have hguarded : ∀ (test : Condition) (last : List Token),
      ∃ second, (test.tokens ++ last)[0]? = some second ∧ second ≠ .assign := by
    intro test last
    obtain ⟨first, rest, hfirst, ⟨value, rfl⟩ | ⟨value, rfl⟩⟩ := test.lhs.exists_tokens_eq_cons
    · exact ⟨.text value, by simp [Condition.tokens, hfirst], by simp⟩
    · exact ⟨.word value, by simp [Condition.tokens, hfirst], by simp⟩
  cases header with
  | ifThen test => exact hguarded test _
  | whileDo test => exact hguarded test _
  | foreach kind var source => cases kind <;> simp [tokens, Iteration.tokens]

/-- A line of the given form has the tokens. -/
inductive LineForm.Spells : LineForm → List Token → Prop
  | terminator (word : Terminator) : Spells (.terminator word) [.word word.text]
  | header (h : Header) (clear : h.isClear) : Spells (.header h) h.tokens
  | assign (target : String) (e : Expr) :
    Spells (.simple (.assign target e)) (.word target :: .assign :: e.tokens)
  | print (e : Expr) : Spells (.simple (.print e)) (.word "print" :: e.tokens)

namespace LineForm

variable {form : LineForm} {tokens : List Token}

theorem Spells.one_lt_length (h : form.Spells tokens) (hform : ∀ word, form ≠ .terminator word) :
    1 < tokens.length := by
  cases h with
  | terminator word => exact absurd rfl (hform word)
  | header h =>
      obtain ⟨second, hsecond, -⟩ := h.getElem?_one_tokens
      exact (List.getElem?_eq_some_iff.mp hsecond).1
  | assign target e => simp
  | print e =>
      obtain ⟨first, rest, hfirst, -⟩ := e.exists_tokens_eq_cons
      simp [hfirst]

theorem map_eq_ok_iff {α β ε : Type} {f : α → β} {x : Except ε α} {value : β} :
    x.map f = .ok value ↔ ∃ found, x = .ok found ∧ f found = value := by
  cases x <;> simp [Except.map]

theorem spells_of_ofTokens? (h : ofTokens? tokens = some (.ok form)) : form.Spells tokens := by
  unfold ofTokens? at h
  split at h
  · next hassign =>
      obtain ⟨stmt, hwhole, rfl⟩ := map_eq_ok_iff.mp (Option.some.inj h)
      obtain ⟨target, e, rfl, rfl⟩ := (Reading.whole_assignment_eq_ok_iff hassign).mp hwhole
      exact .assign target e
  · split at h
    · obtain ⟨stmt, hwhole, rfl⟩ := map_eq_ok_iff.mp (Option.some.inj h)
      obtain ⟨e, rfl, rfl⟩ := Reading.whole_printStmt_eq_ok_iff.mp hwhole
      exact .print e
    · obtain ⟨header, hwhole, rfl⟩ := map_eq_ok_iff.mp (Option.some.inj h)
      obtain ⟨test, rfl, rfl⟩ := Reading.whole_ifHeader_eq_ok_iff.mp hwhole
      exact .header _ rfl
    · obtain ⟨header, hwhole, rfl⟩ := map_eq_ok_iff.mp (Option.some.inj h)
      obtain ⟨kind, var, source, rfl, hadmits, rfl⟩ :=
        Reading.whole_foreachHeader_eq_ok_iff.mp hwhole
      exact .header _ hadmits
    · obtain ⟨header, hwhole, rfl⟩ := map_eq_ok_iff.mp (Option.some.inj h)
      obtain ⟨test, rfl, rfl⟩ := Reading.whole_whileHeader_eq_ok_iff.mp hwhole
      exact .header _ rfl
    · cases h

theorem ofTokens?_tokens {h : Header} (hclear : h.isClear) :
    ofTokens? h.tokens = some (.ok (.header h)) := by
  obtain ⟨second, hsecond, hne⟩ := h.getElem?_one_tokens
  have hassign : h.tokens[1]? ≠ some .assign := by
    rw [hsecond]
    simpa using hne
  unfold ofTokens?
  rw [if_neg hassign, h.head?_tokens]
  cases h with
  | ifThen test =>
      have hwhole := Reading.whole_ifHeader_eq_ok_iff.mpr ⟨test, rfl, rfl⟩
      exact congrArg some (map_eq_ok_iff.mpr ⟨_, hwhole, rfl⟩)
  | foreach kind var source =>
      have hwhole := Reading.whole_foreachHeader_eq_ok_iff.mpr
        ⟨kind, var, source, rfl, hclear, rfl⟩
      exact congrArg some (map_eq_ok_iff.mpr ⟨_, hwhole, rfl⟩)
  | whileDo test =>
      have hwhole := Reading.whole_whileHeader_eq_ok_iff.mpr ⟨test, rfl, rfl⟩
      exact congrArg some (map_eq_ok_iff.mpr ⟨_, hwhole, rfl⟩)

theorem ofTokens?_print (e : Expr) :
    ofTokens? (.word "print" :: e.tokens) = some (.ok (.simple (.print e))) := by
  obtain ⟨first, rest, hfirst, hkind⟩ := e.exists_tokens_eq_cons
  have hassign : (Token.word "print" :: e.tokens)[1]? ≠ some .assign := by
    rcases hkind with ⟨value, rfl⟩ | ⟨value, rfl⟩ <;> simp [hfirst]
  have hwhole := Reading.whole_printStmt_eq_ok_iff.mpr ⟨e, rfl, rfl⟩
  unfold ofTokens?
  rw [if_neg hassign]
  exact congrArg some (map_eq_ok_iff.mpr ⟨_, hwhole, rfl⟩)

theorem ofTokens?_assign (target : String) (e : Expr) :
    ofTokens? (.word target :: .assign :: e.tokens) = some (.ok (.simple (.assign target e))) := by
  have hwhole := (Reading.whole_assignment_eq_ok_iff rfl).mpr ⟨target, e, rfl, rfl⟩
  exact congrArg some (map_eq_ok_iff.mpr ⟨_, hwhole, rfl⟩)

theorem Spells.ofTokens? (h : form.Spells tokens) (hform : ∀ word, form ≠ .terminator word) :
    LineForm.ofTokens? tokens = some (.ok form) := by
  cases h with
  | terminator word => exact absurd rfl (hform word)
  | header h hclear => exact ofTokens?_tokens hclear
  | assign target e => exact ofTokens?_assign target e
  | print e => exact ofTokens?_print e

theorem ofLine_text (word : Terminator) : ofLine word.text = .ok (.terminator word) := by
  unfold ofLine
  rw [Terminator.ofText?_text]

theorem tokenize_of_ofLine {line : String} (h : ofLine line = .ok form) :
    ∃ tokens, Token.tokenize line = .ok tokens ∧ form.Spells tokens := by
  unfold ofLine at h
  split at h
  · next word hword =>
      cases h
      rw [← Terminator.text_eq_of_ofText? hword]
      exact ⟨_, word.tokenize_text, .terminator word⟩
  · split at h
    · cases h
    · next tokens htokens =>
        split at h
        · cases h
        · cases h
        · next hform =>
            cases h
            exact ⟨tokens, htokens, spells_of_ofTokens? hform⟩

/-- A trimmed line is taken for what its tokens spell. -/
theorem ofLine_eq_ok_iff {line : String} (htrimmed : Text.IsTrimmed line.toList) :
    ofLine line = .ok form ↔
      ∃ tokens, Token.tokenize line = .ok tokens ∧ form.Spells tokens := by
  refine ⟨tokenize_of_ofLine, ?_⟩
  rintro ⟨tokens, htokens, hspells⟩
  by_cases hform : ∃ word, form = .terminator word
  · obtain ⟨word, rfl⟩ := hform
    cases hspells
    -- Here blanks would count: the text of the line has to be the word itself.
    rw [Token.eq_of_tokenize_eq_word htrimmed htokens, ofLine_text]
  · rw [not_exists] at hform
    -- A word that ends a block is a line of one token, too few for any other form.
    have hnone : Terminator.ofText? line = none := by
      cases hword : Terminator.ofText? line with
      | none => rfl
      | some word =>
          rw [← Terminator.text_eq_of_ofText? hword, word.tokenize_text] at htokens
          cases htokens
          have hlength := hspells.one_lt_length hform
          simp at hlength
    unfold ofLine
    rw [hnone, htokens]
    dsimp only
    rw [hspells.ofTokens? hform]

end LineForm

end StringScript
