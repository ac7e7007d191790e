import Mathlib.Data.List.Forall2
import Mathlib.Tactic.SplitIfs
import StringScript.Token.Lexer

/-!
# Layouts of tokens

A layout of some tokens is a text that spells them in their order, with blanks before, between and
after them; only two words in a row need a blank between them. Reading a layout gives its tokens and
comes down to reading on after it, unless a word at its end runs on there.
-/

namespace StringScript

/-- The number of bytes of a text in UTF-8. -/
def Text.byteCount (s : List Char) : Nat := (String.ofList s).utf8ByteSize

@[simp]
theorem Text.byteCount_nil : byteCount [] = 0 := rfl

@[simp]
theorem Text.byteCount_append (s t : List Char) :
    byteCount (s ++ t) = byteCount s + byteCount t := by
  rw [byteCount, String.ofList_append, String.utf8ByteSize_append]
  rfl

@[simp]
theorem Text.byteCount_cons (c : Char) (s : List Char) :
    byteCount (c :: s) = c.utf8Size + byteCount s := by
  have hchar : byteCount [c] = c.utf8Size :=
    (@String.utf8ByteSize_push "" c).trans (Nat.zero_add c.utf8Size)
  rw [← List.singleton_append, byteCount_append, hchar]

namespace Token

/-! ### Spellings -/

/-- The ways to write a character in a literal. A separator cannot be written, and what would end
the literal or start an escape is written as an escape. -/
def literalForms (c : Char) : List (List Char) :=
  if c = '\x00' then []
  else if c = '"' || c = '\\' then [['\\', c]]
  else if c = '\n' then [[c], ['\\', 'n']]
  else if c = '\t' then [[c], ['\\', 't']]
  else [[c]]

theorem mem_literalForms_iff {c : Char} {form : List Char} :
    form ∈ literalForms c ↔ (form = [c] ∧ c ≠ '"' ∧ c ≠ '\\' ∧ c ≠ '\x00') ∨
      ∃ letter, escaped? letter = some c ∧ form = ['\\', letter] := by
  constructor
  · intro h
    unfold literalForms at h
    split_ifs at h with hnul hself hnewline htab
    · cases h
    · exact .inr ⟨c, by rw [escaped?, if_pos hself], List.mem_singleton.mp h⟩
    · subst hnewline
      obtain rfl | h := List.mem_cons.mp h
      · exact .inl (by decide)
      · exact .inr ⟨'n', rfl, List.mem_singleton.mp h⟩
    · subst htab
      obtain rfl | h := List.mem_cons.mp h
      · exact .inl (by decide)
      · exact .inr ⟨'t', rfl, List.mem_singleton.mp h⟩
    · simp only [Bool.or_eq_true, decide_eq_true_eq, not_or] at hself
      exact .inl ⟨List.mem_singleton.mp h, hself.1, hself.2, hnul⟩
  · rintro (⟨rfl, hquote, hslash, hnul⟩ | ⟨letter, hletter, rfl⟩)
    · unfold literalForms
      rw [if_neg hnul, if_neg (by simp [hquote, hslash])]
      split_ifs <;> exact List.mem_cons_self
    · unfold escaped? at hletter
      split_ifs at hletter with hself hnewline htab
      · cases hletter
        rw [Bool.or_eq_true, decide_eq_true_eq, decide_eq_true_eq] at hself
        obtain rfl | rfl := hself
        · decide
        · decide
      · cases hletter
        rw [hnewline]
        decide
      · cases hletter
        rw [htab]
        decide

def SpelledBy : Token → List Char → Prop
  | text value, s => ∃ forms, List.Forall₂ (· ∈ literalForms ·) forms value.toList ∧
      s = '"' :: (forms.flatten ++ ['"'])
  | word value, s => s = value.toList ∧ s ≠ [] ∧ ∀ c ∈ s, isWordChar c
  | leftParen, s => s = ['(']
  | rightParen, s => s = [')']
  | comma, s => s = [',']
  | assign, s => s = ['=']

def isWord : Token → Bool
  | word _ => true
  | _ => false

/-- The text spells the tokens, with blanks after each. -/
inductive LaidOut : List Token → List Char → Prop
  | nil : LaidOut [] []
  | cons {token : Token} {spelling gap : List Char} {tokens : List Token} {rest : List Char}
    (hspelling : token.SpelledBy spelling) (hgap : ∀ c ∈ gap, Text.isBlank c)
    (hparted : token.isWord → (∃ next ∈ tokens.head?, next.isWord) → gap ≠ [])
    (hrest : LaidOut tokens rest) : LaidOut (token :: tokens) (spelling ++ gap ++ rest)

/-- The text spells the tokens, with blanks before and after each. -/
def IsLayout (tokens : List Token) (s : List Char) : Prop :=
  ∃ gap rest, s = gap ++ rest ∧ (∀ c ∈ gap, Text.isBlank c) ∧ LaidOut tokens rest

/-- A word at the end of a text would go on in the text after it. -/
def RunsOn (s rest : List Char) : Prop :=
  (∃ c ∈ s.getLast?, isWordChar c) ∧ ∃ c ∈ rest.head?, isWordChar c

theorem not_isWordChar_of_isBlank {c : Char} (h : Text.isBlank c) : ¬ isWordChar c := by
  intro hword
  change (((decide (65 ≤ c.val ∧ c.val ≤ 90) || (decide (97 ≤ c.val) && decide (c.val ≤ 122))) ||
    (decide (48 ≤ c.val) && decide (c.val ≤ 57))) || c == '_') = true at hword
  simp only [Bool.or_eq_true, Bool.and_eq_true, decide_eq_true_eq, beq_iff_eq,
    UInt32.le_iff_toNat_le] at hword
  simp only [Text.isBlank, Text.blanks, CharSet.contains, CharSet.containsPoint, List.any_cons,
    List.any_nil, Bool.or_eq_true, Bool.and_eq_true, decide_eq_true_eq, Bool.false_eq_true,
    or_false] at h
  change (((65 ≤ c.toNat ∧ c.toNat ≤ 90) ∨ (97 ≤ c.toNat ∧ c.toNat ≤ 122)) ∨
    (48 ≤ c.toNat ∧ c.toNat ≤ 57)) ∨ c = '_' at hword
  obtain hrange | rfl := hword
  · omega
  · exact absurd h (by decide)

theorem RunsOn.prepend {s rest : List Char} (h : RunsOn s rest) (before : List Char) :
    RunsOn (before ++ s) rest := by
  obtain ⟨⟨c, hc, hword⟩, hrest⟩ := h
  refine ⟨⟨c, ?_, hword⟩, hrest⟩
  rw [List.getLast?_append, Option.mem_def.mp hc]
  rfl

/-- The first character of a token tells whether it is a word. -/
theorem SpelledBy.head? {token : Token} {s : List Char} (h : token.SpelledBy s) :
    ∃ c ∈ s.head?, isWordChar c = token.isWord := by
  cases token with
  | text value =>
      obtain ⟨forms, -, rfl⟩ := h
      exact ⟨'"', rfl, rfl⟩
  | word value =>
      obtain ⟨-, hne, hword⟩ := h
      obtain ⟨c, rest, rfl⟩ := List.exists_cons_of_ne_nil hne
      exact ⟨c, rfl, hword c List.mem_cons_self⟩
  | leftParen => exact ⟨'(', h ▸ rfl, rfl⟩
  | rightParen => exact ⟨')', h ▸ rfl, rfl⟩
  | comma => exact ⟨',', h ▸ rfl, rfl⟩
  | assign => exact ⟨'=', h ▸ rfl, rfl⟩

theorem SpelledBy.getLast? {token : Token} {s : List Char} (h : token.SpelledBy s)
    (hword : token.isWord) : ∃ c ∈ s.getLast?, isWordChar c := by
  cases token with
  | word value =>
      obtain ⟨-, hne, hletters⟩ := h
      exact ⟨s.getLast hne, List.getLast?_eq_getLast_of_ne_nil hne,
        hletters _ (List.getLast_mem hne)⟩
  | _ => cases hword

theorem LaidOut.head? {tokens : List Token} {s : List Char} (h : LaidOut tokens s)
    (hword : ∃ c ∈ s.head?, isWordChar c) : ∃ next ∈ tokens.head?, next.isWord := by
  cases h with
  | nil => simp at hword
  | @cons token spelling gap tokens rest hspelling hgap hparted hrest =>
      obtain ⟨c, hc, hsame⟩ := hspelling.head?
      obtain ⟨d, hd, hword⟩ := hword
      rw [List.append_assoc, List.head?_append, Option.mem_def.mp hc] at hd
      cases hd
      exact ⟨token, rfl, hsame ▸ hword⟩

theorem LaidOut.cons_joined {token : Token} {tokens : List Token} {s rest : List Char}
    (h : LaidOut tokens rest) (hspelling : token.SpelledBy s)
    (hsign : token.isWord → ¬ ∃ next ∈ tokens.head?, next.isWord) :
    LaidOut (token :: tokens) (s ++ rest) := by
  have hparted : token.isWord → (∃ next ∈ tokens.head?, next.isWord) → ([] : List Char) ≠ [] :=
    fun hword hnext => absurd hnext (hsign hword)
  have hcons := LaidOut.cons hspelling (by simp) hparted h
  rwa [List.append_nil] at hcons

/-! ### Layouts are read -/

variable {offset : Nat} {mode next : Mode} {c : Char} {rest : List Char}

theorem scan_cons_eq_ok_iff {tokens : List Token} :
    scan mode offset (c :: rest) = .ok tokens ↔
      ∃ completed next later, step offset c mode = .ok (completed, next) ∧
        scan next (offset + c.utf8Size) rest = .ok later ∧ tokens = completed ++ later := by
  rw [scan]
  rcases hstep : step offset c mode with e | ⟨completed, next⟩
  · simp
  · rcases hlater : scan next (offset + c.utf8Size) rest with e | later
    · simp [Except.map, hlater]
    · simp [Except.map, hlater, eq_comm]

theorem scan_cons_of_step (h : step offset c mode = .ok ([], next)) :
    scan mode offset (c :: rest) = scan next (offset + c.utf8Size) rest := by
  rw [scan, h]
  cases hscan : scan next (offset + c.utf8Size) rest <;> simp [Except.map, hscan]

theorem scan_cons_of_step_completing {token : Token}
    (h : step offset c mode = .ok ([token], next)) :
    scan mode offset (c :: rest) =
      (scan next (offset + c.utf8Size) rest).map (token :: ·) := by
  rw [scan, h]
  rfl

theorem scan_blanks {gap : List Char} (h : ∀ c ∈ gap, Text.isBlank c) :
    scan .gap offset (gap ++ rest) = scan .gap (offset + Text.byteCount gap) rest := by
  induction gap generalizing offset with
  | nil => rfl
  | cons c gap ih =>
      rw [List.forall_mem_cons] at h
      have hstep : step offset c .gap = .ok ([], .gap) := by
        rw [step, opened, if_pos h.1]
      rw [List.cons_append, scan_cons_of_step hstep, ih h.2, Text.byteCount_cons, Nat.add_assoc]

theorem scan_letters {letters more : List Char} (h : ∀ c ∈ more, isWordChar c) :
    scan (.word letters) offset (more ++ rest) =
      scan (.word (more.reverse ++ letters)) (offset + Text.byteCount more) rest := by
  induction more generalizing letters offset with
  | nil => rfl
  | cons c more ih =>
      rw [List.forall_mem_cons] at h
      have hstep : step offset c (.word letters) = .ok ([], .word (c :: letters)) := by
        rw [step, if_pos h.1]
      rw [List.cons_append, scan_cons_of_step hstep, ih h.2, Text.byteCount_cons, Nat.add_assoc]
      simp

/-- A word ends before the first character that is none of its kind. -/
theorem scan_word_of_ended {letters : List Char} (h : ∀ c ∈ rest.head?, ¬ isWordChar c) :
    scan (.word letters) offset rest =
      (scan .gap offset rest).map (word (.ofList letters.reverse) :: ·) := by
  cases rest with
  | nil => rfl
  | cons c rest =>
      have hc : ¬ isWordChar c := h c rfl
      have hstep : step offset c (.word letters) =
          (opened offset c).map (Prod.map (word (.ofList letters.reverse) :: ·) id) := by
        rw [step, if_neg hc]
        rfl
      rw [scan, scan, hstep, step]
      rcases opened offset c with e | ⟨completed, next⟩
      · rfl
      · dsimp only [Except.map, Prod.map, id]
        cases scan next (offset + c.utf8Size) rest <;> rfl

theorem scan_form {column : Nat} {content form : List Char} (h : form ∈ literalForms c) :
    scan (.literal column content) offset (form ++ rest) =
      scan (.literal column (c :: content)) (offset + Text.byteCount form) rest := by
  obtain ⟨rfl, hquote, hslash, hnul⟩ | ⟨letter, hletter, rfl⟩ := mem_literalForms_iff.mp h
  · have hstep : step offset c (.literal column content) =
        .ok ([], .literal column (c :: content)) := by
      rw [step, if_neg hquote, if_neg hslash, if_neg hnul]
    rw [List.singleton_append, scan_cons_of_step hstep, Text.byteCount_cons, Text.byteCount_nil,
      Nat.add_zero]
  · have hstep : ∀ place, step place letter (.escape column content) =
        .ok ([], .literal column (c :: content)) := by
      intro place
      rw [step, hletter]
    rw [List.cons_append, scan_cons_of_step rfl, List.singleton_append,
      scan_cons_of_step (hstep _), Nat.add_assoc, Text.byteCount_cons, Text.byteCount_cons,
      Text.byteCount_nil, Nat.add_zero]

theorem scan_forms {column : Nat} {content value : List Char} {forms : List (List Char)}
    (h : List.Forall₂ (· ∈ literalForms ·) forms value) :
    scan (.literal column content) offset (forms.flatten ++ rest) =
      scan (.literal column (value.reverse ++ content))
        (offset + Text.byteCount forms.flatten) rest := by
  induction h generalizing content offset with
  | nil => rfl
  | cons hform _ ih =>
      rw [List.flatten_cons, List.append_assoc, scan_form hform, ih, Text.byteCount_append,
        Nat.add_assoc]
      simp

theorem scan_spelling {token : Token} {s : List Char} (h : token.SpelledBy s)
    (hrest : token.isWord → ∀ c ∈ rest.head?, ¬ isWordChar c) :
    scan .gap offset (s ++ rest) =
      (scan .gap (offset + Text.byteCount s) rest).map (token :: ·) := by
  have hsign : ∀ sign : Char, s = [sign] → step offset sign .gap = .ok ([token], .gap) →
      scan .gap offset (s ++ rest) =
        (scan .gap (offset + Text.byteCount s) rest).map (token :: ·) := by
    rintro sign rfl hstep
    rw [List.singleton_append, scan_cons_of_step_completing hstep, Text.byteCount_cons,
      Text.byteCount_nil, Nat.add_zero]
  cases token with
  | text value =>
      obtain ⟨forms, hforms, rfl⟩ := h
      have hclose : ∀ place, step place '"' (.literal (offset + 1) value.toList.reverse) =
          .ok ([text value], .gap) := by
        intro place
        rw [step, if_pos rfl, List.reverse_reverse, String.ofList_toList]
      rw [List.cons_append, List.append_assoc, scan_cons_of_step rfl, scan_forms hforms,
        List.append_nil, List.singleton_append, scan_cons_of_step_completing (hclose _)]
      simp [Nat.add_assoc]
  | word value =>
      obtain ⟨hvalue, hne, hword⟩ := h
      obtain ⟨c, letters, rfl⟩ := List.exists_cons_of_ne_nil hne
      rw [List.forall_mem_cons] at hword
      have hstep : step offset c .gap = .ok ([], .word [c]) := by
        have hblank : ¬ Text.isBlank c := fun h => not_isWordChar_of_isBlank h hword.1
        rw [step, opened, if_neg hblank, if_pos hword.1]
      rw [List.cons_append, scan_cons_of_step hstep, scan_letters hword.2,
        scan_word_of_ended (hrest rfl), Text.byteCount_cons, Nat.add_assoc, List.reverse_append,
        List.reverse_reverse, List.reverse_singleton, List.singleton_append, hvalue,
        String.ofList_toList]
  | leftParen => exact hsign '(' h rfl
  | rightParen => exact hsign ')' h rfl
  | comma => exact hsign ',' h rfl
  | assign => exact hsign '=' h rfl

/-- After a text that spells tokens, reading goes on as from the start, unless a word runs on. -/
theorem scan_laidOut {tokens : List Token} {s : List Char} (h : LaidOut tokens s)
    (hrest : ¬ RunsOn s rest) :
    scan .gap offset (s ++ rest) =
      (scan .gap (offset + Text.byteCount s) rest).map (tokens ++ ·) := by
  induction h generalizing offset with
  | nil =>
      rw [List.nil_append, Text.byteCount_nil, Nat.add_zero]
      cases scan .gap offset rest <;> rfl
  | @cons token spelling gap tokens others hspelling hgap hparted hothers ih =>
      have hlast : ¬ RunsOn others rest := fun h => hrest (h.prepend _)
      have hended : token.isWord → ∀ c ∈ (gap ++ (others ++ rest)).head?, ¬ isWordChar c := by
        intro hword c hc hletter
        cases gap with
        | cons blank gap =>
            cases hc
            exact not_isWordChar_of_isBlank (hgap c List.mem_cons_self) hletter
        | nil =>
            cases others with
            | cons first others =>
                cases hc
                exact hparted hword (hothers.head? ⟨c, rfl, hletter⟩) rfl
            | nil =>
                refine hrest ⟨?_, c, hc, hletter⟩
                simpa using hspelling.getLast? hword
      rw [List.append_assoc, List.append_assoc, scan_spelling hspelling hended, scan_blanks hgap,
        ih hlast]
      simp only [Text.byteCount_append, Nat.add_assoc]
      cases scan .gap (offset + (Text.byteCount spelling + (Text.byteCount gap +
        Text.byteCount others))) rest <;> rfl

theorem scan_layout {tokens : List Token} {s : List Char} (h : IsLayout tokens s)
    (hrest : ¬ RunsOn s rest) :
    scan .gap offset (s ++ rest) =
      (scan .gap (offset + Text.byteCount s) rest).map (tokens ++ ·) := by
  obtain ⟨gap, others, rfl, hgap, hothers⟩ := h
  rw [List.append_assoc, scan_blanks hgap, scan_laidOut hothers fun h => hrest (h.prepend gap),
    Text.byteCount_append, Nat.add_assoc]

end Token

end StringScript
