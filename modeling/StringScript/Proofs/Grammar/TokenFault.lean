import StringScript.Proofs.Grammar.Tokens

/-!
# Where reading tokens fails

A text without tokens has one character at which reading gets stuck: what is before it is a layout,
and either nothing starts with it, or it opens a literal that what follows does not close. The error
names that place, or the first fault inside the literal; and unless it is that the text ends inside
the literal, the text after the offending character has no part in it.
-/

namespace StringScript.Token

variable {offset column : Nat} {c : Char} {front later rest : List Char} {e : LexError}

/-! ### Faults -/

/-- The character is no blank, and no token starts with it. -/
def StartsNothing (c : Char) : Prop :=
  ¬ Text.isBlank c ∧ ¬ isWordChar c ∧ c ∉ ['(', ')', ',', '=', '"']

instance (c : Char) : Decidable (StartsNothing c) := inferInstanceAs (Decidable (_ ∧ _ ∧ _))

/-- After an opening quote, a front of the text spells the rest of a literal. -/
def ClosesLiteral (rest : List Char) : Prop :=
  ∃ value spelling later, (text value).SpelledBy spelling ∧ '"' :: rest = spelling ++ later

/-- What is first wrong in a literal that starts at the column, after characters in the forms that
literals have for them. `front` goes up to the offending character, if there is one, and `later` is
the text after it. -/
inductive LiteralFault (column : Nat) : (front later : List Char) → LexError → Prop
  | form {c : Char} {form front later : List Char} {e : LexError} (hform : form ∈ literalForms c)
    (hfront : LiteralFault column front later e) : LiteralFault column (form ++ front) later e
  | unknownEscape (letter : Char) (later : List Char) (hletter : letter ∉ ['"', '\\', 'n', 't']) :
    LiteralFault column ['\\', letter] later (.unknownEscape letter)
  | nul (later : List Char) : LiteralFault column ['\x00'] later .nulInLiteral
  | unclosed : LiteralFault column [] [] (.unterminated column)
  | unclosedEscape : LiteralFault column ['\\'] [] (.unterminated column)

/-- Why reading gets stuck at a character in the column, before the text `front ++ later`. -/
inductive Fault (column : Nat) : (c : Char) → (front later : List Char) → LexError → Prop
  | unexpected (c : Char) (later : List Char) (hc : StartsNothing c) :
    Fault column c [] later (.unexpected c column)
  | literal {front later : List Char} {e : LexError} (hopen : ¬ ClosesLiteral (front ++ later))
    (hfault : LiteralFault column front later e) : Fault column '"' front later e

/-- A text, taken apart at one of its characters. -/
structure Place where
  before : String
  char : Char
  after : String

namespace Place

def text (place : Place) : String := place.before.push place.char ++ place.after

/-- The text before the place is read, and there is a fault at the place. -/
def FailsWith (place : Place) (e : LexError) : Prop :=
  (∃ tokens, tokenize place.before = .ok tokens) ∧
    ∃ front later, place.after.toList = front ++ later ∧
      Fault (1 + place.before.utf8ByteSize) place.char front later e

end Place

/-! ### Faults are reported -/

theorem escaped?_eq_none_iff {letter : Char} :
    escaped? letter = none ↔ letter ∉ ['"', '\\', 'n', 't'] := by
  simp only [escaped?, List.mem_cons, List.not_mem_nil, or_false, Bool.or_eq_true,
    decide_eq_true_eq]
  grind

theorem LiteralFault.scan_eq {content : List Char} (h : LiteralFault column front later e) :
    scan (.literal column content) offset (front ++ later) = .error e := by
  induction h generalizing content offset with
  | form hform _ ih => rw [List.append_assoc, scan_form hform, ih]
  | unknownEscape letter later hletter =>
      rw [List.cons_append, scan_cons_of_step rfl, List.cons_append, scan, step,
        escaped?_eq_none_iff.mpr hletter]
  | nul later => rfl
  | unclosed => rfl
  | unclosedEscape => rfl

theorem LiteralFault.of_other_text (h : LiteralFault column front later e)
    (he : ∀ k, e ≠ .unterminated k) (other : List Char) : LiteralFault column front other e := by
  induction h with
  | form hform _ ih => exact .form hform (ih he)
  | unknownEscape letter _ hletter => exact .unknownEscape letter other hletter
  | nul _ => exact .nul other
  | unclosed => exact absurd rfl (he _)
  | unclosedEscape => exact absurd rfl (he _)

theorem StartsNothing.opened_eq (h : StartsNothing c) :
    opened offset c = .error (.unexpected c (offset + 1)) := by
  obtain ⟨hblank, hword, hsign⟩ := h
  simp only [List.mem_cons, List.not_mem_nil, or_false, not_or] at hsign
  obtain ⟨hleft, hright, hcomma, hassign, hquote⟩ := hsign
  rw [opened, if_neg hblank, if_neg hword, if_neg hleft, if_neg hright, if_neg hcomma,
    if_neg hassign, if_neg hquote]

theorem StartsNothing.scan_eq (h : StartsNothing c) :
    scan .gap offset (c :: rest) = .error (.unexpected c (offset + 1)) := by
  rw [scan, step, h.opened_eq]

theorem Fault.not_isWordChar (h : Fault column c front later e) : ¬ isWordChar c := by
  cases h with
  | unexpected _ _ hc => exact hc.2.1
  | literal _ _ => decide

/-- The error at a place depends on the text after the offending character only if the text ends
inside a literal. -/
theorem Fault.scan_eq {other : List Char} (h : Fault (offset + 1) c front later e)
    (hother : other = later ∨ ∀ k, e ≠ .unterminated k) :
    scan .gap offset (c :: (front ++ other)) = .error e := by
  cases h with
  | unexpected _ _ hc => exact hc.scan_eq
  | literal _ hfault =>
      rw [scan_cons_of_step rfl]
      obtain rfl | he := hother
      · exact hfault.scan_eq
      · exact (hfault.of_other_text he other).scan_eq

theorem tokenize_eq_error {tokens : List Token} {before : String} {other : List Char}
    (hbefore : tokenize before = .ok tokens)
    (h : Fault (1 + before.utf8ByteSize) c front later e)
    (hother : other = later ∨ ∀ k, e ≠ .unterminated k) :
    tokenize (before.push c ++ .ofList (front ++ other)) = .error e := by
  have hended : ¬ RunsOn before.toList (c :: (front ++ other)) := by
    rintro ⟨-, d, hd, hword⟩
    cases hd
    exact h.not_isWordChar hword
  have htext : (before.push c ++ .ofList (front ++ other)).toList =
      before.toList ++ c :: (front ++ other) := by
    simp
  have hoffset : 0 + Text.byteCount before.toList = before.utf8ByteSize := by
    rw [Nat.zero_add, Text.byteCount, String.ofList_toList]
  rw [Nat.add_comm] at h
  rw [tokenize, htext, scan_layout (tokenize_eq_ok_iff.mp hbefore) hended, hoffset,
    h.scan_eq hother]
  rfl

/-! ### Texts without tokens have a place with a fault -/

/-- Reading cannot go on at the character before the text. -/
def GetsStuck (c : Char) (after : List Char) : Prop :=
  StartsNothing c ∨ c = '"' ∧ ¬ ClosesLiteral after

theorem GetsStuck.not_isWordChar {after : List Char} (h : GetsStuck c after) : ¬ isWordChar c := by
  obtain hc | ⟨rfl, -⟩ := h
  · exact hc.2.1
  · decide

theorem ClosesLiteral.prepend {form : List Char} (h : ClosesLiteral rest)
    (hform : form ∈ literalForms c) : ClosesLiteral (form ++ rest) := by
  obtain ⟨value, spelling, later, ⟨forms, hforms, rfl⟩, heq⟩ := h
  refine ⟨.ofList (c :: value.toList), _, later, ⟨form :: forms, ?_, rfl⟩, ?_⟩
  · rw [String.toList_ofList]
    exact .cons hform hforms
  · have hrest : rest = forms.flatten ++ '"' :: later := by simpa using heq
    simp [hrest]

theorem ClosesLiteral.append (h : ClosesLiteral rest) (more : List Char) :
    ClosesLiteral (rest ++ more) := by
  obtain ⟨value, spelling, later, hspelling, heq⟩ := h
  refine ⟨value, spelling, later ++ more, hspelling, ?_⟩
  rw [← List.cons_append, heq, List.append_assoc]

/-- The rest of a literal goes on to its closing quote or to a first fault. -/
theorem closesLiteral_or_fault (column : Nat) (rest : List Char) :
    ClosesLiteral rest ∨
      ∃ front later e, rest = front ++ later ∧ LiteralFault column front later e := by
  match rest with
  | [] => exact .inr ⟨[], [], _, rfl, .unclosed⟩
  | c :: rest =>
      by_cases hquote : c = '"'
      · exact .inl ⟨"", ['"', '"'], rest, ⟨[], .nil, rfl⟩, by rw [hquote]; rfl⟩
      by_cases hnul : c = '\x00'
      · exact .inr ⟨['\x00'], rest, _, by rw [hnul]; rfl, .nul rest⟩
      by_cases hslash : c = '\\'
      · subst hslash
        match rest with
        | [] => exact .inr ⟨['\\'], [], _, rfl, .unclosedEscape⟩
        | letter :: rest =>
            cases hletter : escaped? letter with
            | none =>
                exact .inr ⟨['\\', letter], rest, _, rfl,
                  .unknownEscape letter rest (escaped?_eq_none_iff.mp hletter)⟩
            | some meant =>
                have hform : ['\\', letter] ∈ literalForms meant :=
                  mem_literalForms_iff.mpr (.inr ⟨letter, hletter, rfl⟩)
                obtain hcloses | ⟨front, later, e, rfl, hfault⟩ :=
                  closesLiteral_or_fault column rest
                · exact .inl (hcloses.prepend hform)
                · exact .inr ⟨_, later, e, rfl, .form hform hfault⟩
      · have hform : [c] ∈ literalForms c :=
          mem_literalForms_iff.mpr (.inl ⟨rfl, hquote, hslash, hnul⟩)
        obtain hcloses | ⟨front, later, e, rfl, hfault⟩ := closesLiteral_or_fault column rest
        · exact .inl (hcloses.prepend hform)
        · exact .inr ⟨_, later, e, rfl, .form hform hfault⟩

theorem GetsStuck.exists_fault {after : List Char} (h : GetsStuck c after) (column : Nat) :
    ∃ front later e, after = front ++ later ∧ Fault column c front later e := by
  obtain hc | ⟨rfl, hopen⟩ := h
  · exact ⟨[], after, _, rfl, .unexpected c after hc⟩
  · obtain hcloses | ⟨front, later, e, rfl, hfault⟩ := closesLiteral_or_fault column after
    · exact absurd hcloses hopen
    · exact ⟨front, later, e, rfl, .literal hopen hfault⟩

theorem Fault.getsStuck (h : Fault column c front later e) : GetsStuck c (front ++ later) := by
  cases h with
  | unexpected _ _ hc => exact .inl hc
  | literal hopen _ => exact .inr ⟨rfl, hopen⟩

/-- The text is a layout, or it has a character before which it is one and at which reading gets
stuck. -/
def IsSettled (s : List Char) : Prop :=
  (∃ tokens, IsLayout tokens s) ∨
    ∃ before c after, s = before ++ c :: after ∧ (∃ tokens, IsLayout tokens before) ∧
      GetsStuck c after

theorem IsSettled.cons_blank (h : IsSettled rest) (hblank : Text.isBlank c) :
    IsSettled (c :: rest) := by
  obtain ⟨tokens, hrest⟩ | ⟨before, d, after, rfl, ⟨tokens, hbefore⟩, hstuck⟩ := h
  · exact .inl ⟨tokens, hrest.cons_blank hblank⟩
  · exact .inr ⟨c :: before, d, after, rfl, ⟨tokens, hbefore.cons_blank hblank⟩, hstuck⟩

theorem IsSettled.cons_spelling {token : Token} {s : List Char} (h : IsSettled rest)
    (hspelling : token.SpelledBy s) (hended : token.isWord → ∀ c ∈ rest.head?, ¬ isWordChar c) :
    IsSettled (s ++ rest) := by
  obtain ⟨tokens, hrest⟩ | ⟨before, c, after, rfl, ⟨tokens, hbefore⟩, hstuck⟩ := h
  · exact .inl ⟨token :: tokens, hrest.cons_spelling hspelling hended⟩
  · have hendedBefore : token.isWord → ∀ d ∈ before.head?, ¬ isWordChar d := by
      intro hword d hd
      refine hended hword d ?_
      rw [List.head?_append, Option.mem_def.mp hd]
      rfl
    exact .inr ⟨s ++ before, c, after, by simp,
      ⟨token :: tokens, hbefore.cons_spelling hspelling hendedBefore⟩, hstuck⟩

/-- A text begins with a blank or with a whole token, or reading gets stuck at once. -/
theorem isBlank_or_getsStuck_or_spelledBy (c : Char) (rest : List Char) :
    Text.isBlank c ∨ GetsStuck c rest ∨ ∃ (token : Token) (s later : List Char),
      c :: rest = s ++ later ∧ token.SpelledBy s ∧
        (token.isWord → ∀ d ∈ later.head?, ¬ isWordChar d) := by
  by_cases hblank : Text.isBlank c
  · exact .inl hblank
  right
  by_cases hword : isWordChar c
  · refine .inr ⟨word (.ofList (c :: rest.takeWhile isWordChar)), c :: rest.takeWhile isWordChar,
      rest.dropWhile isWordChar, ?_, ⟨String.toList_ofList.symm, List.cons_ne_nil _ _, ?_⟩, ?_⟩
    · rw [List.cons_append, List.takeWhile_append_dropWhile]
    · exact List.forall_mem_cons.mpr ⟨hword, List.all_eq_true.mp List.all_takeWhile⟩
    · intro _ d hd
      have hfirst := List.head?_dropWhile_not isWordChar rest
      rw [Option.mem_def.mp hd] at hfirst
      simpa using hfirst
  by_cases hsign : c ∈ ['(', ')', ',', '=']
  · simp only [List.mem_cons, List.not_mem_nil, or_false] at hsign
    obtain rfl | rfl | rfl | rfl := hsign
    · exact .inr ⟨leftParen, ['('], rest, rfl, rfl, nofun⟩
    · exact .inr ⟨rightParen, [')'], rest, rfl, rfl, nofun⟩
    · exact .inr ⟨comma, [','], rest, rfl, rfl, nofun⟩
    · exact .inr ⟨assign, ['='], rest, rfl, rfl, nofun⟩
  by_cases hquote : c = '"'
  · subst hquote
    by_cases hcloses : ClosesLiteral rest
    · obtain ⟨value, s, later, hspelling, heq⟩ := hcloses
      exact .inr ⟨text value, s, later, heq, hspelling, nofun⟩
    · exact .inl (.inr ⟨rfl, hcloses⟩)
  · refine .inl (.inl ⟨hblank, hword, ?_⟩)
    simp only [List.mem_cons, List.not_mem_nil, or_false] at hsign ⊢
    tauto

/-- One token, or one blank, is taken off the text at a time. -/
theorem isSettled (s : List Char) : IsSettled s := by
  match s with
  | [] => exact .inl ⟨[], .nil⟩
  | c :: rest =>
      obtain hblank | hstuck | ⟨token, spelling, later, heq, hspelling, hended⟩ :=
        isBlank_or_getsStuck_or_spelledBy c rest
      · exact (isSettled rest).cons_blank hblank
      · exact .inr ⟨[], c, rest, rfl, ⟨[], .nil⟩, hstuck⟩
      · have hshorter : later.length < (c :: rest).length := by
          obtain ⟨d, hd, -⟩ := hspelling.head?
          have hpos : 0 < spelling.length := List.length_pos_of_mem (List.mem_of_mem_head? hd)
          rw [heq, List.length_append]
          omega
        rw [heq]
        exact (isSettled later).cons_spelling hspelling hended
termination_by s.length
decreasing_by
  · exact Nat.lt_succ_self _
  · exact hshorter

/-! ### There is one such place -/

/-- Where reading gets stuck, no longer text is read. -/
theorem GetsStuck.not_isLayout {tokens spelled : List Token} {before more after : List Char}
    (hstuck : GetsStuck c after) (hbefore : IsLayout tokens before) (hmore : more <+: after) :
    ¬ IsLayout spelled (before ++ c :: more) := by
  intro hlayout
  have hended : ¬ RunsOn before (c :: more) := by
    rintro ⟨-, d, hd, hword⟩
    cases hd
    exact hstuck.not_isWordChar hword
  obtain ⟨later, hlater, -⟩ := (isLayout_append_iff hbefore hended).mp hlayout
  have hscan : scan .gap 0 (c :: more) = .ok later := (scan_gap_eq_ok_iff 0).mpr hlater
  obtain hc | ⟨rfl, hopen⟩ := hstuck
  · rw [hc.scan_eq] at hscan
    cases hscan
  · rw [scan_cons_of_step rfl] at hscan
    obtain ⟨forms, value, others, last, hforms, rfl, -, -⟩ := reads_of_scan hscan
    have hcloses : ClosesLiteral (forms.flatten ++ '"' :: others) :=
      ⟨.ofList value, _, others, ⟨forms, by rwa [String.toList_ofList], rfl⟩, by simp⟩
    obtain ⟨rest, rfl⟩ := hmore
    exact hopen (hcloses.append rest)

/-- Of two places where reading gets stuck, neither comes after the other. -/
theorem GetsStuck.eq_of_append_eq {tokens tokens' : List Token}
    {before before' after after' : List Char} {c' : Char} (hstuck : GetsStuck c after)
    (hstuck' : GetsStuck c' after') (hbefore : IsLayout tokens before)
    (hbefore' : IsLayout tokens' before') (h : before ++ c :: after = before' ++ c' :: after') :
    before = before' ∧ c = c' ∧ after = after' := by
  obtain ⟨more, hmore, hrest⟩ | ⟨more, hmore, hrest⟩ := List.append_eq_append_iff.mp h
  · cases more with
    | nil =>
        rw [List.append_nil] at hmore
        cases hrest
        exact ⟨hmore.symm, rfl, rfl⟩
    | cons d more =>
        cases hrest
        subst hmore
        exact absurd hbefore' (hstuck.not_isLayout hbefore (List.prefix_append _ _))
  · cases more with
    | nil =>
        rw [List.append_nil] at hmore
        cases hrest
        exact ⟨hmore, rfl, rfl⟩
    | cons d more =>
        cases hrest
        subst hmore
        exact absurd hbefore (hstuck'.not_isLayout hbefore' (List.prefix_append _ _))

namespace Place

variable {place : Place} {source : String}

theorem toList_text (place : Place) :
    place.text.toList = place.before.toList ++ place.char :: place.after.toList := by
  simp [text]

theorem FailsWith.tokenize_eq (h : place.FailsWith e) : tokenize place.text = .error e := by
  obtain ⟨⟨tokens, hbefore⟩, front, later, hafter, hfault⟩ := h
  rw [text, ← String.ofList_toList (s := place.after), hafter]
  exact tokenize_eq_error hbefore hfault (.inl rfl)

theorem exists_failsWith (h : tokenize source = .error e) :
    ∃ place : Place, place.text = source ∧ place.FailsWith e := by
  obtain ⟨tokens, hlayout⟩ | ⟨before, c, after, hsource, ⟨tokens, hbefore⟩, hstuck⟩ :=
    isSettled source.toList
  · rw [tokenize_eq_ok_iff.mpr hlayout] at h
    cases h
  · let place : Place := ⟨.ofList before, c, .ofList after⟩
    obtain ⟨front, later, found, hafter, hfault⟩ :=
      hstuck.exists_fault (1 + place.before.utf8ByteSize)
    have hread : tokenize place.before = .ok tokens :=
      tokenize_eq_ok_iff.mpr (by rwa [String.toList_ofList])
    have hfails : place.FailsWith found :=
      ⟨⟨tokens, hread⟩, front, later, by rw [String.toList_ofList, hafter], hfault⟩
    have htext : place.text = source := by
      rw [← String.toList_inj, place.toList_text, hsource, String.toList_ofList,
        String.toList_ofList]
    have herror := hfails.tokenize_eq
    rw [htext, h] at herror
    cases herror
    exact ⟨place, htext, hfails⟩

theorem FailsWith.eq_of_text_eq {other : Place} {e' : LexError} (h : place.FailsWith e)
    (hother : other.FailsWith e') (htext : place.text = other.text) : place = other := by
  obtain ⟨⟨tokens, hbefore⟩, front, later, hafter, hfault⟩ := h
  obtain ⟨⟨tokens', hbefore'⟩, front', later', hafter', hfault'⟩ := hother
  have hstuck : GetsStuck place.char place.after.toList := hafter ▸ hfault.getsStuck
  have hstuck' : GetsStuck other.char other.after.toList := hafter' ▸ hfault'.getsStuck
  have hparts := hstuck.eq_of_append_eq hstuck' (tokenize_eq_ok_iff.mp hbefore)
    (tokenize_eq_ok_iff.mp hbefore') (by rw [← toList_text, htext, toList_text])
  cases place
  cases other
  simpa [String.toList_inj] using hparts

end Place

/-- **A text without tokens fails at exactly one place.** Before it the text is read, and the error
is that of the first fault there. Unless the text ends inside a literal, it is the same error
whatever follows the offending character. -/
theorem tokenize_fails_at_one_place :
    (∀ source e, tokenize source = .error e ↔
      ∃! place : Place, place.text = source ∧ place.FailsWith e) ∧
    (∀ (before : String) (c : Char) (front later : List Char) (e : LexError),
      (∃ tokens, tokenize before = .ok tokens) →
      Fault (1 + before.utf8ByteSize) c front later e → (∀ column, e ≠ .unterminated column) →
      ∀ other, tokenize (before.push c ++ .ofList (front ++ other)) = .error e) := by
  refine ⟨fun source e => ⟨fun h => ?_, ?_⟩, ?_⟩
  · obtain ⟨place, htext, hfails⟩ := Place.exists_failsWith h
    refine ⟨place, ⟨htext, hfails⟩, fun other hother => ?_⟩
    exact hother.2.eq_of_text_eq hfails (hother.1.trans htext.symm)
  · rintro ⟨place, ⟨rfl, hfails⟩, -⟩
    exact hfails.tokenize_eq
  · rintro before c front later e ⟨tokens, hbefore⟩ hfault he other
    exact tokenize_eq_error hbefore hfault (.inr he)

/-- The blank in front has two bytes, and the sign before the place is part of a literal. -/
theorem tokenize_fails_at_one_place_no_break :
    let source := "\u00a01=\"\u00e9\\\"\\q\""
    let before := "\u00a01 \"\\\"+\" "
    let e : LexError := .unexpected '+' 11
    tokenize source = .error (.unknownEscape 'q') ∧
      (∃! place : Place, place.text = source ∧ place.FailsWith (.unknownEscape 'q')) ∧
      (∃ tokens, tokenize before = .ok tokens) ∧
      Fault (1 + before.utf8ByteSize) '+' [] "1".toList e ∧ (∀ column, e ≠ .unterminated column) ∧
      tokenize (before.push '+' ++ .ofList ([] ++ "\"\\q".toList)) = .error e := by
  intro source before e
  obtain ⟨hplaces, hlocal⟩ := tokenize_fails_at_one_place
  have hsource : tokenize source = .error (.unknownEscape 'q') := by decide +kernel
  have hread : tokenize before = .ok [.word "1", .text "\"+"] := by decide +kernel
  have hsize : 1 + before.utf8ByteSize = 11 := by decide
  have hfault : Fault (1 + before.utf8ByteSize) '+' [] "1".toList e := by
    rw [hsize]
    exact .unexpected '+' _ (by decide +kernel)
  have he : ∀ column, e ≠ .unterminated column := nofun
  exact ⟨hsource, (hplaces _ _).mp hsource, ⟨_, hread⟩, hfault, he,
    hlocal before '+' [] _ e ⟨_, hread⟩ hfault he _⟩

end StringScript.Token
