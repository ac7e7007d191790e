import StringScript.Proofs.Grammar.Layout

/-!
# Texts as tokens

The reader of tokens accepts exactly the layouts of tokens. Each of its modes says what is still to
come of the token that is open, and a step leaves what was to come before it. So where blanks stand
outside literals does not matter, as long as they part the same words.
-/

namespace StringScript.Token

variable {offset : Nat} {mode next : Mode} {c : Char} {rest : List Char}

/-! ### Only layouts are read -/

theorem IsLayout.nil : IsLayout [] [] := ⟨[], [], rfl, by simp, .nil⟩

theorem IsLayout.cons_blank {tokens : List Token} (h : IsLayout tokens rest)
    (hblank : Text.isBlank c) : IsLayout tokens (c :: rest) := by
  obtain ⟨gap, others, rfl, hgap, hothers⟩ := h
  exact ⟨c :: gap, others, rfl, List.forall_mem_cons.mpr ⟨hblank, hgap⟩, hothers⟩

theorem IsLayout.cons_spelling {token : Token} {tokens : List Token} {s : List Char}
    (h : IsLayout tokens rest) (hspelling : token.SpelledBy s)
    (hended : token.isWord → ∀ c ∈ rest.head?, ¬ isWordChar c) :
    IsLayout (token :: tokens) (s ++ rest) := by
  obtain ⟨gap, others, rfl, hgap, hothers⟩ := h
  refine ⟨[], s ++ gap ++ others, by simp, by simp, .cons hspelling hgap ?_ hothers⟩
  rintro hword ⟨next, hnext, hnextWord⟩ rfl
  cases hothers with
  | nil => cases hnext
  | @cons token spelling gap tokens rest hspelling hgap hparted hrest =>
      cases hnext
      obtain ⟨c, hc, hsame⟩ := hspelling.head?
      refine hended hword c ?_ (hsame ▸ hnextWord)
      rw [List.nil_append, List.append_assoc, List.head?_append, Option.mem_def.mp hc]
      rfl

/-- The rest of a literal whose characters so far are `content`, last first, then a layout. -/
def ReadsLiteral (content : List Char) (tokens : List Token) (s : List Char) : Prop :=
  ∃ forms value rest later, List.Forall₂ (· ∈ literalForms ·) forms value ∧
    s = forms.flatten ++ '"' :: rest ∧ IsLayout later rest ∧
    tokens = text (.ofList (content.reverse ++ value)) :: later

/-- The rest of the token that is open, and a layout after it. -/
def Mode.Reads : Mode → List Token → List Char → Prop
  | .gap, tokens, s => IsLayout tokens s
  | .word letters, tokens, s =>
    ∃ more rest later, (∀ c ∈ more, isWordChar c) ∧ (∀ c ∈ rest.head?, ¬ isWordChar c) ∧
      s = more ++ rest ∧ IsLayout later rest ∧
      tokens = Token.word (.ofList (letters.reverse ++ more)) :: later
  | .literal _ content, tokens, s => ReadsLiteral content tokens s
  | .escape _ content, tokens, s =>
    ∃ letter meant rest, escaped? letter = some meant ∧ s = letter :: rest ∧
      ReadsLiteral (meant :: content) tokens rest

theorem ReadsLiteral.prepend {content form : List Char} {tokens : List Token}
    (h : ReadsLiteral (c :: content) tokens rest) (hform : form ∈ literalForms c) :
    ReadsLiteral content tokens (form ++ rest) := by
  obtain ⟨forms, value, others, later, hforms, rfl, hlater, rfl⟩ := h
  exact ⟨form :: forms, c :: value, others, later, .cons hform hforms, by simp, hlater, by simp⟩

theorem reads_of_opened {completed later : List Token}
    (h : opened offset c = .ok (completed, next)) (hnext : next.Reads later rest) :
    IsLayout (completed ++ later) (c :: rest) := by
  have hsign : ∀ sign : Token, sign.isWord = false → sign.SpelledBy [c] →
      IsLayout later rest → IsLayout ([sign] ++ later) (c :: rest) := by
    intro sign hsign hspelling hlater
    exact hlater.cons_spelling hspelling (by simp [hsign])
  unfold opened at h
  split_ifs at h with hblank hword hleft hright hcomma hassign hquote
  · cases h
    exact hnext.cons_blank hblank
  · cases h
    obtain ⟨more, others, later, hmore, hended, rfl, hlater, rfl⟩ := hnext
    have hspelling : (word (.ofList (c :: more))).SpelledBy (c :: more) :=
      ⟨String.toList_ofList.symm, List.cons_ne_nil _ _, List.forall_mem_cons.mpr ⟨hword, hmore⟩⟩
    exact hlater.cons_spelling hspelling fun _ => hended
  · cases h
    exact hsign leftParen rfl (hleft ▸ rfl) hnext
  · cases h
    exact hsign rightParen rfl (hright ▸ rfl) hnext
  · cases h
    exact hsign comma rfl (hcomma ▸ rfl) hnext
  · cases h
    exact hsign assign rfl (hassign ▸ rfl) hnext
  · cases h
    obtain ⟨forms, value, others, later, hforms, rfl, hlater, rfl⟩ := hnext
    have hspelling : (text (.ofList value)).SpelledBy (c :: (forms.flatten ++ ['"'])) :=
      ⟨forms, by rwa [String.toList_ofList], by rw [hquote]⟩
    have hlayout := hlater.cons_spelling hspelling nofun
    simpa using hlayout

/-- What a step leaves to be read, with the character and the tokens of the step, is what there was
to be read before it. -/
theorem reads_of_step {completed later : List Token}
    (h : step offset c mode = .ok (completed, next)) (hnext : next.Reads later rest) :
    mode.Reads (completed ++ later) (c :: rest) := by
  cases mode with
  | gap => exact reads_of_opened h hnext
  | word letters =>
      rw [step] at h
      split_ifs at h with hc
      · cases h
        obtain ⟨more, others, later, hmore, hended, rfl, hlater, rfl⟩ := hnext
        exact ⟨c :: more, others, later, List.forall_mem_cons.mpr ⟨hc, hmore⟩, hended, rfl, hlater,
          by simp⟩
      · cases hopened : opened offset c with
        | error e => simp [hopened, Except.map] at h
        | ok found =>
            rw [hopened] at h
            cases h
            have hlayout := reads_of_opened hopened hnext
            refine ⟨[], c :: rest, found.1 ++ later, by simp, ?_, rfl, hlayout, by simp⟩
            rintro _ ⟨⟩
            exact hc
  | literal column content =>
      rw [step] at h
      split_ifs at h with hquote hslash hnul
      · cases h
        exact ⟨[], [], rest, later, .nil, by rw [hquote]; rfl, hnext, by simp⟩
      · cases h
        obtain ⟨letter, meant, others, hmeant, rfl, hliteral⟩ := hnext
        rw [hslash]
        exact hliteral.prepend (mem_literalForms_iff.mpr (.inr ⟨letter, hmeant, rfl⟩))
      · cases h
        have hform : [c] ∈ literalForms c :=
          mem_literalForms_iff.mpr (.inl ⟨rfl, hquote, hslash, hnul⟩)
        exact ReadsLiteral.prepend hnext hform
  | escape column content =>
      rw [step] at h
      split at h
      · next meant hmeant =>
          cases h
          exact ⟨c, meant, rest, hmeant, rfl, hnext⟩
      · cases h

theorem reads_of_scan {tokens : List Token} {s : List Char} (h : scan mode offset s = .ok tokens) :
    mode.Reads tokens s := by
  induction s generalizing mode offset tokens with
  | nil =>
      cases mode with
      | gap =>
          cases h
          exact .nil
      | word letters =>
          cases h
          exact ⟨[], [], [], by simp, by simp, rfl, .nil, by simp⟩
      | literal column content => cases h
      | escape column content => cases h
  | cons c rest ih =>
      obtain ⟨completed, next, later, hstep, hscan, rfl⟩ := scan_cons_eq_ok_iff.mp h
      exact reads_of_step hstep (ih hscan)

theorem scan_gap_eq_ok_iff (offset : Nat) {tokens : List Token} {s : List Char} :
    scan .gap offset s = .ok tokens ↔ IsLayout tokens s := by
  constructor
  · intro h
    exact reads_of_scan h
  · intro h
    have hended : ¬ RunsOn s [] := by
      rintro ⟨-, c, hc, -⟩
      cases hc
    have hscan : scan .gap offset (s ++ []) = .ok (tokens ++ []) := scan_layout h hended
    rwa [List.append_nil, List.append_nil] at hscan

/-! ### Blanks and separators -/

theorem isLayout_blanks_append_iff {tokens : List Token} {gap s : List Char}
    (hgap : ∀ c ∈ gap, Text.isBlank c) : IsLayout tokens (gap ++ s) ↔ IsLayout tokens s := by
  rw [← scan_gap_eq_ok_iff 0, scan_blanks hgap, scan_gap_eq_ok_iff]

theorem isLayout_append_iff {before tokens : List Token} {s : List Char}
    (hbefore : IsLayout before s) (hrest : ¬ RunsOn s rest) :
    IsLayout tokens (s ++ rest) ↔ ∃ later, IsLayout later rest ∧ before ++ later = tokens := by
  rw [← scan_gap_eq_ok_iff 0, scan_layout hbefore hrest]
  simp only [← scan_gap_eq_ok_iff (0 + Text.byteCount s)]
  cases scan .gap (0 + Text.byteCount s) rest <;> simp [Except.map]

/-- Blanks after a text that can be read change nothing for what follows it, unless they part a
word. -/
theorem isLayout_append_blanks_iff {before tokens : List Token} {s gap : List Char}
    (hbefore : IsLayout before s) (hgap : ∀ c ∈ gap, Text.isBlank c) (hrest : ¬ RunsOn s rest) :
    IsLayout tokens (s ++ gap ++ rest) ↔ IsLayout tokens (s ++ rest) := by
  have hgapped : ¬ RunsOn s (gap ++ rest) := by
    cases gap with
    | nil => exact hrest
    | cons blank gap =>
        rintro ⟨-, c, hc, hword⟩
        cases hc
        exact not_isWordChar_of_isBlank (hgap blank List.mem_cons_self) hword
  rw [List.append_assoc, isLayout_append_iff hbefore hgapped, isLayout_append_iff hbefore hrest]
  simp only [isLayout_blanks_append_iff hgap]

theorem exists_spelledBy_text {value : String} (h : '\x00' ∉ value.toList) :
    ∃ s, (text value).SpelledBy s := by
  have hform : ∀ c ∈ value.toList, (literalForms c).headD [] ∈ literalForms c := by
    intro c hc
    have hnul : c ≠ '\x00' := fun heq => h (heq ▸ hc)
    unfold literalForms
    rw [if_neg hnul]
    split_ifs <;> exact List.mem_cons_self
  refine ⟨_, value.toList.map fun c => (literalForms c).headD [], ?_, rfl⟩
  rw [List.forall₂_map_left_iff, List.forall₂_same]
  exact hform

theorem SpelledBy.separator_notMem {value : String} {s : List Char}
    (h : (text value).SpelledBy s) : '\x00' ∉ value.toList := by
  obtain ⟨forms, hforms, -⟩ := h
  generalize value.toList = chars at hforms
  induction hforms with
  | nil => simp
  | cons hform _ ih =>
      refine List.not_mem_cons_of_ne_of_not_mem ?_ ih
      rintro rfl
      cases hform

theorem LaidOut.exists_spelledBy {tokens : List Token} {s : List Char} (h : LaidOut tokens s)
    {token : Token} (htoken : token ∈ tokens) : ∃ spelling, token.SpelledBy spelling := by
  induction h with
  | nil => cases htoken
  | cons hspelling _ _ _ ih =>
      obtain rfl | hlater := List.mem_cons.mp htoken
      · exact ⟨_, hspelling⟩
      · exact ih hlater

theorem tokenize_eq_ok_iff {source : String} {tokens : List Token} :
    tokenize source = .ok tokens ↔ IsLayout tokens source.toList :=
  scan_gap_eq_ok_iff 0

theorem exists_spelledBy_of_tokenize {source : String} {tokens : List Token}
    (h : tokenize source = .ok tokens) {token : Token} (htoken : token ∈ tokens) :
    ∃ spelling, token.SpelledBy spelling := by
  obtain ⟨gap, rest, -, -, hlaidOut⟩ := tokenize_eq_ok_iff.mp h
  exact hlaidOut.exists_spelledBy htoken

/-- **The reader of tokens accepts exactly the layouts.** So every text without separators can be
written as a literal and no other, and blanks at a place outside literals change nothing, unless
they part a word. -/
theorem tokenize_accepts_exactly_layouts :
    (∀ source tokens, tokenize source = .ok tokens ↔ IsLayout tokens source.toList) ∧
    (∀ value : String, '\x00' ∉ value.toList → ∃ source, tokenize source = .ok [.text value]) ∧
    (∀ source tokens value, tokenize source = .ok tokens → .text value ∈ tokens →
      '\x00' ∉ value.toList) ∧
    (∀ before gap after : String, (∃ tokens, tokenize before = .ok tokens) →
      (∀ c ∈ gap.toList, Text.isBlank c) → ¬ RunsOn before.toList after.toList →
      ∀ tokens, tokenize (before ++ gap ++ after) = .ok tokens ↔
        tokenize (before ++ after) = .ok tokens) := by
  refine ⟨fun _ _ => tokenize_eq_ok_iff, ?_, ?_, ?_⟩
  · intro value hvalue
    obtain ⟨s, hs⟩ := exists_spelledBy_text hvalue
    refine ⟨.ofList s, tokenize_eq_ok_iff.mpr ?_⟩
    rw [String.toList_ofList, ← List.append_nil s]
    exact IsLayout.nil.cons_spelling hs nofun
  · intro source tokens value hsource hmem
    obtain ⟨_, hspelling⟩ := exists_spelledBy_of_tokenize hsource hmem
    exact hspelling.separator_notMem
  · rintro before gap after ⟨spelled, hbefore⟩ hgap hrest tokens
    rw [tokenize_eq_ok_iff] at hbefore
    rw [tokenize_eq_ok_iff, tokenize_eq_ok_iff, String.toList_append, String.toList_append,
      String.toList_append]
    exact isLayout_append_blanks_iff hbefore hgap hrest

/-- The blank is no ASCII character, and right before it and after it stand signs and words. -/
theorem tokenize_accepts_exactly_layouts_no_break :
    let before := "print f("
    let gap := "\u00a0"
    let after := "1\t_,\"a\\\"\t\")"
    let tokens : List Token := [.word "print", .word "f", .leftParen, .word "1", .word "_", .comma,
      .text "a\"\t", .rightParen]
    tokenize before = .ok [.word "print", .word "f", .leftParen] ∧
      tokenize (before ++ gap ++ after) = .ok tokens ∧ .text "a\"\t" ∈ tokens ∧
      IsLayout tokens (before ++ gap ++ after).toList ∧ '\x00' ∉ "a\"\t".toList ∧
      (∃ source, tokenize source = .ok [.text "a\"\t"]) ∧
      tokenize (before ++ after) = .ok tokens := by
  intro before gap after tokens
  obtain ⟨hlayouts, hliterals, hvalues, hblanks⟩ := tokenize_accepts_exactly_layouts
  have hbefore : tokenize before = .ok [.word "print", .word "f", .leftParen] := by decide +kernel
  have hsource : tokenize (before ++ gap ++ after) = .ok tokens := by decide +kernel
  have hmem : .text "a\"\t" ∈ tokens := by decide
  have hfree : '\x00' ∉ "a\"\t".toList := hvalues _ _ _ hsource hmem
  have hgap : ∀ c ∈ gap.toList, Text.isBlank c := List.all_eq_true.mp (by decide +kernel)
  have hrest : ¬ RunsOn before.toList after.toList := by
    have hlast : before.toList.getLast? = some '(' := by decide +kernel
    rintro ⟨⟨c, hc, hword⟩, -⟩
    rw [hlast] at hc
    cases hc
    exact absurd hword (by decide)
  exact ⟨hbefore, hsource, hmem, (hlayouts _ _).mp hsource, hfree, hliterals _ hfree,
    (hblanks _ gap _ ⟨_, hbefore⟩ hgap hrest tokens).mp hsource⟩

end StringScript.Token
