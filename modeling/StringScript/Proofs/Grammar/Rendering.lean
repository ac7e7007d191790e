import StringScript.Proofs.Grammar.Literals
import StringScript.Proofs.Grammar.Reader
import StringScript.Proofs.Grammar.Tokens

/-!
# Printed expressions

An expression that is printed is a layout of its tokens, and so is read again, as long as each
character of its literals has a printed form that literals know. A character with another form is
printed as an escape that the reader of tokens refuses. What stands before the first such character
is read without fault, so that escape is reached, as an escape.
-/

namespace StringScript

/-! ### Characters in quotes -/

/-- Whether the printed form of a character is the character itself or an escape that literals
know. -/
def Text.isReadable (c : Char) : Bool :=
  quotedChar c ∈ [[c], ['\\', '"'], ['\\', '\\'], ['\\', 'n'], ['\\', 't']]

/-- The letters after the backslash in the printed forms that literals do not know. -/
def Text.strangeLetters : List Char := ['0', 'r', 'u']

theorem Text.quotedChar_cases (c : Char) :
    (isReadable c ∧ quotedChar c ∈ Token.literalForms c) ∨
      (¬ isReadable c ∧
        ∃ letter ∈ strangeLetters, ∃ more, quotedChar c = '\\' :: letter :: more) := by
  have hitself : c ≠ '\x00' → ¬ (c = '"' || c = '\\') → [c] ∈ Token.literalForms c := by
    intro hnul hself
    simp only [Bool.or_eq_true, decide_eq_true_eq, not_or] at hself
    exact Token.mem_literalForms_iff.mpr (.inl ⟨rfl, hself.1, hself.2, hnul⟩)
  unfold isReadable quotedChar
  split_ifs with hnul htab hreturn hnewline hself hplain hhidden
  · subst hnul
    exact .inr ⟨by decide, '0', by decide, [], rfl⟩
  · subst htab
    exact .inl (by decide)
  · subst hreturn
    exact .inr ⟨by decide, 'r', by decide, [], rfl⟩
  · subst hnewline
    exact .inl (by decide)
  · rw [Bool.or_eq_true, decide_eq_true_eq, decide_eq_true_eq] at hself
    obtain rfl | rfl := hself
    · exact .inl (by decide)
    · exact .inl (by decide)
  · exact .inl ⟨by simp, hitself hnul hself⟩
  · exact .inr ⟨by simp [codePointForm], 'u', by decide, _, rfl⟩
  · exact .inl ⟨by simp, hitself hnul hself⟩

theorem Text.escaped?_of_mem_strangeLetters {letter : Char} (h : letter ∈ strangeLetters) :
    Token.escaped? letter = none := by
  simp only [strangeLetters, List.mem_cons, List.not_mem_nil, or_false] at h
  obtain rfl | rfl | rfl := h <;> rfl

theorem Text.toList_quote (value : String) :
    (quote value).toList = '"' :: (value.toList.flatMap quotedChar ++ ['"']) := by
  simp [quote]

/-! ### Names -/

def Token.isWordText (name : String) : Bool := name.toList ≠ [] && name.toList.all isWordChar

mutual

/-- Whether all names of variables and functions are words. -/
def Expr.isNamedByWords : Expr → Bool
  | .text _ => true
  | .var name => Token.isWordText name
  | .call function args => Token.isWordText function && Expr.areNamedByWords args

def Expr.areNamedByWords : List Expr → Bool
  | [] => true
  | arg :: args => arg.isNamedByWords && Expr.areNamedByWords args

end

theorem Token.spelledBy_word {name : String} (h : isWordText name) :
    (word name).SpelledBy name.toList := by
  simpa [SpelledBy, isWordText] using h

theorem Token.isWordText_of_spelledBy {name : String} (h : ∃ s, (word name).SpelledBy s) :
    isWordText name := by
  obtain ⟨s, rfl, hword⟩ := h
  simpa [isWordText] using hword

theorem Token.spelledBy_quote {value : String} (h : ∀ c ∈ value.toList, Text.isReadable c) :
    (text value).SpelledBy (Text.quote value).toList := by
  refine ⟨value.toList.map Text.quotedChar, ?_, by rw [Text.toList_quote, List.flatMap_def]⟩
  rw [List.forall₂_map_left_iff, List.forall₂_same]
  intro c hc
  obtain ⟨-, hform⟩ | ⟨hunreadable, -⟩ := Text.quotedChar_cases c
  · exact hform
  · exact absurd (h c hc) hunreadable

/-! ### Readable expressions -/

/-- Whether all characters of all literals are readable. -/
def Expr.isReadable (e : Expr) : Bool :=
  e.literals.all fun value => value.toList.all Text.isReadable

def Expr.areReadable (args : List Expr) : Bool :=
  (Expr.argLiterals args).all fun value => value.toList.all Text.isReadable

theorem Expr.areReadable_cons_iff {arg : Expr} {args : List Expr} :
    areReadable (arg :: args) ↔ arg.isReadable ∧ areReadable args := by
  rw [areReadable, argLiterals, List.all_append, Bool.and_eq_true]
  rfl

theorem Expr.isReadable_call {function : String} {args : List Expr} :
    (call function args).isReadable = areReadable args := by
  rw [isReadable, literals, areReadable]

theorem Expr.renderArgs_cons_cons (arg next : Expr) (args : List Expr) :
    renderArgs (arg :: next :: args) = arg.render ++ ", " ++ renderArgs (next :: args) := by
  rw [renderArgs]
  exact List.cons_ne_nil next args

namespace Token

theorem LaidOut.cons_comma {tokens : List Token} {rest : List Char} (h : LaidOut tokens rest) :
    LaidOut (comma :: tokens) (',' :: ' ' :: rest) := by
  have hcomma : comma.SpelledBy [','] := rfl
  have hblank : ∀ c ∈ [' '], Text.isBlank c := List.forall_mem_singleton.mpr (by decide)
  exact .cons hcomma hblank nofun h

theorem LaidOut.cons_call {function : String} {tokens : List Token} {rest : List Char}
    (h : LaidOut tokens rest) (hname : isWordText function) :
    LaidOut (word function :: leftParen :: tokens) (function.toList ++ '(' :: rest) := by
  have hleft : leftParen.SpelledBy ['('] := rfl
  exact (h.cons_joined hleft nofun).cons_joined (spelledBy_word hname) (by simp [isWord])

end Token

open Token in
mutual

/-- A printed expression, before tokens that do not start with a word, spells its own tokens. -/
theorem Expr.laidOut_render {tokens : List Token} {rest : List Char} (hrest : LaidOut tokens rest)
    (hsign : ¬ ∃ next ∈ tokens.head?, next.isWord) :
    ∀ e : Expr, e.isNamedByWords → e.isReadable →
      LaidOut (e.tokens ++ tokens) (e.render.toList ++ rest)
  | .text value, _, hreadable => by
    have hvalue : ∀ c ∈ value.toList, Text.isReadable c := by
      simpa [isReadable, literals] using hreadable
    rw [Expr.tokens, render]
    exact hrest.cons_joined (spelledBy_quote hvalue) nofun
  | .var name, hname, _ => by
    rw [isNamedByWords] at hname
    rw [Expr.tokens, render]
    exact hrest.cons_joined (spelledBy_word hname) fun _ => hsign
  | .call function args, hnames, hreadable => by
    rw [isNamedByWords, Bool.and_eq_true] at hnames
    have hright : Token.rightParen.SpelledBy [')'] := rfl
    have hargs := laidOut_renderArgs (hrest.cons_joined hright nofun) (by simp [isWord]) args
      hnames.2 (isReadable_call ▸ hreadable)
    rw [Expr.tokens, render]
    simpa using hargs.cons_call hnames.1

theorem Expr.laidOut_renderArgs {tokens : List Token} {rest : List Char}
    (hrest : LaidOut tokens rest) (hsign : ¬ ∃ next ∈ tokens.head?, next.isWord) :
    ∀ args : List Expr, areNamedByWords args → areReadable args →
      LaidOut (argTokens args ++ tokens) ((renderArgs args).toList ++ rest)
  | [], _, _ => by
    rw [argTokens, renderArgs]
    exact hrest
  | [arg], hnames, hreadable => by
    rw [areNamedByWords, Bool.and_eq_true] at hnames
    rw [argTokens, renderArgs]
    exact laidOut_render hrest hsign arg hnames.1 (areReadable_cons_iff.mp hreadable).1
  | arg :: next :: args, hnames, hreadable => by
    rw [areNamedByWords, Bool.and_eq_true] at hnames
    obtain ⟨hfirst, hothers⟩ := areReadable_cons_iff.mp hreadable
    have hlater := laidOut_renderArgs hrest hsign (next :: args) hnames.2 hothers
    have harg := laidOut_render hlater.cons_comma (by simp [isWord]) arg hnames.1 hfirst
    rw [argTokens_cons_cons, renderArgs_cons_cons]
    simpa using harg

end

/-! ### Unreadable expressions -/

namespace Token

/-- Whatever follows, and wherever the text stands, the reader of tokens refuses an escape in it. -/
def IsRefused (s : List Char) : Prop :=
  ∃ letter ∈ Text.strangeLetters, ∀ offset rest,
    scan .gap offset (s ++ rest) = .error (.unknownEscape letter)

theorem IsRefused.append {s : List Char} (h : IsRefused s) (more : List Char) :
    IsRefused (s ++ more) := by
  obtain ⟨letter, hletter, hscan⟩ := h
  refine ⟨letter, hletter, fun offset rest => ?_⟩
  rw [List.append_assoc, hscan]

theorem IsRefused.prepend {s before : List Char} {tokens : List Token} (h : IsRefused s)
    (hbefore : LaidOut tokens before) (hlast : ∀ c ∈ before.getLast?, ¬ isWordChar c) :
    IsRefused (before ++ s) := by
  obtain ⟨letter, hletter, hscan⟩ := h
  refine ⟨letter, hletter, fun offset rest => ?_⟩
  have hrest : ¬ RunsOn before (s ++ rest) := by
    rintro ⟨⟨c, hc, hword⟩, -⟩
    exact hlast c hc hword
  rw [List.append_assoc, scan_laidOut hbefore hrest, hscan]
  rfl

/-- The first character that is not readable is reached inside the literal. -/
theorem scan_unreadable {value : List Char} (h : ∃ c ∈ value, ¬ Text.isReadable c) :
    ∃ letter ∈ Text.strangeLetters, ∀ column content offset rest,
      scan (.literal column content) offset (value.flatMap Text.quotedChar ++ rest) =
        .error (.unknownEscape letter) := by
  induction value with
  | nil => simp at h
  | cons c value ih =>
      obtain ⟨hreadable, hform⟩ | ⟨-, letter, hletter, more, hquoted⟩ := Text.quotedChar_cases c
      · rw [List.exists_mem_cons_iff] at h
        obtain ⟨letter, hletter, hscan⟩ := ih (h.resolve_left (absurd hreadable))
        refine ⟨letter, hletter, fun column content offset rest => ?_⟩
        rw [List.flatMap_cons, List.append_assoc, scan_form hform, hscan]
      · refine ⟨letter, hletter, fun column content offset rest => ?_⟩
        rw [List.flatMap_cons, List.append_assoc, hquoted, List.cons_append,
          scan_cons_of_step rfl, List.cons_append, scan, step,
          Text.escaped?_of_mem_strangeLetters hletter]

end Token

open Token in
mutual

theorem Expr.isRefused_render :
    ∀ e : Expr, e.isNamedByWords → ¬ e.isReadable → IsRefused e.render.toList
  | .text value, _, hunreadable => by
    have hvalue : ∃ c ∈ value.toList, ¬ Text.isReadable c := by
      simpa [isReadable, literals] using hunreadable
    obtain ⟨letter, hletter, hscan⟩ := scan_unreadable hvalue
    refine ⟨letter, hletter, fun offset rest => ?_⟩
    rw [render, Text.toList_quote, List.cons_append, scan_cons_of_step rfl, List.append_assoc,
      hscan]
  | .var name, _, hunreadable => by
    simp [isReadable, literals] at hunreadable
  | .call function args, hnames, hunreadable => by
    rw [isNamedByWords, Bool.and_eq_true] at hnames
    rw [isReadable_call] at hunreadable
    have hlast : ∀ c ∈ (function.toList ++ ['(']).getLast?, ¬ isWordChar c := by
      simp [isWordChar]
    have hargs := (isRefused_renderArgs args hnames.2 hunreadable).prepend
      (LaidOut.nil.cons_call hnames.1) hlast
    rw [render]
    simpa using hargs.append [')']

theorem Expr.isRefused_renderArgs :
    ∀ args : List Expr, areNamedByWords args → ¬ areReadable args →
      IsRefused (renderArgs args).toList
  | [], _, hunreadable => by
    simp [areReadable, argLiterals] at hunreadable
  | [arg], hnames, hunreadable => by
    rw [areNamedByWords, Bool.and_eq_true] at hnames
    rw [areReadable_cons_iff] at hunreadable
    have harg : ¬ arg.isReadable := fun h => hunreadable ⟨h, by simp [areReadable, argLiterals]⟩
    rw [renderArgs]
    exact isRefused_render arg hnames.1 harg
  | arg :: next :: args, hnames, hunreadable => by
    rw [areNamedByWords, Bool.and_eq_true] at hnames
    rw [areReadable_cons_iff] at hunreadable
    rw [renderArgs_cons_cons, String.toList_append, String.toList_append]
    by_cases hfirst : arg.isReadable
    · have hothers := isRefused_renderArgs (next :: args) hnames.2 fun h => hunreadable ⟨hfirst, h⟩
      have hfront := laidOut_render LaidOut.nil.cons_comma (by simp [isWord]) arg hnames.1 hfirst
      have hlast : ∀ c ∈ (arg.render.toList ++ [',', ' ']).getLast?, ¬ isWordChar c := by
        simp [isWordChar]
      simpa using hothers.prepend hfront hlast
    · have hrefused := isRefused_render arg hnames.1 hfirst
      exact (hrefused.append _).append _

end

/-! ### Expressions that are read -/

mutual

theorem Expr.isNamedByWords_of_spelled :
    ∀ e : Expr, (∀ token ∈ e.tokens, ∃ s, token.SpelledBy s) → e.isNamedByWords
  | .text _, _ => by rw [isNamedByWords]
  | .var name, h => by
    rw [Expr.tokens, List.forall_mem_singleton] at h
    rw [isNamedByWords]
    exact Token.isWordText_of_spelledBy h
  | .call function args, h => by
    rw [Expr.tokens, List.cons_append, List.forall_mem_cons] at h
    rw [isNamedByWords, Bool.and_eq_true]
    refine ⟨Token.isWordText_of_spelledBy h.1, areNamedByWords_of_spelled args fun token hmem => ?_⟩
    exact h.2 token (by simp [hmem])

theorem Expr.areNamedByWords_of_spelled :
    ∀ args : List Expr, (∀ token ∈ argTokens args, ∃ s, token.SpelledBy s) → areNamedByWords args
  | [], _ => by rw [areNamedByWords]
  | [arg], h => by
    rw [argTokens] at h
    rw [areNamedByWords, areNamedByWords, Bool.and_true]
    exact isNamedByWords_of_spelled arg h
  | arg :: next :: args, h => by
    rw [argTokens_cons_cons, List.forall_mem_append, List.forall_mem_cons] at h
    rw [areNamedByWords, Bool.and_eq_true]
    exact ⟨isNamedByWords_of_spelled arg h.1, areNamedByWords_of_spelled (next :: args) h.2.2⟩

end

theorem Expr.isNamedByWords_of_parse {source : String} {e : Expr}
    (h : Expr.parse source = .ok e) : e.isNamedByWords := by
  have htokenize := Expr.parse_eq_ok_iff.mp h
  exact e.isNamedByWords_of_spelled fun _ => Token.exists_spelledBy_of_tokenize htokenize

/-- **A printed expression is read again exactly if literals know all its escapes.** This holds if
the names in it are words, as they are in an expression that was read. Else an escape is refused,
for a separator, a carriage return or a character that is printed by its code point. -/
theorem Expr.parse_render {e : Expr}
    (hnames : e.isNamedByWords ∨ ∃ source, Expr.parse source = .ok e) :
    (e.isReadable → Expr.parse e.render = .ok e) ∧
      (¬ e.isReadable → ∃ letter ∈ Text.strangeLetters,
        Expr.parse e.render = .error (.lexical (.unknownEscape letter))) := by
  have hwords : e.isNamedByWords := by
    obtain hwords | ⟨source, hsource⟩ := hnames
    · exact hwords
    · exact isNamedByWords_of_parse hsource
  constructor
  · intro hreadable
    have hlaidOut := laidOut_render .nil (by simp) e hwords hreadable
    rw [List.append_nil, List.append_nil] at hlaidOut
    exact parse_eq_ok_iff.mpr
      (Token.tokenize_eq_ok_iff.mpr ⟨[], _, rfl, by simp, hlaidOut⟩)
  · intro hunreadable
    obtain ⟨letter, hletter, hscan⟩ := isRefused_render e hwords hunreadable
    have htokenize : Token.tokenize e.render = .error (.unknownEscape letter) := by
      have hall := hscan 0 []
      rwa [List.append_nil] at hall
    refine ⟨letter, hletter, ?_⟩
    rw [Expr.parse, htokenize]

/-- In both, an escape that literals know comes first. The carriage return was read as itself. -/
theorem Expr.parse_render_carriage_return :
    let readable : Expr := .call "f" [.text "a\n\"", .call "g" [], .var "_1"]
    let read : Expr := .call "f" [.text "\t", .text "\\\r", .var "2"]
    readable.isNamedByWords ∧ readable.isReadable ∧ Expr.parse readable.render = .ok readable ∧
      Expr.parse "f(\"\t\", \"\\\\\r\", 2)" = .ok read ∧ ¬ read.isReadable ∧
      ∃ letter ∈ Text.strangeLetters,
        Expr.parse read.render = .error (.lexical (.unknownEscape letter)) := by
  intro readable read
  have hnames : readable.isNamedByWords := by decide +kernel
  have hreadable : readable.isReadable := by decide +kernel
  have hread : Expr.parse "f(\"\t\", \"\\\\\r\", 2)" = .ok read := by
    rw [parse_eq_ok_iff]
    decide +kernel
  have hunreadable : ¬ read.isReadable := by decide +kernel
  exact ⟨hnames, hreadable, (parse_render (.inl hnames)).1 hreadable, hread, hunreadable,
    (parse_render (.inr ⟨_, hread⟩)).2 hunreadable⟩

end StringScript
