import StringScript.Proofs.ArrayHeader
import StringScript.Proofs.Settings

/-!
# Lines of settings

A line of settings is blank, a comment, a setting that is valid, or refused. The refused lines are
all reported, each once and with its number, and change nothing. Of the valid ones the last counts.
-/

namespace StringScript.Config

/-- The line holds a setting: no comment, but a name and a value around its first equals sign. -/
def HoldsSetting (line : List Char) (name value : String) : Prop :=
  (Text.trim line).head? ≠ some '#' ∧ ∃ before after,
    Text.trim line = before ++ '=' :: after ∧ '=' ∉ before ∧
      name = .ofList (Text.trim before) ∧ value = .ofList (Text.trim after)

/-- A numeral, with or without a plus sign before it, spells a limit of 64 bits. -/
def SpellsLimit (value : String) (limit : Nat) : Prop :=
  ∃ digits, (value.toList = digits ∨ value.toList = '+' :: digits) ∧ Text.isNumeral digits ∧
    Text.numeralValue digits = limit ∧ limit < Text.countBound

def GivesLimit (line : List Char) (limit : Nat) : Prop :=
  ∃ value, HoldsSetting line "max_iterations" value ∧ SpellsLimit value limit

/-- An empty value gives no log filter. -/
def GivesLog (line : List Char) (log : Option String) : Prop :=
  ∃ value, HoldsSetting line "log" value ∧ (if value = "" then none else some value) = log

/-- The line is refused for the fault. -/
inductive IsRefused (line : List Char) : SettingFault → Prop
  | noSetting (hblank : Text.trim line ≠ []) (hcomment : (Text.trim line).head? ≠ some '#')
    (hsign : '=' ∉ Text.trim line) : IsRefused line (.noSetting (.ofList (Text.trim line)))
  | unknown {name value : String} (h : HoldsSetting line name value)
    (hlimit : name ≠ "max_iterations") (hlog : name ≠ "log") : IsRefused line (.unknown name)
  | badCount {value : String} (h : HoldsSetting line "max_iterations" value)
    (hvalue : ∀ limit, ¬ SpellsLimit value limit) : IsRefused line (.badCount value)

/-- The result is what the last of the lines gives that gives something, or else the start. -/
def IsLastGiven {α : Type} (gives : List Char → α → Prop) (lines : List (List Char))
    (start result : α) : Prop :=
  (∃ before line after, lines = before ++ line :: after ∧ gives line result ∧
    ∀ later ∈ after, ∀ other, ¬ gives later other) ∨
  (∀ line ∈ lines, ∀ other, ¬ gives line other) ∧ result = start

variable {line : List Char} {name value : String}

theorem setting?_eq_some_iff :
    setting? line = some (name, value) ↔ HoldsSetting line name value := by
  unfold setting? HoldsSetting
  rw [Option.ite_none_left_eq_some, Option.map_eq_some_iff]
  refine and_congr_right fun _ => ?_
  constructor
  · rintro ⟨⟨before, after⟩, hcut, hparts⟩
    cases hparts
    obtain ⟨htrim, hfree⟩ := Text.cutAt?_eq_some_iff.mp hcut
    exact ⟨before, after, htrim, hfree, rfl, rfl⟩
  · rintro ⟨before, after, htrim, hfree, rfl, rfl⟩
    exact ⟨(before, after), Text.cutAt?_eq_some_iff.mpr ⟨htrim, hfree⟩, rfl⟩

theorem setting?_eq_none_iff :
    setting? line = none ↔ (Text.trim line).head? = some '#' ∨ '=' ∉ Text.trim line := by
  unfold setting?
  by_cases hcomment : (Text.trim line).head? = some '#'
  · simp [hcomment]
  · simp [hcomment, Text.cutAt?_eq_none_iff]

theorem spellsLimit_iff {limit : Nat} :
    SpellsLimit value limit ↔ Text.signedCount? value.toList = some limit := by
  unfold SpellsLimit
  generalize value.toList = s
  constructor
  · rintro ⟨digits, rfl | rfl, hdigits⟩
    · have hfirst : ∀ rest, s ≠ '+' :: rest := by
        rintro rest rfl
        exact absurd hdigits.1 (by simp [Text.isNumeral])
      rw [Text.signedCount?]
      · exact Text.count?_eq_some_iff.mpr hdigits
      · exact hfirst
    · exact Text.count?_eq_some_iff.mpr hdigits
  · intro h
    unfold Text.signedCount? at h
    split at h
    · next digits => exact ⟨digits, .inr rfl, Text.count?_eq_some_iff.mp h⟩
    · exact ⟨s, .inl rfl, Text.count?_eq_some_iff.mp h⟩

theorem not_spellsLimit_iff :
    (∀ limit, ¬ SpellsLimit value limit) ↔ Text.signedCount? value.toList = none := by
  simp only [spellsLimit_iff, ← Option.eq_none_iff_forall_ne_some]

theorem bind_setting?_eq_some_iff {α : Type} (key : String) (read : String → Option α) {a : α} :
    ((setting? line).bind fun setting =>
        if setting.1 = key then read setting.2 else none) = some a ↔
      ∃ value, HoldsSetting line key value ∧ read value = some a := by
  rw [Option.bind_eq_some_iff]
  constructor
  · rintro ⟨⟨name, value⟩, hsetting, hread⟩
    obtain ⟨rfl, hvalue⟩ := Option.ite_none_right_eq_some.mp hread
    exact ⟨value, setting?_eq_some_iff.mp hsetting, hvalue⟩
  · rintro ⟨value, hholds, hvalue⟩
    exact ⟨_, setting?_eq_some_iff.mpr hholds, Option.ite_none_right_eq_some.mpr ⟨rfl, hvalue⟩⟩

theorem lineLimit?_eq_some_iff {limit : Nat} :
    lineLimit? line = some limit ↔ GivesLimit line limit := by
  rw [lineLimit?_eq_bind, bind_setting?_eq_some_iff "max_iterations" fun value =>
    Text.signedCount? value.toList]
  simp only [spellsLimit_iff, GivesLimit]

/-- The log filter that a line gives, if its setting is that. -/
def lineLog? (line : List Char) : Option (Option String) :=
  (setting? line).bind fun setting =>
    if setting.1 = "log" then some (if setting.2 = "" then none else some setting.2) else none

theorem lineLog?_eq_some_iff {log : Option String} :
    lineLog? line = some log ↔ GivesLog line log := by
  rw [lineLog?, bind_setting?_eq_some_iff "log" fun value =>
    some (if value = "" then none else some value)]
  simp only [Option.some.injEq, GivesLog]

theorem log_orKeep_set (config : Config) (name value : String) :
    (config.orKeep (config.set name value)).log =
      (if name = "log" then some (if value = "" then none else some value) else none).getD
        config.log := by
  unfold set
  by_cases hlimit : name = "max_iterations"
  · rw [if_pos hlimit, hlimit]
    cases Text.signedCount? value.toList <;> rfl
  · rw [if_neg hlimit]
    by_cases hlog : name = "log"
    · rw [if_pos hlog, if_pos hlog]
      simp [orKeep, Except.toOption]
    · rw [if_neg hlog, if_neg hlog]
      rfl

theorem isLastGiven_getLast? {α : Type} {gives : List Char → α → Prop}
    {given? : List Char → Option α} (h : ∀ line a, given? line = some a ↔ gives line a)
    (lines : List (List Char)) (start : α) :
    IsLastGiven gives lines start ((lines.filterMap given?).getLast?.getD start) := by
  have hnone : ∀ others : List (List Char), others.filterMap given? = [] →
      ∀ line ∈ others, ∀ a, ¬ gives line a := by
    intro others hothers line hline a hgives
    have hsome := (h line a).mpr hgives
    rw [List.filterMap_eq_nil_iff.mp hothers line hline] at hsome
    cases hsome
  cases hlast : (lines.filterMap given?).getLast? with
  | none => exact .inr ⟨hnone lines (List.getLast?_eq_none_iff.mp hlast), rfl⟩
  | some a =>
      obtain ⟨earlier, heq⟩ := List.getLast?_eq_some_iff.mp hlast
      obtain ⟨front, back, rfl, -, hback⟩ := List.filterMap_eq_append_iff.mp heq
      obtain ⟨middle, line, after, rfl, -, hline, hafter⟩ := List.filterMap_eq_cons_iff.mp hback
      exact .inl ⟨front ++ middle, line, after, by simp, (h line a).mp hline,
        hnone after hafter⟩

variable {config : Config} {fault : SettingFault}

theorem set_eq_error_iff :
    config.set name value = .error fault ↔
      (name = "max_iterations" ∧ (∀ limit, ¬ SpellsLimit value limit) ∧ fault = .badCount value) ∨
      (name ≠ "max_iterations" ∧ name ≠ "log" ∧ fault = .unknown name) := by
  unfold set
  rw [not_spellsLimit_iff]
  by_cases hlimit : name = "max_iterations"
  · rw [if_pos hlimit]
    cases Text.signedCount? value.toList <;> simp [hlimit, @eq_comm _ fault]
  · rw [if_neg hlimit]
    by_cases hlog : name = "log" <;> simp [hlimit, hlog, @eq_comm _ fault]

theorem applyLine_eq_error_iff : config.applyLine line = .error fault ↔ IsRefused line fault := by
  rw [applyLine_eq]
  constructor
  · intro h
    cases hsetting : setting? line with
    | none =>
        rw [hsetting] at h
        dsimp only at h
        split at h
        · cases h
        · next hsignificant =>
            cases h
            obtain ⟨hblank, hcomment⟩ := not_or.mp hsignificant
            exact .noSetting hblank hcomment
              ((setting?_eq_none_iff.mp hsetting).resolve_left hcomment)
    | some setting =>
        rw [hsetting] at h
        have hholds := setting?_eq_some_iff.mp hsetting
        obtain ⟨hname, hvalue, rfl⟩ | ⟨hlimit, hlog, rfl⟩ := set_eq_error_iff.mp h
        · rw [hname] at hholds
          exact .badCount hholds hvalue
        · exact .unknown hholds hlimit hlog
  · intro h
    cases h with
    | noSetting hblank hcomment hsign =>
        rw [setting?_eq_none_iff.mpr (.inr hsign)]
        dsimp only
        rw [if_neg (not_or.mpr ⟨hblank, hcomment⟩)]
    | unknown hholds hlimit hlog =>
        rw [setting?_eq_some_iff.mpr hholds]
        exact set_eq_error_iff.mpr (.inr ⟨hlimit, hlog, rfl⟩)
    | badCount hholds hvalue =>
        rw [setting?_eq_some_iff.mpr hholds]
        exact set_eq_error_iff.mpr (.inl ⟨rfl, hvalue, rfl⟩)

/-! ### Errors -/

theorem mem_errors_cons {number : Nat} {rest : List (Nat × List Char)} {e : ConfigError} :
    e ∈ (config.applyLines ((number, line) :: rest)).2 ↔
      (∃ fault, IsRefused line fault ∧ e = ⟨.line number, fault⟩) ∨
        e ∈ ((config.orKeep (config.applyLine line)).applyLines rest).2 := by
  have hrefused : ∀ fault, IsRefused line fault ↔ config.applyLine line = .error fault :=
    fun _ => applyLine_eq_error_iff.symm
  simp only [hrefused]
  rw [applyLines]
  cases config.applyLine line with
  | ok next => simp [orKeep, Except.toOption]
  | error fault => simp [orKeep, Except.toOption]

theorem mem_errors_iff {lines : List (Nat × List Char)} {e : ConfigError} :
    e ∈ (config.applyLines lines).2 ↔
      ∃ number line fault, (number, line) ∈ lines ∧ IsRefused line fault ∧
        e = ⟨.line number, fault⟩ := by
  induction lines generalizing config with
  | nil => simp [applyLines]
  | cons first rest ih =>
      obtain ⟨number, line⟩ := first
      rw [mem_errors_cons, ih]
      constructor
      · rintro (⟨fault, hrefused, rfl⟩ | ⟨other, text, fault, hmem, hfault⟩)
        · exact ⟨number, line, fault, List.mem_cons_self, hrefused, rfl⟩
        · exact ⟨other, text, fault, List.mem_cons_of_mem _ hmem, hfault⟩
      · rintro ⟨other, text, fault, hmem, hrefused, rfl⟩
        obtain heq | hmem := List.mem_cons.mp hmem
        · cases heq
          exact .inl ⟨fault, hrefused, rfl⟩
        · exact .inr ⟨other, text, fault, hmem, hrefused, rfl⟩

theorem sublist_errors (lines : List (Nat × List Char)) :
    ((config.applyLines lines).2.map ConfigError.line).Sublist (lines.map Prod.fst) := by
  induction lines generalizing config with
  | nil => exact List.Sublist.refl []
  | cons first rest ih =>
      obtain ⟨number, line⟩ := first
      rw [applyLines]
      cases config.applyLine line with
      | ok next => exact ih.cons number
      | error fault => exact ih.cons_cons number

theorem applyLines_append (lines others : List (Nat × List Char)) :
    (config.applyLines (lines ++ others)).1 =
      ((config.applyLines lines).1.applyLines others).1 := by
  induction lines generalizing config with
  | nil => rfl
  | cons first rest ih => rw [List.cons_append, applyLines_cons, applyLines_cons, ih]

/-- A refused line might as well not be there. -/
theorem applyLines_of_isRefused {before after : List (Nat × List Char)} {line : Nat × List Char}
    (h : IsRefused line.2 fault) :
    (config.applyLines (before ++ line :: after)).1 = (config.applyLines (before ++ after)).1 := by
  rw [applyLines_append, applyLines_append, applyLines_cons, applyLine_eq_error_iff.mpr h]
  rfl

/-- **The last valid line counts, and every refused one is reported.** The errors are in the order
of the lines, one for each refused line, and without that line the settings come out the same. -/
theorem applyText_last_valid (config : Config) (text : String) :
    (∀ e, e ∈ (config.applyText text).2 ↔ ∃ index line fault,
      (Text.lines text.toList)[index]? = some line ∧ IsRefused line fault ∧
        e = ⟨.line (index + 1), fault⟩) ∧
    ((config.applyText text).2.map ConfigError.line).Pairwise (· < ·) ∧
    IsLastGiven GivesLimit (Text.lines text.toList) config.maxIterations
      (config.applyText text).1.maxIterations ∧
    IsLastGiven GivesLog (Text.lines text.toList) config.log (config.applyText text).1.log ∧
    ∀ before line after fault, Text.numberedLines text.toList = before ++ line :: after →
      IsRefused line.2 fault →
        (config.applyText text).1 = (config.applyLines (before ++ after)).1 := by
  refine ⟨fun e => ?_, ?_, ?_, ?_, ?_⟩
  · rw [applyText, mem_errors_iff]
    constructor
    · rintro ⟨number, line, fault, hmem, hrefused, rfl⟩
      obtain ⟨index, rfl, hline⟩ := Text.mem_numberedLines_iff.mp hmem
      exact ⟨index, line, fault, hline, hrefused, rfl⟩
    · rintro ⟨index, line, fault, hline, hrefused, rfl⟩
      have hmem := Text.mem_numberedLines_iff.mpr ⟨index, rfl, hline⟩
      exact ⟨index + 1, line, fault, hmem, hrefused, rfl⟩
  · refine List.Pairwise.sublist (sublist_errors _) ?_
    rw [Text.map_fst_numberedLines]
    exact List.pairwise_lt_range'
  · rw [maxIterations_applyText]
    exact isLastGiven_getLast? (fun _ _ => lineLimit?_eq_some_iff) _ _
  · rw [part_applyText log_orKeep_set]
    exact isLastGiven_getLast? (fun _ _ => lineLog?_eq_some_iff) _ _
  · intro before line after fault hlines hrefused
    rw [applyText, hlines, applyLines_of_isRefused hrefused]

example : applyText {} "max_iterations = +007\r\n\n#\nlog=a=b\nLog=c\nmax_iterations=++8\n=" =
    (⟨7, some "a=b"⟩,
      [⟨.line 5, .unknown "Log"⟩, ⟨.line 6, .badCount "++8"⟩, ⟨.line 7, .unknown ""⟩]) := by
  rfl

end StringScript.Config
