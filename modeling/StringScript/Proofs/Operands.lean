import StringScript.Proofs.Bundles

/-!
# Operands in arguments of their own

A bare `f` takes the next argument for its file if some argument after that is no bundle of flags.
That other argument need not be a program: it can be the count that a bare `m` takes. What is left
for the program is told by each argument and the one before it.
-/

namespace StringScript.CommandLine

/-- Whether a bundle takes the argument after it, as far as these two tell. -/
def takes (bundle arg : String) : Bool :=
  awaits 'm' bundle || awaits 'f' bundle && arg.toList.head? ≠ some '-'

/-- The arguments after `previous` that are no bundles and are not taken by one. -/
def leftAfter (previous : String) : List String → List String
  | [] => []
  | arg :: rest =>
    if arg = "--" then rest
    else if isFlags arg || takes previous arg then leftAfter arg rest
    else arg :: leftAfter arg rest

def leftOver (argv : List String) : List String := leftAfter "" argv

/-- No bundle before the end of the flags has characters after an `f`. -/
def HasBareFiles (argv : List String) : Prop :=
  ∀ arg ∈ argv.takeWhile (· ≠ "--"), isFlags arg → 'f' ∉ arg.toList.dropLast

/-- A bare `f` is right before the path, and not all arguments after the path are bundles. -/
def NamesFile (argv : List String) (path : String) : Prop :=
  ∃ before bundle later, argv = before ++ bundle :: path :: later ∧ awaits 'f' bundle ∧
    ¬ isFlags path ∧ ∃ arg ∈ later, ¬ isFlags arg

/-- The last argument that is no bundle is right after a bare `m`. -/
def EndsInCount (argv : List String) : Prop :=
  ∃ before bundle count after, argv = before ++ bundle :: count :: after ∧ awaits 'm' bundle ∧
    ¬ isFlags count ∧ ∀ arg ∈ after, isFlags arg

variable {argv rest : List String} {arg path : String}

theorem NamesFile.cons (h : NamesFile argv path) (arg : String) : NamesFile (arg :: argv) path := by
  obtain ⟨before, bundle, later, rfl, hfound⟩ := h
  exact ⟨arg :: before, bundle, later, rfl, hfound⟩

theorem NamesFile.not_isFlags (h : NamesFile argv path) : ¬ isFlags path := by
  obtain ⟨-, -, -, -, -, hpath, -⟩ := h
  exact hpath

theorem NamesFile.mem (h : NamesFile argv path) : path ∈ argv := by
  obtain ⟨before, bundle, later, rfl, -⟩ := h
  simp

/-- There is a bundle before the path. -/
theorem NamesFile.mem_tail (h : NamesFile (arg :: rest) path) : path ∈ rest := by
  obtain ⟨before, bundle, later, heq, -⟩ := h
  cases before with
  | nil =>
      cases heq
      exact List.mem_cons_self
  | cons first before =>
      cases heq
      simp

theorem EndsInCount.cons (h : EndsInCount argv) (arg : String) : EndsInCount (arg :: argv) := by
  obtain ⟨before, bundle, count, after, rfl, hfound⟩ := h
  exact ⟨arg :: before, bundle, count, after, rfl, hfound⟩

theorem hasBareFiles_cons_iff (hne : arg ≠ "--") :
    HasBareFiles (arg :: rest) ↔
      (isFlags arg → 'f' ∉ arg.toList.dropLast) ∧ HasBareFiles rest := by
  unfold HasBareFiles
  rw [List.takeWhile_cons_of_pos (by simpa using hne), List.forall_mem_cons]

theorem head?_ne_hyphen_of_signedCount? {s : List Char} {count : Nat}
    (h : Text.signedCount? s = some count) : s.head? ≠ some '-' := by
  intro hhead
  obtain ⟨rest, rfl⟩ := List.head?_eq_some_iff.mp hhead
  simp [Text.signedCount?, Text.count?, Text.isNumeral] at h

theorem ne_end_of_not_isFlags (h : ¬ isFlags arg) : arg ≠ "--" := by
  rintro rfl
  exact h (by decide)

theorem not_takes_of_not_isFlags (h : ¬ isFlags arg) (next : String) : ¬ takes arg next := by
  simp [takes, awaits, h]

theorem eq_nil_of_operandPart_eq {file : List Char} (h : 'f' ∉ arg.toList.dropLast)
    (hpart : operandPart arg = 'f' :: file) : file = [] := by
  have hsuffix : operandPart arg <:+ arg.toList :=
    (List.dropWhile_suffix _).trans (List.tail_suffix _)
  rw [hpart] at hsuffix
  obtain ⟨front, heq⟩ := hsuffix
  by_contra hne
  rw [← heq, List.dropLast_append_of_ne_nil (by simp), List.dropLast_cons_of_ne_nil hne] at h
  exact h (by simp)

/-- What a bundle does to the choice of the settings file by its operand part, and whether it takes
the first of the arguments `rest` after it. -/
inductive PartRead (part : List Char) (rest : List String) (before after : SettingsFile) :
    Bool → Prop
  | own (hfile : part ≠ ['f']) (hcount : part ≠ ['m'])
    (hafter : after = before ∨ ∃ file, part = 'f' :: file) : PartRead part rest before after false
  | nextFile {file : String} {later : List String} (hpart : part = ['f'])
    (hrest : rest = file :: later) (hhyphen : file.toList.head? ≠ some '-')
    (hlater : ∃ arg ∈ later, ¬ isFlags arg) (hafter : after = .file file) :
    PartRead part rest before after true
  | noFile (hpart : part = ['f'])
    (hrest : ∀ file later, rest = file :: later → file.toList.head? ≠ some '-' →
      ∀ arg ∈ later, isFlags arg) (hafter : after = .skip) : PartRead part rest before after false
  | nextCount {count : String} {later : List String} (hpart : part = ['m'])
    (hrest : rest = count :: later) (hhyphen : count.toList.head? ≠ some '-')
    (hafter : after = before) : PartRead part rest before after true

theorem PartRead.after_eq {before after : SettingsFile}
    (h : PartRead (operandPart arg) rest before after false) (hbare : 'f' ∉ arg.toList.dropLast) :
    after = before ∨ after = .skip := by
  cases h with
  | own hfile hcount hafter =>
      obtain hafter | ⟨file, hpart⟩ := hafter
      · exact .inl hafter
      · rw [hpart, eq_nil_of_operandPart_eq hbare hpart] at hfile
        exact absurd rfl hfile
  | noFile hpart hrest hafter => exact .inr hafter

/-- An argument that is taken starts with no hyphen: as a file by the rule, as a count since no
count does. -/
theorem PartRead.head?_ne_hyphen {part : List Char} {operand : String} {later : List String}
    {before after : SettingsFile} (h : PartRead part (operand :: later) before after true) :
    operand.toList.head? ≠ some '-' := by
  cases h with
  | nextFile _ hrest hhyphen =>
      cases hrest
      exact hhyphen
  | nextCount _ hrest hhyphen =>
      cases hrest
      exact hhyphen

theorem PartRead.not_isFlags {part : List Char} {operand : String} {later : List String}
    {before after : SettingsFile} (h : PartRead part (operand :: later) before after true) :
    ¬ isFlags operand := by
  simp [isFlags, h.head?_ne_hyphen]

theorem PartRead.takes {operand : String} {later : List String} {before after : SettingsFile}
    (h : PartRead (operandPart arg) (operand :: later) before after true) (hflags : isFlags arg) :
    takes arg operand := by
  have hhyphen := h.head?_ne_hyphen
  cases h with
  | nextFile hpart => simp [CommandLine.takes, awaits, hflags, hpart, hhyphen]
  | nextCount hpart => simp [CommandLine.takes, awaits, hflags, hpart]

/-- A bundle leaves an argument that it could take only if it is an `f` and bundles follow. -/
theorem PartRead.skip_of_takes {operand : String} {later : List String}
    {before after : SettingsFile}
    (h : PartRead (operandPart arg) (operand :: later) before after false)
    (htakes : CommandLine.takes arg operand) : after = .skip ∧ ∀ arg ∈ later, isFlags arg := by
  cases h with
  | own hfile hcount => simp [CommandLine.takes, awaits, hfile, hcount] at htakes
  | noFile hpart hrest hafter =>
      have hhyphen : isFlags arg ∧ operand.toList.head? ≠ some '-' := by
        simpa [CommandLine.takes, awaits, hpart] using htakes
      exact ⟨hafter, hrest operand later rfl hhyphen.2⟩

namespace Arguments

variable {args final next : Arguments} {positional : List String} {taken : Bool}

theorem setCount_map_eq_ok {found : String} {own : Bool}
    (h : (args.setCount found).map (·, own) = .ok (next, taken)) :
    (∃ count, Text.signedCount? found.toList = some count) ∧ next.settings = args.settings ∧
      next.program = args.program ∧ taken = own := by
  unfold setCount at h
  cases hcount : Text.signedCount? found.toList with
  | none =>
      rw [hcount] at h
      cases h
  | some count =>
      rw [hcount] at h
      cases h
      exact ⟨⟨count, rfl⟩, rfl, rfl, rfl⟩

theorem partRead_of_readFlags {flags : List Char}
    (h : args.readFlags rest flags = .ok (next, taken)) :
    PartRead (flags.dropWhile (· = 'd')) rest args.settings next.settings taken := by
  fun_induction readFlags args rest flags with
  | case1 =>
      cases h
      exact .own (by simp) (by simp) (.inl rfl)
  | case2 args flags ih => exact ih h
  | case3 args file later hrest htakes =>
      cases h
      obtain ⟨hhyphen, hlater⟩ := Bool.and_eq_true_iff.mp htakes
      exact .nextFile rfl hrest (of_decide_eq_true hhyphen) (by simpa using hlater) rfl
  | case4 args file later hrest htakes =>
      cases h
      refine .noFile rfl (fun file' later' hrest' hhyphen => ?_) rfl
      cases hrest.symm.trans hrest'
      simpa [hhyphen] using htakes
  | case5 args hrest =>
      cases h
      exact .noFile rfl (fun _ _ hrest' => absurd (hrest.symm.trans hrest') (by simp)) rfl
  | case6 args file hfile =>
      cases h
      exact .own (fun hpart => hfile (List.cons.inj hpart).2) (by simp) (.inr ⟨file, rfl⟩)
  | case7 args found later hrest =>
      obtain ⟨⟨count, hcount⟩, hsettings, -, rfl⟩ := setCount_map_eq_ok h
      exact .nextCount rfl hrest (head?_ne_hyphen_of_signedCount? hcount) hsettings
  | case8 => cases h
  | case9 args found hfound =>
      obtain ⟨-, hsettings, -, rfl⟩ := setCount_map_eq_ok h
      exact .own (by simp) (fun hpart => hfound (List.cons.inj hpart).2) (.inl hsettings)
  | case10 => cases h

theorem program_of_readFlags {flags : List Char}
    (h : args.readFlags rest flags = .ok (next, taken)) : next.program = args.program := by
  fun_induction readFlags args rest flags with
  | case2 args flags ih => exact ih h
  | case1 | case3 | case4 | case5 | case6 =>
      cases h
      rfl
  | case7 | case9 =>
      obtain ⟨-, -, hprogram, -⟩ := setCount_map_eq_ok h
      exact hprogram
  | case8 | case10 => cases h

/-! ### A whole list of arguments -/

/-- A reading that succeeds, argument by argument. -/
inductive AllRead (final : Arguments) : Arguments → List String → List String → Prop
  | done : AllRead final final [] []
  | ended (rest : List String) : AllRead final final ("--" :: rest) rest
  | bundle {args next : Arguments} {arg : String} {rest positional : List String} (hne : arg ≠ "--")
    (hflags : isFlags arg) (hprogram : next.program = args.program)
    (hpart : PartRead (operandPart arg) rest args.settings next.settings false)
    (hrest : AllRead final next rest positional) : AllRead final args (arg :: rest) positional
  | taking {args next : Arguments} {arg operand : String} {later positional : List String}
    (hne : arg ≠ "--") (hflags : isFlags arg) (hprogram : next.program = args.program)
    (hpart : PartRead (operandPart arg) (operand :: later) args.settings next.settings true)
    (hlater : AllRead final next later positional) :
    AllRead final args (arg :: operand :: later) positional
  | positional {args : Arguments} {arg : String} {rest positional : List String}
    (hflags : ¬ isFlags arg) (hrest : AllRead final args rest positional) :
    AllRead final args (arg :: rest) (arg :: positional)

theorem allRead_of_readAll (h : args.readAll argv = .ok (final, positional)) :
    AllRead final args argv positional := by
  fun_induction readAll args argv generalizing positional with
  | case1 =>
      cases h
      exact .done
  | case2 args rest =>
      cases h
      exact .ended rest
  | case3 args arg rest _ _ e hread =>
      rw [hread] at h
      cases h
  | case4 args arg hne hflags next operand later hread ih =>
      rw [hread] at h
      exact .taking hne hflags (program_of_readFlags hread) (partRead_of_readFlags hread) (ih h)
  | case5 args arg hne hflags next taken rest hnone hread ih =>
      have hpart := partRead_of_readFlags hread
      have htaken : taken = false := by
        cases hpart with
        | own | noFile => rfl
        | nextFile _ hrest => exact absurd rfl (hnone _ _ hrest)
        | nextCount _ hrest => exact absurd rfl (hnone _ _ hrest)
      subst htaken
      rw [hread] at h
      exact .bundle hne hflags (program_of_readFlags hread) hpart (ih h)
  | case6 args arg rest _ hflags ih =>
      cases hrest : args.readAll rest with
      | error e =>
          rw [hrest] at h
          cases h
      | ok read =>
          rw [hrest] at h
          cases h
          exact .positional hflags (ih hrest)

namespace AllRead

theorem program_eq (h : AllRead final args argv positional) : final.program = args.program := by
  induction h with
  | done => rfl
  | ended => rfl
  | bundle _ _ hprogram _ _ ih => rw [ih, hprogram]
  | taking _ _ hprogram _ _ ih => rw [ih, hprogram]
  | positional _ _ ih => exact ih

theorem namesFile (h : AllRead final args argv positional) (hbare : HasBareFiles argv)
    (hfile : final.settings = .file path) :
    args.settings = .file path ∨ NamesFile argv path := by
  induction h with
  | done => exact .inl hfile
  | ended => exact .inl hfile
  | @bundle args next arg rest positional hne hflags _ hpart _ ih =>
      obtain ⟨hbareArg, hbareRest⟩ := (hasBareFiles_cons_iff hne).mp hbare
      obtain hsettings | hnames := ih hbareRest
      · obtain hkept | hskip := hpart.after_eq (hbareArg hflags)
        · exact .inl (hkept ▸ hsettings)
        · exact absurd (hskip.symm.trans hsettings) (by simp)
      · exact .inr (hnames.cons arg)
  | @taking args next arg operand later positional hne hflags _ hpart _ ih =>
      have hoperand := hpart.not_isFlags
      obtain ⟨-, hbareRest⟩ := (hasBareFiles_cons_iff hne).mp hbare
      obtain ⟨-, hbareLater⟩ :=
        (hasBareFiles_cons_iff (ne_end_of_not_isFlags hoperand)).mp hbareRest
      obtain hsettings | hnames := ih hbareLater
      · cases hpart with
        | nextFile hpart hrest _ hlater hafter =>
            cases hrest
            cases hafter.symm.trans hsettings
            exact .inr ⟨[], arg, later, rfl, awaits_iff.mpr ⟨hflags, hpart⟩, hoperand, hlater⟩
        | nextCount _ _ _ hafter => exact .inl (hafter ▸ hsettings)
      · exact .inr ((hnames.cons operand).cons arg)
  | @positional args arg rest positional hflags _ ih =>
      obtain ⟨-, hbareRest⟩ := (hasBareFiles_cons_iff (ne_end_of_not_isFlags hflags)).mp hbare
      exact (ih hbareRest).imp_right fun hnames => hnames.cons arg

theorem positional_eq (h : AllRead final args argv positional) (hbare : HasBareFiles argv)
    (hfile : final.settings = .file path) {previous : String}
    (hprevious : ∀ arg, argv.head? = some arg → ¬ takes previous arg) :
    positional = leftAfter previous argv := by
  induction h generalizing previous with
  | done => rfl
  | ended rest => rw [leftAfter, if_pos rfl]
  | @bundle args next arg rest positional hne hflags _ hpart hrest ih =>
      obtain ⟨-, hbareRest⟩ := (hasBareFiles_cons_iff hne).mp hbare
      rw [leftAfter, if_neg hne, if_pos (by simp [hflags])]
      refine ih hbareRest fun operand hhead htakes => ?_
      obtain ⟨later, rfl⟩ := List.head?_eq_some_iff.mp hhead
      obtain ⟨hskip, hlater⟩ := hpart.skip_of_takes htakes
      -- The file would be named later, and so a path be among the bundles.
      obtain hsettings | hnames := hrest.namesFile hbareRest hfile
      · exact absurd (hskip.symm.trans hsettings) (by simp)
      · exact hnames.not_isFlags (hlater path hnames.mem_tail)
  | @taking args next arg operand later positional hne hflags _ hpart _ ih =>
      have hoperand := hpart.not_isFlags
      have hend := ne_end_of_not_isFlags hoperand
      obtain ⟨-, hbareRest⟩ := (hasBareFiles_cons_iff hne).mp hbare
      obtain ⟨-, hbareLater⟩ := (hasBareFiles_cons_iff hend).mp hbareRest
      rw [leftAfter, if_neg hne, if_pos (by simp [hflags]), leftAfter, if_neg hend,
        if_pos (by simp [hpart.takes hflags])]
      exact ih hbareLater fun next _ => not_takes_of_not_isFlags hoperand next
  | @positional args arg rest positional hflags _ ih =>
      have hend := ne_end_of_not_isFlags hflags
      obtain ⟨-, hbareRest⟩ := (hasBareFiles_cons_iff hend).mp hbare
      have hleft : ¬ (isFlags arg || takes previous arg) := by
        simpa [hflags] using hprevious arg rfl
      rw [leftAfter, if_neg hend, if_neg hleft,
        ← ih hbareRest fun next _ => not_takes_of_not_isFlags hflags next]

/-- Without an argument for the program, the last one that is no bundle is a count: a bare `f` takes
none after which there are only bundles. -/
theorem endsInCount (h : AllRead final args argv []) (hmem : ∃ arg ∈ argv, ¬ isFlags arg) :
    EndsInCount argv := by
  generalize hpositional : ([] : List String) = positional at h
  induction h with
  | done => simp at hmem
  | ended rest =>
      rw [← hpositional] at hmem
      obtain ⟨arg, harg, hflags⟩ := hmem
      rw [List.mem_singleton.mp harg] at hflags
      exact absurd (by decide) hflags
  | @bundle args next arg rest positional _ hflags _ _ _ ih =>
      obtain ⟨found, hfound, hnone⟩ := hmem
      obtain rfl | hfound := List.mem_cons.mp hfound
      · exact absurd hflags hnone
      · exact (ih ⟨found, hfound, hnone⟩ hpositional).cons arg
  | @taking args next arg operand later positional _ hflags _ hpart _ ih =>
      by_cases hlater : ∃ arg ∈ later, ¬ isFlags arg
      · exact ((ih hlater hpositional).cons operand).cons arg
      · have hoperand := hpart.not_isFlags
        cases hpart with
        | nextFile _ hrest _ hfound =>
            cases hrest
            exact absurd hfound hlater
        | nextCount hpart =>
            exact ⟨[], arg, operand, later, rfl, awaits_iff.mpr ⟨hflags, hpart⟩, hoperand,
              by simpa using hlater⟩
  | positional => cases hpositional

end AllRead

theorem exists_allRead_of_parse (h : parse argv = .ok args) :
    ∃ final positional, AllRead final {} argv positional ∧
      final.settings = args.settings ∧ args.program.toList = positional := by
  unfold parse at h
  cases hread : readAll {} argv with
  | error e =>
      rw [hread] at h
      cases h
  | ok read =>
      obtain ⟨final, positional⟩ := read
      have hall := allRead_of_readAll hread
      rw [hread] at h
      match positional with
      | [] =>
          cases h
          exact ⟨args, [], hall, rfl, by rw [hall.program_eq]; rfl⟩
      | [program] =>
          cases h
          exact ⟨final, [program], hall, rfl, rfl⟩
      | _ :: _ :: _ => cases h

/-- **A file is taken from an argument of its own where a program or a count remains.** The program
is what the bundles leave. There is one at least if the last argument that is no bundle is not the
count of a bare `m`. -/
theorem program_of_separate_file (hbare : HasBareFiles argv) (hparse : parse argv = .ok args)
    (hfile : args.settings = .file path) :
    NamesFile argv path ∧ args.program.toList = leftOver argv ∧
      (¬ EndsInCount argv → ∃ program, args.program = some program) := by
  obtain ⟨final, positional, hall, hsettings, hprogram⟩ := exists_allRead_of_parse hparse
  rw [← hsettings] at hfile
  have hnames : NamesFile argv path := by
    obtain hstart | hnames := hall.namesFile hbare hfile
    · cases hstart
    · exact hnames
  have hleft : positional = leftOver argv :=
    hall.positional_eq hbare hfile fun arg _ => not_takes_of_not_isFlags (by decide) arg
  refine ⟨hnames, hprogram.trans hleft, fun hcount => ?_⟩
  cases hargs : args.program with
  | some program => exact ⟨program, rfl⟩
  | none =>
      have hnone : positional = [] := by rw [← hprogram, hargs]; rfl
      rw [hnone] at hall
      exact absurd (hall.endsInCount ⟨path, hnames.mem, hnames.not_isFlags⟩) hcount

/-- One count and one file are taken, and a lone hyphen is a program. -/
theorem program_of_separate_file_count_first :
    let argv := ["-m", "7", "-df", "rc", "-d", "-"]
    let args : Arguments := ⟨some "-", .file "rc", some 7, true⟩
    HasBareFiles argv ∧ parse argv = .ok args ∧ args.settings = .file "rc" ∧
      NamesFile argv "rc" ∧ args.program.toList = leftOver argv ∧ ¬ EndsInCount argv ∧
      ∃ program, args.program = some program := by
  intro argv args
  have hbare : HasBareFiles argv := by
    unfold HasBareFiles
    decide
  have hcount : ¬ EndsInCount argv := by
    rintro ⟨before, bundle, count, after, heq, hawaits, -, hafter⟩
    have hreverse : argv.reverse = after.reverse ++ count :: bundle :: before.reverse := by
      simp [heq]
    cases hlast : after.reverse with
    | nil =>
        rw [hlast] at hreverse
        obtain ⟨-, hrest⟩ := List.cons.inj hreverse
        rw [← (List.cons.inj hrest).1] at hawaits
        exact absurd hawaits (by decide)
    | cons last others =>
        have hmem : last ∈ after := List.mem_reverse.mp (hlast ▸ List.mem_cons_self)
        rw [hlast] at hreverse
        rw [← (List.cons.inj hreverse).1] at hmem
        exact absurd (hafter _ hmem) (by decide)
  have hparse : parse argv = .ok args := rfl
  obtain ⟨hnames, hleft, hprogram⟩ := program_of_separate_file hbare hparse rfl
  exact ⟨hbare, hparse, rfl, hnames, hleft, hcount, hprogram hcount⟩

/-- **A count is no program.** In `-f x -m 5` the file is taken, and no program is left. -/
theorem not_program_of_separate_file :
    ¬ ∀ argv args path, HasBareFiles argv → parse argv = .ok args → args.settings = .file path →
      ∃ program, args.program = some program := by
  intro h
  have hbare : HasBareFiles ["-f", "x", "-m", "5"] := by
    unfold HasBareFiles
    decide
  obtain ⟨program, hprogram⟩ := h _ ⟨none, .file "x", some 5, false⟩ "x" hbare rfl rfl
  cases hprogram

end Arguments

end StringScript.CommandLine
