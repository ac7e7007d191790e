import Mathlib.Data.List.Basic
import StringScript.CommandLine.Arguments

/-!
# Bundles of flags

A bundle is some `d`s, and after them perhaps one flag with its operand. Where no flag looks for its
operand in the next argument, the bundles act one after another, each by itself. Then it makes no
difference where the positional arguments stand, or whether a `d` has an argument of its own.
-/

namespace StringScript.CommandLine

/-- What follows the leading `d`s of a bundle: nothing, or a flag and its operand. -/
def operandPart (bundle : String) : List Char := bundle.toList.tail.dropWhile (· = 'd')

/-- Whether an argument is a bundle that ends in the flag, with the operand still to come. -/
def awaits (flag : Char) (arg : String) : Bool := isFlags arg && operandPart arg = [flag]

/-- No flag looks for its operand in the next argument. -/
def AreSelfContained (argv : List String) : Prop :=
  ∀ arg ∈ argv, ¬ awaits 'f' arg ∧ ¬ awaits 'm' arg

theorem isFlags_of_toList_eq {arg : String} {flags : List Char} (h : arg.toList = '-' :: flags)
    (hflags : flags ≠ []) : isFlags arg := by
  have hne : arg ≠ "-" := by
    rintro rfl
    exact hflags (List.cons.inj h).2.symm
  simp [isFlags, h, hne]

theorem awaits_iff {flag : Char} {arg : String} :
    awaits flag arg ↔ isFlags arg ∧ operandPart arg = [flag] := by
  simp [awaits]

namespace Arguments

variable {args : Arguments} {argv : List String} {bundle : String}

/-- Reads a bundle that needs no other argument. -/
def readBundle (args : Arguments) (bundle : String) : Except UsageError Arguments :=
  (args.readFlags [] bundle.toList.tail).map Prod.fst

theorem readFlags_of_owned {flags : List Char} (hfile : flags.dropWhile (· = 'd') ≠ ['f'])
    (hcount : flags.dropWhile (· = 'd') ≠ ['m']) (rest : List String) :
    args.readFlags rest flags = ((args.readFlags [] flags).map Prod.fst).map (·, false) := by
  -- Only a bare `f` or `m` looks at the arguments after its bundle.
  fun_induction readFlags args rest flags with
  | case1 => rfl
  | case2 args flags ih => exact ih hfile hcount
  | case3 | case4 | case5 => exact absurd rfl hfile
  | case6 args file hne =>
      obtain ⟨c, file, rfl⟩ := List.exists_cons_of_ne_nil hne
      rfl
  | case7 | case8 => exact absurd rfl hcount
  | case9 args found hne =>
      obtain ⟨c, found, rfl⟩ := List.exists_cons_of_ne_nil hne
      rw [readFlags]
      · cases args.setCount (.ofList (c :: found)) <;> rfl
      · exact List.cons_ne_nil c found
  | case10 args flag flags hnodebug _ hnofile _ hnocount =>
      rw [readFlags]
      · rfl
      · exact hnodebug
      · exact fun h _ => hnofile h
      · exact hnofile
      · exact fun h _ => hnocount h
      · exact hnocount

theorem readFlags_eq_readBundle (hflags : isFlags bundle)
    (hself : ¬ awaits 'f' bundle ∧ ¬ awaits 'm' bundle) (rest : List String) :
    args.readFlags rest bundle.toList.tail = (args.readBundle bundle).map (·, false) := by
  have hpart : operandPart bundle ≠ ['f'] ∧ operandPart bundle ≠ ['m'] := by
    simpa [awaits_iff, hflags] using hself
  exact readFlags_of_owned hpart.1 hpart.2 rest

/-- **Bundles act one after another.** Positional arguments are only set aside. -/
theorem readAll_eq_foldlM (hend : "--" ∉ argv) (hself : AreSelfContained argv) :
    args.readAll argv =
      ((argv.filter isFlags).foldlM readBundle args).map (·, argv.filter (!isFlags ·)) := by
  induction argv generalizing args with
  | nil => rfl
  | cons arg rest ih =>
      obtain ⟨hne, hend⟩ := List.ne_and_not_mem_of_not_mem_cons hend
      obtain ⟨harg, hself⟩ := List.forall_mem_cons.mp hself
      unfold readAll
      rw [if_neg hne.symm]
      by_cases hflags : isFlags arg
      · have hread : args.readFlags rest arg.toList.tail = (args.readBundle arg).map (·, false) :=
          readFlags_eq_readBundle hflags harg rest
        rw [if_pos hflags, List.filter_cons_of_pos hflags, List.foldlM_cons,
          List.filter_cons_of_neg (by simpa using hflags)]
        cases hown : args.readBundle arg with
        | error e =>
            rw [hown] at hread
            rw [hread]
            rfl
        | ok next =>
            rw [hown] at hread
            rw [hread]
            exact ih hend hself
      · rw [if_neg hflags, ih hend hself, List.filter_cons_of_neg hflags,
          List.filter_cons_of_pos (by simpa using hflags)]
        cases (rest.filter isFlags).foldlM readBundle args <;> rfl

/-- What is read depends on the bundles, as they act one after another, and on the positional
arguments. -/
theorem parse_congr {others : List String} (hend : "--" ∉ argv) (hself : AreSelfContained argv)
    (hend' : "--" ∉ others) (hself' : AreSelfContained others)
    (hflags : (argv.filter isFlags).foldlM readBundle {} =
      (others.filter isFlags).foldlM readBundle {})
    (hpositional : argv.filter (!isFlags ·) = others.filter (!isFlags ·)) :
    parse argv = parse others := by
  unfold parse
  rw [readAll_eq_foldlM hend hself, readAll_eq_foldlM hend' hself', hflags, hpositional]

/-! ### Bundles taken apart -/

theorem isFlags_debug (flags : String) : isFlags ("-d" ++ flags) :=
  isFlags_of_toList_eq (by simp) (List.cons_ne_nil 'd' flags.toList)

theorem isFlags_hyphen {flags : String} (h : flags ≠ "") : isFlags ("-" ++ flags) := by
  have hlist : ("-" ++ flags).toList = '-' :: flags.toList := by simp
  exact isFlags_of_toList_eq hlist (by simpa using h)

theorem awaits_hyphen {flags : String} (h : flags ≠ "") (flag : Char) :
    awaits flag ("-" ++ flags) = awaits flag ("-d" ++ flags) := by
  have hpart : operandPart ("-" ++ flags) = operandPart ("-d" ++ flags) := by simp [operandPart]
  rw [awaits, awaits, isFlags_hyphen h, isFlags_debug, hpart]

theorem readBundle_debug (flags : String) :
    args.readBundle ("-d" ++ flags) = args.readBundle "-d" >>= (readBundle · ("-" ++ flags)) := by
  have hwhole : ("-d" ++ flags).toList.tail = 'd' :: flags.toList := by simp
  have hrest : ("-" ++ flags).toList.tail = flags.toList := by simp
  change _ = ({ args with debug := true } : Arguments).readBundle ("-" ++ flags)
  rw [readBundle, readBundle, hwhole, hrest]
  rfl

theorem parse_taken_apart {before after : List String} {flags : String}
    (hend : "--" ∉ before ++ ("-d" ++ flags) :: after)
    (hself : AreSelfContained (before ++ ("-d" ++ flags) :: after))
    (hnonempty : flags ≠ "") (hhyphen : flags ≠ "-") :
    parse (before ++ "-d" :: ("-" ++ flags) :: after) =
      parse (before ++ ("-d" ++ flags) :: after) := by
  obtain ⟨hselfBefore, hself⟩ := List.forall_mem_append.mp hself
  obtain ⟨hbundle, hselfAfter⟩ := List.forall_mem_cons.mp hself
  have hrest : ("-" ++ flags) ≠ "--" := by
    intro h
    have hlist := congrArg String.toList h
    rw [String.toList_append] at hlist
    exact hhyphen (String.toList_inj.mp (List.cons.inj hlist).2)
  have hend' : "--" ∉ before ++ "-d" :: ("-" ++ flags) :: after := by
    simp only [List.mem_append, List.mem_cons, not_or] at hend ⊢
    exact ⟨hend.1, by decide, hrest.symm, hend.2.2⟩
  have hself' : AreSelfContained (before ++ "-d" :: ("-" ++ flags) :: after) := by
    refine List.forall_mem_append.mpr ⟨hselfBefore, List.forall_mem_cons.mpr ⟨by decide,
      List.forall_mem_cons.mpr ⟨?_, hselfAfter⟩⟩⟩
    rwa [awaits_hyphen hnonempty, awaits_hyphen hnonempty]
  have hdebug : isFlags "-d" := by decide
  refine parse_congr hend' hself' hend (List.forall_mem_append.mpr ⟨hselfBefore, hself⟩) ?_ ?_
  · simp only [List.filter_append, List.filter_cons_of_pos, hdebug, isFlags_debug,
      isFlags_hyphen hnonempty, List.foldlM_append, List.foldlM_cons, readBundle_debug, bind_assoc]
  · simp [hdebug, isFlags_debug, isFlags_hyphen hnonempty]

/-- **Order and bundling make no difference.** The positional arguments can all stand at the end,
and a `d` at the front of a bundle can have an argument of its own: what is read is the same, and so
is the fault that is found. -/
theorem parse_rearranged (hend : "--" ∉ argv) (hself : AreSelfContained argv) :
    parse (argv.filter isFlags ++ argv.filter (!isFlags ·)) = parse argv ∧
      ∀ before flags after, argv = before ++ ("-d" ++ flags) :: after → flags ≠ "" → flags ≠ "-" →
        parse (before ++ "-d" :: ("-" ++ flags) :: after) = parse argv := by
  constructor
  · have hmem : ∀ arg ∈ argv.filter isFlags ++ argv.filter (!isFlags ·), arg ∈ argv := by
      intro arg harg
      obtain h | h := List.mem_append.mp harg
      · exact List.mem_of_mem_filter h
      · exact List.mem_of_mem_filter h
    refine parse_congr (fun h => hend (hmem _ h)) (fun arg harg => hself arg (hmem arg harg)) hend
      hself ?_ ?_
    · simp [List.filter_append, List.filter_filter]
    · simp [List.filter_append, List.filter_filter]
  · rintro before flags after rfl hnonempty hhyphen
    exact parse_taken_apart hend hself hnonempty hhyphen

/-- Of two faults the same one is reported. -/
theorem parse_rearranged_two_faults :
    let argv := ["a", "-dfrc", "-", "-ddmten", "-z"]
    "--" ∉ argv ∧ AreSelfContained argv ∧
      parse ["-dfrc", "-ddmten", "-z", "a", "-"] = parse argv ∧
      parse ["a", "-dfrc", "-", "-d", "-dmten", "-z"] = parse argv ∧
      parse argv = .error (.badCount "ten") := by
  intro argv
  have hend : "--" ∉ argv := by decide
  have hself : AreSelfContained argv := by
    unfold AreSelfContained
    decide
  obtain ⟨horder, hapart⟩ := parse_rearranged hend hself
  exact ⟨hend, hself, horder,
    hapart ["a", "-dfrc", "-"] "dmten" ["-z"] rfl (by decide) (by decide), rfl⟩

end Arguments
end StringScript.CommandLine
