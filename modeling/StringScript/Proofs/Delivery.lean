import StringScript.Proofs.Settings

/-!
# What a run prints

A program is delivered in a file or on the standard input, and there are many places for settings.
What a run prints, and how it ends, comes from the text of the program and the limit alone: all else
shows only in the notices.
-/

namespace StringScript

@[simp]
theorem Text.ByteText.toString?_ofString (text : String) :
    (ofString text).toString? = some text := by
  simp [toString?, ofString]

/-- A program runs by its statements and the limit. -/
theorem interpret_congr {config config' : Config} {source source' : String}
    (hlimit : config.maxIterations = config'.maxIterations)
    (hparse : parseProgram source = parseProgram source') :
    interpret source config = interpret source' config' := by
  unfold interpret Session.runScript Session.execScript
  rw [hparse]
  cases parseProgram source' with
  | error e => rfl
  | ok block =>
      unfold Session.execBlock Session.perform Session.start
      dsimp only
      rw [hlimit]
      cases Stmt.runAll config'.maxIterations block State.initial <;> rfl

namespace Transcript

variable {transcript : Transcript}

def exitCode (transcript : Transcript) : Nat :=
  match transcript.result with
  | .ok _ => 0
  | .error _ => 1

def complaint (transcript : Transcript) : String :=
  match transcript.result with
  | .ok _ => ""
  | .error failure => CommandLine.complaint failure.message

theorem exitCode_eq_zero_iff : transcript.exitCode = 0 ↔ transcript.result = .ok () := by
  unfold exitCode
  cases transcript.result <;> simp

theorem exitCode_eq_one_iff : transcript.exitCode = 1 ↔ transcript.result ≠ .ok () := by
  unfold exitCode
  cases transcript.result <;> simp

end Transcript

namespace CommandLine

/-- The text of the program where no person types one. -/
def deliveredText? (s : Surroundings) (args : Arguments) (input : Text.ByteText) : Option String :=
  match args.program with
  | none => input.toString?
  | some path => if path = "-" then input.toString? else (s.readText path).toOption

/-- The arguments are sound, no person types, and the text of the program can be read. -/
structure Delivers (s : Surroundings) (argv : List String) (input : Text.ByteText)
    (args : Arguments) (text : String) : Prop where
  isTerminal_eq : s.isTerminal = false
  parse_eq : Arguments.parse argv = .ok args
  text_eq : deliveredText? s args input = some text

variable {s : Surroundings} {argv : List String} {input : Text.ByteText} {args : Arguments}
  {text : String}

theorem source_setup_ne_typed (h : s.isTerminal = false) : (setup s args).source ≠ .typed := by
  unfold setup
  cases args.program with
  | none => simp [h]
  | some path => by_cases hinput : path = "-" <;> simp [hinput]

theorem toOption_program_setup (h : s.isTerminal = false) :
    ((setup s args).program s input).toOption = deliveredText? s args input := by
  unfold setup Setup.program deliveredText?
  cases args.program with
  | none =>
      simp only [h]
      cases input.toString? <;> rfl
  | some path =>
      by_cases hinput : path = "-"
      · simp only [hinput]
        cases input.toString? <;> rfl
      · simp only [if_neg hinput]
        cases s.readText path <;> rfl

theorem Delivers.program_eq (h : Delivers s argv input args text) :
    (setup s args).program s input = .ok text := by
  have htext : ((setup s args).program s input).toOption = some text := by
    rw [toOption_program_setup h.isTerminal_eq, h.text_eq]
  cases hprogram : (setup s args).program s input with
  | error message =>
      rw [hprogram] at htext
      cases htext
  | ok source =>
      rw [hprogram] at htext
      cases htext
      rfl

/-- What is reported of a program that ended with the transcript. -/
def Report.ofTranscript (notices : String) (transcript : Transcript) : Report :=
  ⟨transcript.exitCode, printed transcript.lines, notices ++ transcript.complaint⟩

/-- What a person who types the program sees before its output. -/
def Setup.opening (p : Setup) : String :=
  p.greeting ++ if p.source = .typed then "=== Output ===\n" else ""

theorem run_of_program (hparse : Arguments.parse argv = .ok args)
    (hprogram : (setup s args).program s input = .ok text) :
    let report := Report.ofTranscript (setup s args).notices
      (interpret text { maxIterations := limit s args })
    run s argv input = { report with stdout := (setup s args).opening ++ report.stdout } := by
  have hlimit : (setup s args).config.maxIterations = limit s args := maxIterations_settings s args
  have hinterpret : interpret text (setup s args).config =
      interpret text { maxIterations := limit s args } := interpret_congr hlimit rfl
  unfold run Setup.run Setup.opening Report.ofTranscript Transcript.exitCode Transcript.complaint
  rw [hparse]
  dsimp only
  rw [hprogram]
  dsimp only
  rw [hinterpret]
  cases (interpret text { maxIterations := limit s args }).result <;> simp [String.append_assoc]

theorem Delivers.run_eq (h : Delivers s argv input args text) :
    run s argv input = .ofTranscript (setup s args).notices
      (interpret text { maxIterations := limit s args }) := by
  have hsource : (setup s args).source ≠ .typed := source_setup_ne_typed h.isTerminal_eq
  have hopening : (setup s args).opening = "" := by
    simp [Setup.opening, Setup.greeting, hsource]
  rw [run_of_program h.parse_eq h.program_eq, hopening]
  simp

/-- **What a run prints comes from the text of its program and the limit.** A program that is
delivered prints the lines of its transcript, each with a line feed, and the exit code tells whether
it succeeded. So any other invocation that delivers the same text under the same limit prints the
same and ends with the same exit code. -/
theorem run_of_delivers (h : Delivers s argv input args text) :
    let report := run s argv input
    let transcript := interpret text { maxIterations := limit s args }
    report.stdout = String.join (transcript.lines.map (· ++ "\n")) ∧
      (report.exitCode = 0 ↔ transcript.result = .ok ()) ∧
      (report.exitCode = 1 ↔ transcript.result ≠ .ok ()) ∧
      ∀ s' argv' input' args', Delivers s' argv' input' args' text →
        limit s' args' = limit s args →
        (run s' argv' input').stdout = report.stdout ∧
          (run s' argv' input').exitCode = report.exitCode := by
  intro report transcript
  have hreport : report = .ofTranscript (setup s args).notices transcript := h.run_eq
  rw [hreport]
  refine ⟨rfl, Transcript.exitCode_eq_zero_iff, Transcript.exitCode_eq_one_iff, ?_⟩
  intro s' argv' input' args' h' hlimit
  rw [h'.run_eq, hlimit]
  exact ⟨rfl, rfl⟩

/-- The same program in a file, under a limit from the settings file, and on the input, under one
from the command line. In the first place the environment has a limit that is not valid, and the
settings file ends with one. -/
theorem run_of_delivers_layered :
    let program := "1=\"a\"\nwhile 1 contains \"a\" do\nprint 1\nendwhile"
    let tree := FileTree.ofPaths [("loop.s68", .file (.ofString program)),
      (".strings68rc", .file (.ofString "max_iterations = 2\nlog=a=b=c\nmax_iterations=-1"))]
    let s : Surroundings := .ofTree tree [("STRINGS68_MAX_ITERATIONS", "two")] false
    let s' : Surroundings := .ofTree (.ofPaths []) [("STRINGS68_MAX_ITERATIONS", "5")] false
    let args : Arguments := { program := some "loop.s68", debug := true }
    let args' : Arguments := { program := some "-", maxIterations := some 2 }
    let report := run s ["-d", "loop.s68"] (.ofString "")
    let report' := run s' ["-m2", "-"] (.ofString program)
    Delivers s ["-d", "loop.s68"] (.ofString "") args program ∧
      Delivers s' ["-m2", "-"] (.ofString program) args' program ∧
      limit s args = 2 ∧ limit s' args' = limit s args ∧
      report.stdout = "a\na\n" ∧ report.exitCode = 1 ∧
      report'.stdout = report.stdout ∧ report'.exitCode = report.exitCode := by
  intro program tree s s' args args' report report'
  have hdelivers : Delivers s ["-d", "loop.s68"] (.ofString "") args program :=
    ⟨rfl, rfl, by decide +kernel⟩
  have hdelivers' : Delivers s' ["-m2", "-"] (.ofString program) args' program :=
    ⟨rfl, rfl, Text.ByteText.toString?_ofString _⟩
  have hlimit : limit s args = 2 := by decide +kernel
  have hsame : limit s' args' = limit s args := by
    rw [hlimit]
    rfl
  have hparse : parseProgram "1=\"a\"\nwhile 1 contains \"a\" do\nprint 1\nendwhile" =
      .ok [.assign "1" (.text "a"),
        .whileDo ⟨.var "1", .contains, .text "a"⟩ [.print (.var "1")]] := rfl
  have htranscript : interpret program { maxIterations := limit s args } =
      ⟨.error (.iterationLimit 2), ["a", "a"]⟩ := by
    rw [hlimit]
    unfold interpret Session.runScript Session.execScript
    rw [hparse]
    rfl
  obtain ⟨hstdout, -, hexit, hother⟩ := run_of_delivers hdelivers
  rw [htranscript] at hstdout hexit
  obtain ⟨hstdout', hexit'⟩ := hother s' _ _ args' hdelivers' hsame
  exact ⟨hdelivers, hdelivers', hlimit, hsame, hstdout, hexit.mpr (by simp), hstdout', hexit'⟩

end CommandLine

end StringScript
