import StringScript.Proofs.Frame
import StringScript.Proofs.Operations

/-!
# Submitted programs

A session takes programs one after another, to execute or to run. It hands out lines with each run,
and what it is left with is its last state.
-/

namespace StringScript

open ArrayText (separator IsIntact)

inductive Submission
  | execute (source : String)
  | run (source : String)
deriving Repr, DecidableEq

def Submission.source : Submission → String
  | execute source | run source => source

namespace Session

/-- The lines that are handed out for a submission, and the session after it. -/
def submit (s : Session) : Submission → List String × Session
  | .execute source => ([], (s.execScript source).2)
  | .run source => ((s.runScript source).1.lines, (s.runScript source).2)

/-- All lines that are handed out, and the last session. -/
def submitAll (s : Session) : List Submission → List String × Session
  | [] => ([], s)
  | first :: rest =>
    let (lines, next) := s.submit first
    let (later, last) := next.submitAll rest
    (lines ++ later, last)

/-- The operations of a program; one with a syntax error has none. -/
def operations (s : Session) (source : String) : List Operation :=
  match parseProgram source with
  | .ok block => Stmt.operationsAll s.config.maxIterations block s.state
  | .error _ => []

def operationsAll (s : Session) : List Submission → List Operation
  | [] => []
  | first :: rest => s.operations first.source ++ (s.submit first).2.operationsAll rest

theorem isIntact_start (config : Config) : (start config).state.IsIntact := by
  refine ⟨fun name value h => ?_, fun line h => ?_⟩
  · rw [start, State.initial, Store.get?_empty] at h
    cases h
  · cases h

theorem isIntact_execScript {s : Session} {source : String} (hs : s.state.IsIntact)
    (hspares : ∀ operation ∈ s.operations source, operation.sparesArrays) :
    (s.execScript source).2.state.IsIntact := by
  unfold operations at hspares
  unfold execScript
  cases hparse : parseProgram source with
  | error e => exact hs
  | ok block =>
      rw [hparse] at hspares
      have hliterals : ∀ literal ∈ Stmt.literalsAll block, separator ∉ literal.toList :=
        fun _ => separator_notMem_of_mem_literalsAll hparse
      have hend := Stmt.keepsIntact_runAll block hliterals s.state hs hspares
      exact state_perform (hend.mono (fun _ _ h => h.2) (fun _ _ h => h))

theorem isIntact_takeOutput {s : Session} (hs : s.state.IsIntact) :
    (∀ line ∈ s.takeOutput.1, IsIntact line) ∧ s.takeOutput.2.state.IsIntact := by
  refine ⟨hs.output, hs.store, fun line h => ?_⟩
  cases h

theorem isIntact_submit {s : Session} {submission : Submission} (hs : s.state.IsIntact)
    (hspares : ∀ operation ∈ s.operations submission.source, operation.sparesArrays) :
    (∀ line ∈ (s.submit submission).1, IsIntact line) ∧
      (s.submit submission).2.state.IsIntact := by
  have hend := isIntact_execScript hs hspares
  cases submission with
  | execute source => exact ⟨by simp [submit], hend⟩
  | run source =>
      have hsubmit : s.submit (.run source) = (s.execScript source).2.takeOutput := rfl
      rw [hsubmit]
      exact isIntact_takeOutput hend

theorem isIntact_submitAll {s : Session} {submissions : List Submission}
    (hs : s.state.IsIntact)
    (hspares : ∀ operation ∈ s.operationsAll submissions, operation.sparesArrays) :
    (∀ line ∈ (s.submitAll submissions).1, IsIntact line) ∧
      (s.submitAll submissions).2.state.IsIntact := by
  induction submissions generalizing s with
  | nil => exact ⟨by simp [submitAll], hs⟩
  | cons first rest ih =>
      obtain ⟨hfirst, hrest⟩ := List.forall_mem_append.mp hspares
      obtain ⟨hlines, hnext⟩ := isIntact_submit hs hfirst
      obtain ⟨hlater, hlast⟩ := ih hnext hrest
      exact ⟨List.forall_mem_append.mpr ⟨hlines, hlater⟩, hlast⟩

end Session

end StringScript
