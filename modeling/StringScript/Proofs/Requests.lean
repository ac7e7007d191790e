import StringScript.Proofs.Outcome

/-!
# Requests to a session

A host sends a session one request after another, and each has its reply, with the lines that the
session hands out for it. Handing out lines is all that draining does: a session that never drains
gives the same results, comes to the same variables, and has in the end all those lines pending.
-/

namespace StringScript

open Execution

inductive Request
  | setVar (name value : String)
  | execStmt (stmt : Stmt)
  | execBlock (block : List Stmt)
  | execScript (source : String)
  | run (block : List Stmt)
  | runScript (source : String)
  | eval (e : Expr)
  | takeOutput
deriving Repr

structure Reply where
  /-- Only an evaluation gives a value. -/
  result : Except Failure (Option String)
  lines : List String

namespace Request

def isTake : Request → Bool
  | takeOutput => true
  | _ => false

theorem eq_takeOutput {request : Request} (h : request.isTake) : request = takeOutput := by
  cases request with
  | takeOutput => rfl
  | _ => cases h

/-- The request that does the same and leaves the lines pending. -/
def undrained : Request → Request
  | run block => execBlock block
  | runScript source => execScript source
  | request => request

/-- The requests without those that only drain, with executions for the runs. -/
def undrainedAll (requests : List Request) : List Request :=
  (requests.filter (!·.isTake)).map undrained

/-- The results in the replies to all requests but those that only drain. -/
def resultsBesideTakes (requests : List Request) (replies : List Reply) :
    List (Except Failure (Option String)) :=
  ((requests.zip replies).filter (!·.1.isTake)).map (·.2.result)

variable {first : Request}

theorem undrainedAll_cons (h : first.isTake = false) (rest : List Request) :
    undrainedAll (first :: rest) = first.undrained :: undrainedAll rest := by
  simp [undrainedAll, h]

theorem resultsBesideTakes_cons (h : first.isTake = false) (rest : List Request) (reply : Reply)
    (replies : List Reply) :
    resultsBesideTakes (first :: rest) (reply :: replies) =
      reply.result :: resultsBesideTakes rest replies := by
  simp [resultsBesideTakes, h]

end Request

namespace Session

/-- The reply where something was executed and no lines are handed out. -/
def silentReply (executed : Except Failure Unit × Session) : Reply × Session :=
  (⟨executed.1.map fun _ => none, []⟩, executed.2)

def transcriptReply (transcribed : Transcript × Session) : Reply × Session :=
  (⟨transcribed.1.result.map fun _ => none, transcribed.1.lines⟩, transcribed.2)

def serve (s : Session) : Request → Reply × Session
  | .setVar name value => silentReply (s.setVar name value)
  | .execStmt stmt => silentReply (s.execStmt stmt)
  | .execBlock block => silentReply (s.execBlock block)
  | .execScript source => silentReply (s.execScript source)
  | .run block => transcriptReply (s.run block)
  | .runScript source => transcriptReply (s.runScript source)
  | .eval e => (⟨(s.eval e).map some, []⟩, s)
  | .takeOutput => (⟨.ok none, s.takeOutput.1⟩, s.takeOutput.2)

/-- All replies, and the last session. -/
def serveAll (s : Session) : List Request → List Reply × Session
  | [] => ([], s)
  | first :: rest =>
    let (reply, next) := s.serve first
    let (replies, last) := next.serveAll rest
    (reply :: replies, last)

theorem serveAll_cons (s : Session) (first : Request) (rest : List Request) :
    s.serveAll (first :: rest) =
      ((s.serve first).1 :: ((s.serve first).2.serveAll rest).1,
        ((s.serve first).2.serveAll rest).2) := rfl

end Session

/-! ### Lines that one session has handed out and another has not -/

/-- The states differ only in the lines of a backlog, which are the first ones pending in `t`. -/
structure State.Backlog (lines : List String) (s t : State) : Prop where
  store_eq : t.store = s.store
  output_eq : t.output.toList = lines ++ s.output.toList

section Run

variable {lines : List String} {limit : Nat}

theorem Execution.fromStore_backlog {α : Type} (read : Store → Except Failure α) :
    Simulates (State.Backlog lines) (fromStore read) (fromStore read) :=
  simulates_fromStore fun s t hst => by rw [hst.store_eq]

theorem Execution.setVar_backlog (name value : String) :
    Simulates (State.Backlog lines) (setVar name value) (setVar name value) := by
  intro s t hst
  rw [setVar_apply, setVar_apply, hst.store_eq]
  exact .ok ⟨rfl, hst.output_eq⟩

theorem Execution.emit_backlog (line : String) :
    Simulates (State.Backlog lines) (emit line) (emit line) := by
  intro s t hst
  rw [emit_apply, emit_apply]
  refine .ok ⟨hst.store_eq, ?_⟩
  rw [Array.toList_push, Array.toList_push, hst.output_eq, List.append_assoc]

theorem Execution.restoring_backlog (name : String) {body : Execution Unit}
    (h : Simulates (State.Backlog lines) body body) :
    Simulates (State.Backlog lines) (restoring name body) (restoring name body) := by
  intro s t hst
  refine sameEnd_restoring (h s t hst) fun s' t' hend => ?_
  rw [hst.store_eq, hend.store_eq]
  exact ⟨rfl, hend.output_eq⟩

mutual

/-- Statements read no pending lines, and add their own at the end. -/
theorem Stmt.run_backlog : ∀ stmt : Stmt,
    Simulates (State.Backlog lines) (stmt.run limit) (stmt.run limit)
  | .assign target e => by
    rw [Stmt.run]
    refine simulates_bind (simulates_checkName target) fun _ => ?_
    exact simulates_bind (fromStore_backlog _) fun value => setVar_backlog target value
  | .print e => by
    rw [Stmt.run]
    exact simulates_bind (fromStore_backlog _) emit_backlog
  | .ifThen c body => by
    rw [Stmt.run]
    refine simulates_bind (fromStore_backlog _) fun _ => simulates_ite ?_ (simulates_pure ())
    exact Stmt.runAll_backlog body
  | .ifThenElse c thenBody elseBody => by
    rw [Stmt.run]
    refine simulates_bind (fromStore_backlog _) fun _ => ?_
    exact simulates_ite (Stmt.runAll_backlog thenBody) (Stmt.runAll_backlog elseBody)
  | .foreach kind var source body => by
    rw [Stmt.run]
    refine simulates_bind (simulates_checkName var) fun _ =>
      simulates_bind (fromStore_backlog _) fun text => ?_
    refine restoring_backlog var (simulates_forItems (fun item => ?_) _)
    exact simulates_bind (setVar_backlog var item) fun _ => Stmt.runAll_backlog body
  | .whileDo c body => by
    rw [Stmt.run]
    exact simulates_repeatWhile (fromStore_backlog _) (Stmt.runAll_backlog body) limit

theorem Stmt.runAll_backlog : ∀ block : List Stmt,
    Simulates (State.Backlog lines) (Stmt.runAll limit block) (Stmt.runAll limit block)
  | [] => by
    rw [Stmt.runAll]
    exact simulates_pure ()
  | stmt :: rest => by
    rw [Stmt.runAll]
    exact simulates_bind stmt.run_backlog fun _ => Stmt.runAll_backlog rest

end

end Run

namespace Session

/-- The sessions differ only in the lines of a backlog, which are the first ones pending in `t`. -/
structure Backlog (lines : List String) (s t : Session) : Prop where
  config_eq : t.config = s.config
  state : s.state.Backlog lines t.state

/-- Both executions have the same result, and the second session still has the backlog. -/
structure EndsWithBacklog (lines : List String) (p q : Except Failure Unit × Session) : Prop where
  result_eq : q.1 = p.1
  backlog : p.2.Backlog lines q.2

/-- Both replies have the same result, and the lines of the first one are added to the backlog. -/
structure AddsToBacklog (lines : List String) (p q : Reply × Session) : Prop where
  result_eq : q.1.result = p.1.result
  backlog : p.2.Backlog (lines ++ p.1.lines) q.2

variable {lines : List String} {s t : Session}

theorem backlog_self (s : Session) : s.Backlog [] s := ⟨rfl, rfl, rfl⟩

namespace Backlog

theorem pending_eq (h : s.Backlog lines t) : t.pending = lines ++ s.pending := h.state.output_eq

theorem perform (h : s.Backlog lines t) {x : Execution Unit}
    (hx : Simulates (State.Backlog lines) x x) :
    EndsWithBacklog lines (s.perform x) (t.perform x) := by
  obtain ⟨hresult, hstate⟩ := sameEnd_perform (hx _ _ h.state)
  refine ⟨hresult, ?_, hstate⟩
  rw [config_perform, config_perform, h.config_eq]

theorem setVar (h : s.Backlog lines t) (name value : String) :
    EndsWithBacklog lines (s.setVar name value) (t.setVar name value) :=
  h.perform (simulates_bind (simulates_checkName name) fun _ => setVar_backlog name value)

theorem execStmt (h : s.Backlog lines t) (stmt : Stmt) :
    EndsWithBacklog lines (s.execStmt stmt) (t.execStmt stmt) := by
  unfold Session.execStmt
  rw [h.config_eq]
  exact h.perform stmt.run_backlog

theorem execBlock (h : s.Backlog lines t) (block : List Stmt) :
    EndsWithBacklog lines (s.execBlock block) (t.execBlock block) := by
  unfold Session.execBlock
  rw [h.config_eq]
  exact h.perform (Stmt.runAll_backlog block)

theorem execScript (h : s.Backlog lines t) (source : String) :
    EndsWithBacklog lines (s.execScript source) (t.execScript source) := by
  unfold Session.execScript
  cases parseProgram source with
  | error e => exact ⟨rfl, h⟩
  | ok block => exact h.execBlock block

/-- Lines that only the first session hands out are lines of the backlog from then on. -/
theorem takeOutput (h : s.Backlog lines t) : s.takeOutput.2.Backlog (lines ++ s.pending) t := by
  refine ⟨h.config_eq, h.state.store_eq, ?_⟩
  calc t.pending
    _ = lines ++ s.pending := h.pending_eq
    _ = lines ++ s.pending ++ s.takeOutput.2.pending := (List.append_nil _).symm

end Backlog

theorem EndsWithBacklog.silentReply {p q : Except Failure Unit × Session}
    (h : EndsWithBacklog lines p q) :
    AddsToBacklog lines (silentReply p) (silentReply q) := by
  refine ⟨congrArg (Except.map _) h.result_eq, ?_⟩
  rw [Session.silentReply, List.append_nil]
  exact h.backlog

theorem EndsWithBacklog.transcriptReply {p q : Except Failure Unit × Session}
    (h : EndsWithBacklog lines p q) :
    AddsToBacklog lines (transcriptReply (transcribe p)) (Session.silentReply q) :=
  ⟨congrArg (Except.map _) h.result_eq, h.backlog.takeOutput⟩

theorem Backlog.serve (h : s.Backlog lines t) {request : Request}
    (hrequest : request.isTake = false) :
    AddsToBacklog lines (s.serve request) (t.serve request.undrained) := by
  cases request with
  | setVar name value => exact (h.setVar name value).silentReply
  | execStmt stmt => exact (h.execStmt stmt).silentReply
  | execBlock block => exact (h.execBlock block).silentReply
  | execScript source => exact (h.execScript source).silentReply
  | run block => exact (h.execBlock block).transcriptReply
  | runScript source => exact (h.execScript source).transcriptReply
  | eval e =>
      have hvalue : t.eval e = s.eval e := congrArg e.eval h.state.store_eq
      refine ⟨congrArg (Except.map some) hvalue, ?_⟩
      rw [Session.serve, List.append_nil]
      exact h
  | takeOutput => cases hrequest

theorem Backlog.serveAll (h : s.Backlog lines t) (requests : List Request) :
    Request.resultsBesideTakes requests (s.serveAll requests).1 =
        (t.serveAll (Request.undrainedAll requests)).1.map (·.result) ∧
      (s.serveAll requests).2.Backlog (lines ++ (s.serveAll requests).1.flatMap Reply.lines)
        (t.serveAll (Request.undrainedAll requests)).2 := by
  induction requests generalizing s t lines with
  | nil =>
      refine ⟨rfl, ?_⟩
      rw [Session.serveAll, List.flatMap_nil, List.append_nil]
      exact h
  | cons first rest ih =>
      rw [serveAll_cons, List.flatMap_cons, ← List.append_assoc]
      cases hfirst : first.isTake with
      | true =>
          obtain rfl := Request.eq_takeOutput hfirst
          obtain ⟨hresults, hbacklog⟩ := ih h.takeOutput
          exact ⟨hresults, hbacklog⟩
      | false =>
          obtain ⟨hresult, hnext⟩ := h.serve hfirst
          obtain ⟨hresults, hbacklog⟩ := ih hnext
          rw [Request.undrainedAll_cons hfirst, serveAll_cons,
            Request.resultsBesideTakes_cons hfirst, List.map_cons, hresult, hresults]
          exact ⟨rfl, hbacklog⟩

/-- **Draining is invisible, and it loses no line.** Take the requests to a new session, and then
only those that do more than to drain, with executions for the runs. The results are the same, and
so are the variables in the end. The lines that are handed out the first time, in their order, and
those that are pending after them are the lines that are pending the second time. -/
theorem serveAll_undrained (config : Config) (requests : List Request) :
    let drained := (start config).serveAll requests
    let kept := (start config).serveAll (Request.undrainedAll requests)
    drained.1.flatMap Reply.lines ++ drained.2.pending = kept.2.pending ∧
      Request.resultsBesideTakes requests drained.1 = kept.1.map (·.result) ∧
      drained.2.store = kept.2.store := by
  intro drained kept
  obtain ⟨hresults, hbacklog⟩ := (backlog_self (start config)).serveAll requests
  exact ⟨hbacklog.pending_eq.symm, hresults, hbacklog.state.store_eq.symm⟩

end Session

end StringScript
