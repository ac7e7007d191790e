import StringScript.Proofs.Requests

/-!
# The names in a store

A store takes any name; that it has numerals for names is due to the checks before assignments and
loops. What puts a name back after a loop cannot break this, because it puts back what was there.
So no request brings another name into a session, whatever block it comes with.
-/

namespace StringScript

open Execution

/-- Nothing but ASCII digits, and at least one of them. -/
def IsDigits (name : String) : Prop := name ≠ "" ∧ ∀ c ∈ name.toList, '0' ≤ c ∧ c ≤ '9'

theorem isVarName_iff {name : String} : isVarName name ↔ IsDigits name := by
  have hdigit (c : Char) : c.isDigit ↔ '0' ≤ c ∧ c ≤ '9' := by
    simp [Char.isDigit, Char.le_def]
  simp [isVarName, Text.isNumeral, IsDigits, hdigit]

/-- Every name that is set can be assigned to. -/
def Store.IsWellNamed (s : Store) : Prop := ∀ name, s.has name → isVarName name

namespace Store

variable {s t : Store} {name : String}

theorem isWellNamed_empty : empty.IsWellNamed := by
  intro name h
  simp [has] at h

theorem IsWellNamed.set (h : s.IsWellNamed) (hname : isVarName name) (value : String) :
    (s.set name value).IsWellNamed := by
  intro other hother
  unfold has at hother
  rw [get?_set] at hother
  split at hother
  · next heq => exact heq ▸ hname
  · exact h other hother

theorem IsWellNamed.restore (h : s.IsWellNamed) (h' : t.IsWellNamed) (name : String) :
    (t.restore name (s.get? name)).IsWellNamed := by
  intro other hother
  unfold has at hother
  rw [get?_restore] at hother
  split at hother
  · next heq => exact h other (heq ▸ hother)
  · exact h' other hother

end Store

/-- Every end of the execution has a store with valid names, if its start has one. -/
def Execution.KeepsNames {α : Type} (x : Execution α) : Prop :=
  Ensures (fun s => s.store.IsWellNamed) x (fun _ s => s.store.IsWellNamed)
    (fun _ s => s.store.IsWellNamed)

section Run

variable {limit : Nat}

theorem Execution.keepsNames_emit (line : String) : KeepsNames (emit line) :=
  fun _ hs => hs

theorem Execution.keepsNames_setVar {name : String} (h : isVarName name) (value : String) :
    KeepsNames (setVar name value) :=
  fun _ hs => hs.set h value

/-- What follows the check of a name can rely on it. -/
theorem Execution.keepsNames_checked {α : Type} {name : String} {x : Execution α}
    (h : isVarName name → KeepsNames x) : KeepsNames (checkName name >>= fun _ => x) := by
  intro s hs
  rw [bind_apply]
  by_cases hname : isVarName name
  · rw [checkName_of_isVarName hname, pure_apply]
    exact h hname s hs
  · rw [checkName, if_neg hname, throw_apply]
    exact hs

theorem Execution.keepsNames_loop {name : String} {body : Execution Unit} (h : isVarName name)
    (hbody : KeepsNames body) (items : List String) :
    KeepsNames (restoring name (forItems name body items)) := by
  refine ensures_restoring fun s hs => ?_
  have hitems : KeepsNames (forItems name body items) :=
    ensures_forItems (fun item => ensures_bind (keepsNames_setVar h item) fun _ => hbody) items
  exact (hitems s hs).mono (fun _ _ ht => hs.restore ht name) fun _ _ ht => hs.restore ht name

mutual

theorem Stmt.keepsNames_run : ∀ stmt : Stmt, KeepsNames (stmt.run limit)
  | .assign target e => by
    rw [Stmt.run]
    refine keepsNames_checked fun htarget => ?_
    exact ensures_bind (ensures_fromStore_self _) fun value => keepsNames_setVar htarget value
  | .print e => by
    rw [Stmt.run]
    exact ensures_bind (ensures_fromStore_self _) fun line => keepsNames_emit line
  | .ifThen c body => by
    rw [Stmt.run]
    refine ensures_bind (ensures_fromStore_self _) fun _ => ensures_ite (fun _ => ?_) (fun _ => ?_)
    · exact Stmt.keepsNames_runAll body
    · exact ensures_pure fun _ hs => hs
  | .ifThenElse c thenBody elseBody => by
    rw [Stmt.run]
    refine ensures_bind (ensures_fromStore_self _) fun _ => ensures_ite (fun _ => ?_) (fun _ => ?_)
    · exact Stmt.keepsNames_runAll thenBody
    · exact Stmt.keepsNames_runAll elseBody
  | .foreach kind var source body => by
    rw [Stmt.run]
    refine keepsNames_checked fun hvar => ?_
    refine ensures_bind (ensures_fromStore_self _) fun text => ?_
    exact keepsNames_loop hvar (Stmt.keepsNames_runAll body) (kind.elements text)
  | .whileDo c body => by
    rw [Stmt.run]
    exact ensures_repeatWhile (ensures_fromStore_self _) (Stmt.keepsNames_runAll body)
      (fun _ hs => hs) limit

theorem Stmt.keepsNames_runAll : ∀ block : List Stmt, KeepsNames (Stmt.runAll limit block)
  | [] => by
    rw [Stmt.runAll]
    exact ensures_pure fun _ hs => hs
  | stmt :: rest => by
    rw [Stmt.runAll]
    exact ensures_bind stmt.keepsNames_run fun _ => Stmt.keepsNames_runAll rest

end

end Run

namespace Session

variable {s : Session}

theorem store_takeOutput (s : Session) : s.takeOutput.2.store = s.store := rfl

theorem isWellNamed_perform {x : Execution Unit} (hx : KeepsNames x)
    (h : s.store.IsWellNamed) : (s.perform x).2.store.IsWellNamed :=
  state_perform (P := fun t => t.store.IsWellNamed) (hx s.state h)

theorem isWellNamed_execScript (source : String) (h : s.store.IsWellNamed) :
    (s.execScript source).2.store.IsWellNamed := by
  unfold execScript
  cases parseProgram source with
  | error e => exact h
  | ok block => exact isWellNamed_perform (Stmt.keepsNames_runAll block) h

theorem isWellNamed_serve (request : Request) (h : s.store.IsWellNamed) :
    (s.serve request).2.store.IsWellNamed := by
  cases request with
  | setVar name value =>
      have hset : KeepsNames (checkName name >>= fun _ => Execution.setVar name value) :=
        keepsNames_checked fun hname => keepsNames_setVar hname value
      exact isWellNamed_perform hset h
  | execStmt stmt => exact isWellNamed_perform stmt.keepsNames_run h
  | execBlock block => exact isWellNamed_perform (Stmt.keepsNames_runAll block) h
  | execScript source =>
      have hend : (s.serve (.execScript source)).2 = (s.execScript source).2 := rfl
      rw [hend]
      exact isWellNamed_execScript source h
  | run block => exact isWellNamed_perform (Stmt.keepsNames_runAll block) h
  | runScript source =>
      have hend : (s.serve (.runScript source)).2 = (s.execScript source).2.takeOutput.2 := rfl
      rw [hend, store_takeOutput]
      exact isWellNamed_execScript source h
  | eval e => exact h
  | takeOutput => exact h

theorem isWellNamed_serveAll (requests : List Request) (h : s.store.IsWellNamed) :
    (s.serveAll requests).2.store.IsWellNamed := by
  induction requests generalizing s with
  | nil => exact h
  | cons first rest ih =>
      rw [serveAll_cons]
      exact ih (isWellNamed_serve first h)

/-- **All stored names are digits.** Whatever a session was asked for, every name that is set
consists of digits, one at least. So a variable of another name has no value: to evaluate it
fails. -/
theorem isDigits_of_has_serveAll (config : Config) (requests : List Request) :
    let s := ((start config).serveAll requests).2
    (∀ name, s.store.has name → IsDigits name) ∧
      ∀ name, ¬ IsDigits name → s.eval (.var name) = .error (.undefinedVariable name) := by
  intro s
  have hnames : s.store.IsWellNamed := isWellNamed_serveAll requests Store.isWellNamed_empty
  have hdigits (name : String) (h : s.store.has name) : IsDigits name :=
    isVarName_iff.mp (hnames name h)
  refine ⟨hdigits, fun name hname => ?_⟩
  have hnone : s.store.get? name = none := by
    cases hvalue : s.store.get? name with
    | none => rfl
    | some value =>
        have hset : s.store.has name := by
          rw [Store.has, hvalue]
          rfl
        exact absurd (hdigits name hset) hname
  rw [eval, Expr.eval, Store.lookup, hnone]

/-- A refused setting, a loop that fails over a name that no program can spell, and one that
succeeds. -/
theorem isDigits_of_has_serveAll_unspellable :
    let requests : List Request := [.setVar "x" "1",
      .execBlock [.foreach .chars "5" (.text "ab") [.assign "a 1" (.var "5")]],
      .run [.foreach .chars "5" (.text "ab") [.assign "7" (.var "5")]]]
    let s := ((start {}).serveAll requests).2
    s.store.has "7" ∧ IsDigits "7" ∧ ¬ IsDigits "a 1" ∧
      s.eval (.var "a 1") = .error (.undefinedVariable "a 1") := by
  intro requests s
  obtain ⟨hdigits, hundefined⟩ := isDigits_of_has_serveAll {} requests
  have hset : s.store.has "7" := by rfl
  have hname : ¬ IsDigits "a 1" := by
    rw [← isVarName_iff]
    decide
  exact ⟨hset, hdigits "7" hset, hname, hundefined "a 1" hname⟩

end Session

end StringScript
