import StringScript.Session

/-!
# How executions end

An execution leaves a state behind also when it fails, so what is said of it speaks of both ends.
`Ensures` says what holds at the end of one execution. `Simulates` says that two executions end
alike, in related states. Either has one rule for each way to build an execution, and one for an
execution in a session.
-/

namespace StringScript.Execution

variable {α β : Type}

@[simp]
theorem pure_apply (value : α) (s : State) : (pure value : Execution α) s = .ok value s := rfl

@[simp]
theorem throw_apply (failure : Failure) (s : State) :
    (throw failure : Execution α) s = .error failure s := rfl

theorem bind_apply (x : Execution α) (f : α → Execution β) (s : State) :
    (x >>= f) s = match x s with
      | .ok value t => f value t
      | .error failure t => .error failure t := by
  change EStateM.bind x f s = _
  rw [EStateM.bind]
  cases x s <;> rfl

@[simp]
theorem setVar_apply (name value : String) (s : State) :
    setVar name value s = .ok () { s with store := s.store.set name value } := rfl

@[simp]
theorem emit_apply (line : String) (s : State) :
    emit line s = .ok () { s with output := s.output.push line } := rfl

theorem checkName_of_isVarName {name : String} (h : isVarName name) : checkName name = pure () :=
  if_pos h

theorem forItems_cons (name : String) (body : Execution Unit) (item : String)
    (rest : List String) :
    forItems name body (item :: rest) =
      (setVar name item >>= fun _ => body) >>= fun _ => forItems name body rest := by
  simp [forItems, bind_assoc]

/-! ### One execution -/

/-- `Q` holds of the value, or `E` of the failure, and of the state that is left. -/
def Ends (Q : α → State → Prop) (E : Failure → State → Prop) :
    EStateM.Result Failure State α → Prop
  | .ok value s => Q value s
  | .error failure s => E failure s

/-- Every execution that starts in a state of `P` ends with `Q`, or with `E` if it fails. -/
def Ensures (P : State → Prop) (x : Execution α) (Q : α → State → Prop)
    (E : Failure → State → Prop) : Prop :=
  ∀ s, P s → Ends Q E (x s)

theorem Ends.mono {Q Q' : α → State → Prop} {E E' : Failure → State → Prop}
    {r : EStateM.Result Failure State α} (h : Ends Q E r)
    (hQ : ∀ value s, Q value s → Q' value s) (hE : ∀ failure s, E failure s → E' failure s) :
    Ends Q' E' r := by
  cases r with
  | ok value s => exact hQ value s h
  | error failure s => exact hE failure s h

section Ensures

variable {P : State → Prop} {Q : β → State → Prop} {E : Failure → State → Prop}

theorem ensures_pure {value : β} (h : ∀ s, P s → Q value s) : Ensures P (pure value) Q E :=
  fun s hs => h s hs

theorem ensures_throw {failure : Failure} (h : ∀ s, P s → E failure s) :
    Ensures P (throw failure) Q E :=
  fun s hs => h s hs

theorem ensures_bind {M : α → State → Prop} {x : Execution α} {f : α → Execution β}
    (hx : Ensures P x M E) (hf : ∀ value, Ensures (M value) (f value) Q E) :
    Ensures P (x >>= f) Q E := by
  intro s hs
  have hend := hx s hs
  rw [bind_apply]
  generalize x s = r at hend ⊢
  cases r with
  | ok value t => exact hf value t hend
  | error failure t => exact hend

theorem ensures_fromStore {read : Store → Except Failure β}
    (hok : ∀ s value, P s → read s.store = .ok value → Q value s)
    (herror : ∀ s failure, P s → read s.store = .error failure → E failure s) :
    Ensures P (fromStore read) Q E := by
  intro s hs
  unfold fromStore
  cases hread : read s.store with
  | ok value => exact hok s value hs hread
  | error failure => exact herror s failure hs hread

/-- Whether it succeeds or not, reading from the store changes no state. -/
theorem ensures_fromStore_self (read : Store → Except Failure α) :
    Ensures P (fromStore read) (fun _ => P) (fun _ => P) :=
  ensures_fromStore (fun _ _ hs _ => hs) (fun _ _ hs _ => hs)

theorem ensures_ite {condition : Prop} [Decidable condition] {x y : Execution β}
    (hx : condition → Ensures P x Q E) (hy : ¬ condition → Ensures P y Q E) :
    Ensures P (if condition then x else y) Q E := by
  split
  · next h => exact hx h
  · next h => exact hy h

theorem ensures_checkName_self (name : String) :
    Ensures P (checkName name) (fun _ => P) (fun _ => P) :=
  ensures_ite (fun _ => ensures_pure fun _ hs => hs) (fun _ => ensures_throw fun _ hs => hs)

/-- The end of a body counts with the name put back as it was in the state at the start. -/
theorem ensures_restoring {name : String} {body : Execution Unit} {Q : Unit → State → Prop}
    (h : ∀ s, P s → Ends
      (fun value t => Q value { t with store := t.store.restore name (s.store.get? name) })
      (fun failure t => E failure { t with store := t.store.restore name (s.store.get? name) })
      (body s)) :
    Ensures P (restoring name body) Q E := by
  intro s hs
  have hend := h s hs
  unfold restoring
  generalize body s = r at hend ⊢
  cases r with
  | ok value t => exact hend
  | error failure t => exact hend

theorem ensures_forItems {name : String} {body : Execution Unit}
    (h : ∀ item, Ensures P (setVar name item >>= fun _ => body) (fun _ => P) E)
    (items : List String) : Ensures P (forItems name body items) (fun _ => P) E := by
  induction items with
  | nil => exact ensures_pure fun _ hs => hs
  | cons item rest ih =>
      rw [forItems_cons]
      exact ensures_bind (h item) fun _ => ih

theorem ensures_repeatWhile {limit : Nat} {condition : Execution Bool} {body : Execution Unit}
    (hcondition : Ensures P condition (fun _ => P) E) (hbody : Ensures P body (fun _ => P) E)
    (hlimit : ∀ s, P s → E (.iterationLimit limit) s) (more : Nat) :
    Ensures P (repeatWhile limit condition body more) (fun _ => P) E := by
  induction more with
  | zero =>
      refine ensures_bind hcondition fun _ => ensures_ite (fun _ => ?_) (fun _ => ?_)
      · exact ensures_throw hlimit
      · exact ensures_pure fun _ hs => hs
  | succ more ih =>
      refine ensures_bind hcondition fun _ => ensures_ite (fun _ => ?_) (fun _ => ?_)
      · exact ensures_bind hbody fun _ => ih
      · exact ensures_pure fun _ hs => hs

end Ensures

/-! ### Two executions -/

/-- Two executions ended with the same value or the same failure, in states that `R` relates. -/
inductive SameEnd (R : State → State → Prop) :
    EStateM.Result Failure State α → EStateM.Result Failure State α → Prop
  | ok {value : α} {s t : State} : R s t → SameEnd R (.ok value s) (.ok value t)
  | error {failure : Failure} {s t : State} :
    R s t → SameEnd R (.error failure s) (.error failure t)

/-- From related states, the executions end alike in related states. -/
def Simulates (R : State → State → Prop) (x y : Execution α) : Prop :=
  ∀ s t, R s t → SameEnd R (x s) (y t)

theorem SameEnd.mono {R R' : State → State → Prop} {p q : EStateM.Result Failure State α}
    (h : SameEnd R p q) (hR : ∀ s t, R s t → R' s t) : SameEnd R' p q := by
  cases h with
  | ok hst => exact .ok (hR _ _ hst)
  | error hst => exact .error (hR _ _ hst)

theorem SameEnd.eq {p q : EStateM.Result Failure State α} (h : SameEnd Eq p q) : p = q := by
  cases h with
  | ok hst => rw [hst]
  | error hst => rw [hst]

section Simulates

variable {R : State → State → Prop}

theorem simulates_pure (value : α) : Simulates R (pure value) (pure value) :=
  fun _ _ hst => .ok hst

theorem simulates_throw (failure : Failure) :
    Simulates R (throw failure : Execution α) (throw failure) :=
  fun _ _ hst => .error hst

theorem simulates_bind {x y : Execution α} {f g : α → Execution β} (hx : Simulates R x y)
    (hf : ∀ value, Simulates R (f value) (g value)) : Simulates R (x >>= f) (y >>= g) := by
  intro s t hst
  have hend := hx s t hst
  rw [bind_apply, bind_apply]
  generalize x s = p at hend ⊢
  generalize y t = q at hend ⊢
  cases hend with
  | ok hst' => exact hf _ _ _ hst'
  | error hst' => exact .error hst'

theorem simulates_fromStore {read read' : Store → Except Failure α}
    (h : ∀ s t, R s t → read s.store = read' t.store) :
    Simulates R (fromStore read) (fromStore read') := by
  intro s t hst
  unfold fromStore
  rw [h s t hst]
  cases read' t.store with
  | ok value => exact .ok hst
  | error failure => exact .error hst

theorem simulates_ite {condition : Prop} [Decidable condition] {x y x' y' : Execution α}
    (hx : Simulates R x x') (hy : Simulates R y y') :
    Simulates R (if condition then x else y) (if condition then x' else y') := by
  split
  · exact hx
  · exact hy

theorem simulates_checkName (name : String) : Simulates R (checkName name) (checkName name) :=
  simulates_ite (simulates_pure ()) (simulates_throw _)

/-- Bodies that end alike in states of `R` end alike in states of `R'` once the names are put
back. -/
theorem sameEnd_restoring {R' : State → State → Prop} {name name' : String}
    {body body' : Execution Unit} {s t : State} (h : SameEnd R (body s) (body' t))
    (hput : ∀ s' t', R s' t' →
      R' { s' with store := s'.store.restore name (s.store.get? name) }
        { t' with store := t'.store.restore name' (t.store.get? name') }) :
    SameEnd R' (restoring name body s) (restoring name' body' t) := by
  unfold restoring
  generalize body s = p at h ⊢
  generalize body' t = q at h ⊢
  cases h with
  | ok hst => exact .ok (hput _ _ hst)
  | error hst => exact .error (hput _ _ hst)

theorem simulates_forItems {name name' : String} {body body' : Execution Unit}
    (h : ∀ item, Simulates R (setVar name item >>= fun _ => body)
      (setVar name' item >>= fun _ => body')) (items : List String) :
    Simulates R (forItems name body items) (forItems name' body' items) := by
  induction items with
  | nil => exact simulates_pure ()
  | cons item rest ih =>
      rw [forItems_cons, forItems_cons]
      exact simulates_bind (h item) fun _ => ih

theorem simulates_repeatWhile {limit : Nat} {condition condition' : Execution Bool}
    {body body' : Execution Unit} (hcondition : Simulates R condition condition')
    (hbody : Simulates R body body') (more : Nat) :
    Simulates R (repeatWhile limit condition body more)
      (repeatWhile limit condition' body' more) := by
  induction more with
  | zero =>
      refine simulates_bind hcondition fun _ => simulates_ite ?_ ?_
      · exact simulates_throw _
      · exact simulates_pure ()
  | succ more ih =>
      refine simulates_bind hcondition fun _ => simulates_ite ?_ ?_
      · exact simulates_bind hbody fun _ => ih
      · exact simulates_pure ()

end Simulates

end StringScript.Execution

/-! ### Executions in a session -/

namespace StringScript

theorem Stmt.runAll_append (limit : Nat) (block others : List Stmt) :
    runAll limit (block ++ others) = runAll limit block >>= fun _ => runAll limit others := by
  induction block with
  | nil => rw [List.nil_append, runAll, pure_bind]
  | cons stmt rest ih => rw [List.cons_append, runAll, runAll, ih, bind_assoc]

end StringScript

namespace StringScript.Session

open Execution

/-- A session after one execution goes on with the next, unless the first fails. -/
theorem perform_bind (s : Session) (x : Execution Unit) (f : Unit → Execution Unit) :
    s.perform (x >>= f) =
      match s.perform x with
      | (.ok (), next) => next.perform (f ())
      | (.error failure, stopped) => (.error failure, stopped) := by
  unfold perform
  rw [bind_apply]
  cases x s.state <;> rfl

theorem perform_fromStore_bind {α : Type} (s : Session) (read : Store → Except Failure α)
    (f : α → Execution Unit) :
    s.perform (fromStore read >>= f) =
      match read s.store with
      | .ok value => s.perform (f value)
      | .error failure => (.error failure, s) := by
  unfold perform
  rw [bind_apply]
  unfold fromStore store
  cases read s.state.store <;> rfl

theorem execBlock_append (s : Session) (block others : List Stmt) :
    s.execBlock (block ++ others) =
      match s.execBlock block with
      | (.ok (), next) => next.execBlock others
      | (.error failure, stopped) => (.error failure, stopped) := by
  unfold execBlock
  rw [Stmt.runAll_append, perform_bind]
  unfold perform
  cases Stmt.runAll s.config.maxIterations block s.state <;> rfl

theorem config_perform (s : Session) (x : Execution Unit) : (s.perform x).2.config = s.config := by
  unfold perform
  cases x s.state <;> rfl

theorem state_perform {P : State → Prop} {s : Session} {x : Execution Unit}
    (h : Ends (fun _ => P) (fun _ => P) (x s.state)) : P (s.perform x).2.state := by
  unfold perform
  generalize x s.state = r at h ⊢
  cases r with
  | ok value t => exact h
  | error failure t => exact h

/-- Executions that end alike give the same result and leave the sessions in related states. -/
theorem sameEnd_perform {R : State → State → Prop} {s t : Session} {x y : Execution Unit}
    (h : SameEnd R (x s.state) (y t.state)) :
    (t.perform y).1 = (s.perform x).1 ∧ R (s.perform x).2.state (t.perform y).2.state := by
  unfold perform
  generalize x s.state = p at h ⊢
  generalize y t.state = q at h ⊢
  cases h with
  | ok hst => exact ⟨rfl, hst⟩
  | error hst => exact ⟨rfl, hst⟩

end StringScript.Session
