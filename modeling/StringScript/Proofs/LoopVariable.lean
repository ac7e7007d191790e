import StringScript.Proofs.Names
import StringScript.Proofs.Outcome
import StringScript.Session

/-!
# The name of a loop variable

All variables share one store, so a loop only borrows its variable. Still the choice of that
variable does not matter: with another name that the body does not use, in the loop and throughout
its body, the loop ends in the same way and leaves the same state. The two runs are compared step
by step, in states where the two names have changed places.
-/

namespace StringScript

open Execution

def renamed (old new name : String) : String := if name = old then new else name

theorem renamed_self (name : String) : renamed name name = id := by
  funext other
  unfold renamed
  split
  · next heq => exact heq.symm
  · rfl

theorem renamed_of_ne {old new name : String} (h : name ≠ old) : renamed old new name = name :=
  if_neg h

/-- States between the rounds of a loop over `v` and of its counterpart over `w`. Each run keeps
the value of the name that it does not use, `a` of `w` here and `b` of `v` there. -/
structure Crossed (v w : String) (a b : Option String) (s t : State) : Prop where
  output_eq : t.output = s.output
  get?_eq : ∀ name, name ≠ v → name ≠ w → t.store.get? name = s.store.get? name
  left : s.store.get? w = a
  right : t.store.get? v = b

/-- States in the middle of a round: the two variables have the same value. That they have one at
all matters, since a failure to read them would name them. -/
structure CrossedBound (v w : String) (a b : Option String) (s t : State) : Prop
    extends Crossed v w a b s t where
  bound : ∃ value, s.store.get? v = some value ∧ t.store.get? w = some value

section Crossed

variable {v w : String} {a b : Option String} {s t : State}

theorem Crossed.setVar (h : Crossed v w a b s t) (hne : v ≠ w) (value : String) :
    CrossedBound v w a b { s with store := s.store.set v value }
      { t with store := t.store.set w value } := by
  constructor
  · constructor
    · exact h.output_eq
    · intro name hv hw
      rw [Store.get?_set, Store.get?_set, if_neg (Ne.symm hv), if_neg (Ne.symm hw)]
      exact h.get?_eq name hv hw
    · rw [Store.get?_set, if_neg hne]
      exact h.left
    · rw [Store.get?_set, if_neg (Ne.symm hne)]
      exact h.right
  · exact ⟨value, by simp [Store.get?_set], by simp [Store.get?_set]⟩

/-- Giving each run's variable back undoes the difference. -/
theorem Crossed.restore_eq (h : Crossed v w a b s t) (hne : v ≠ w) :
    ({ s with store := s.store.restore v b } : State) =
      { t with store := t.store.restore w a } := by
  have hstore : s.store.restore v b = t.store.restore w a := by
    ext1 name
    rw [Store.get?_restore, Store.get?_restore]
    by_cases hv : v = name
    · by_cases hw : w = name
      · exact absurd (hv.trans hw.symm) hne
      · rw [if_pos hv, if_neg hw, ← hv, h.right]
    · by_cases hw : w = name
      · rw [if_neg hv, if_pos hw, ← hw, h.left]
      · rw [if_neg hv, if_neg hw, h.get?_eq name (Ne.symm hv) (Ne.symm hw)]
  rw [hstore, h.output_eq]

namespace CrossedBound

theorem get?_renamed (h : CrossedBound v w a b s t) {name : String} (hname : name ≠ w) :
    t.store.get? (renamed v w name) = s.store.get? name := by
  by_cases hv : name = v
  · obtain ⟨value, hs, ht⟩ := h.bound
    rw [hv, renamed, if_pos rfl, hs, ht]
  · rw [renamed_of_ne hv]
    exact h.get?_eq name hv hname

theorem lookup_renamed (h : CrossedBound v w a b s t) {name : String} (hname : name ≠ w) :
    t.store.lookup (renamed v w name) = s.store.lookup name := by
  unfold Store.lookup
  rw [h.get?_renamed hname]
  by_cases hv : name = v
  · obtain ⟨value, hs, -⟩ := h.bound
    rw [hv, hs]
  · rw [renamed_of_ne hv]

theorem restore (h : CrossedBound v w a b s t) (hne : v ≠ w) {name : String} (hname : name ≠ w)
    (value : Option String) (hvalue : name = v → value.isSome) :
    CrossedBound v w a b { s with store := s.store.restore name value }
      { t with store := t.store.restore (renamed v w name) value } := by
  by_cases hv : name = v
  · obtain ⟨value, rfl⟩ := Option.isSome_iff_exists.mp (hvalue hv)
    rw [hv, renamed, if_pos rfl]
    exact h.toCrossed.setVar hne value
  · rw [renamed_of_ne hv]
    constructor
    · constructor
      · exact h.output_eq
      · intro other hov how
        rw [Store.get?_restore, Store.get?_restore, h.get?_eq other hov how]
      · rw [Store.get?_restore, if_neg hname]
        exact h.left
      · rw [Store.get?_restore, if_neg hv]
        exact h.right
    · obtain ⟨value, hs, ht⟩ := h.bound
      refine ⟨value, ?_, ?_⟩
      · rw [Store.get?_restore, if_neg hv]
        exact hs
      · rw [Store.get?_restore, if_neg hname]
        exact ht

end CrossedBound

end Crossed

/-! ### The two runs -/

section Run

variable {v w : String} {a b : Option String} {limit : Nat}

theorem evaluate_renamed {e : Expr} (he : w ∉ e.reads) :
    Simulates (CrossedBound v w a b) (evaluate e) (evaluate (e.mapNames (renamed v w))) :=
  simulates_fromStore fun _ _ hst =>
    (e.eval_mapNames fun _ hname => hst.lookup_renamed (ne_of_mem_of_not_mem hname he)).symm

theorem check_renamed {c : Condition} (hc : w ∉ c.reads) :
    Simulates (CrossedBound v w a b) (check c) (check (c.mapNames (renamed v w))) :=
  simulates_fromStore fun _ _ hst =>
    (c.eval_mapNames fun _ hname => hst.lookup_renamed (ne_of_mem_of_not_mem hname hc)).symm

theorem emit_renamed (line : String) :
    Simulates (CrossedBound v w a b) (emit line) (emit line) := by
  intro s t hst
  rw [emit_apply, emit_apply, hst.output_eq]
  exact .ok ⟨⟨rfl, hst.get?_eq, hst.left, hst.right⟩, hst.bound⟩

theorem checkName_renamed (hv : isVarName v) (hw : isVarName w) (name : String) :
    checkName (renamed v w name) = checkName name := by
  unfold renamed
  split
  · next heq => rw [heq, checkName_of_isVarName hv, checkName_of_isVarName hw]
  · rfl

theorem setVar_renamed (hne : v ≠ w) {name : String} (hname : name ≠ w) (value : String) :
    Simulates (CrossedBound v w a b) (setVar name value) (setVar (renamed v w name) value) := by
  intro s t hst
  rw [setVar_apply, setVar_apply]
  exact .ok (hst.restore hne hname (some value) fun _ => rfl)

theorem restoring_renamed (hne : v ≠ w) {name : String} (hname : name ≠ w)
    {body body' : Execution Unit} (h : Simulates (CrossedBound v w a b) body body') :
    Simulates (CrossedBound v w a b) (restoring name body)
      (restoring (renamed v w name) body') := by
  intro s t hst
  refine sameEnd_restoring (h s t hst) fun s' t' hst' => ?_
  rw [hst.get?_renamed hname]
  refine hst'.restore hne hname (s.store.get? name) fun heq => ?_
  obtain ⟨value, hs, -⟩ := hst.bound
  rw [heq, hs]
  rfl

mutual

theorem Stmt.run_renamed (hv : isVarName v) (hw : isVarName w) (hne : v ≠ w) :
    ∀ stmt : Stmt, w ∉ stmt.names → Simulates (CrossedBound v w a b) (stmt.run limit)
      ((stmt.mapNames (renamed v w)).run limit)
  | .assign target e, h => by
    simp only [Stmt.names, Finset.mem_insert, not_or] at h
    rw [Stmt.mapNames, Stmt.run, Stmt.run, checkName_renamed hv hw]
    refine simulates_bind (simulates_checkName target) fun _ => ?_
    exact simulates_bind (evaluate_renamed h.2) fun value =>
      setVar_renamed hne (Ne.symm h.1) value
  | .print e, h => by
    rw [Stmt.names] at h
    rw [Stmt.mapNames, Stmt.run, Stmt.run]
    exact simulates_bind (evaluate_renamed h) emit_renamed
  | .ifThen c body, h => by
    simp only [Stmt.names, Finset.mem_union, not_or] at h
    rw [Stmt.mapNames, Stmt.run, Stmt.run]
    refine simulates_bind (check_renamed h.1) fun _ => simulates_ite ?_ (simulates_pure ())
    exact Stmt.runAll_renamed hv hw hne body h.2
  | .ifThenElse c thenBody elseBody, h => by
    simp only [Stmt.names, Finset.mem_union, not_or] at h
    rw [Stmt.mapNames, Stmt.run, Stmt.run]
    refine simulates_bind (check_renamed h.1) fun _ => simulates_ite ?_ ?_
    · exact Stmt.runAll_renamed hv hw hne thenBody h.2.1
    · exact Stmt.runAll_renamed hv hw hne elseBody h.2.2
  | .foreach kind var source body, h => by
    simp only [Stmt.names, Finset.mem_insert, Finset.mem_union, not_or] at h
    obtain ⟨hvar, hsource, hbody⟩ := h
    rw [Stmt.mapNames, Stmt.run, Stmt.run, checkName_renamed hv hw]
    refine simulates_bind (simulates_checkName var) fun _ =>
      simulates_bind (evaluate_renamed hsource) fun text => ?_
    refine restoring_renamed hne (Ne.symm hvar) (simulates_forItems (fun item => ?_) _)
    exact simulates_bind (setVar_renamed hne (Ne.symm hvar) item) fun _ =>
      Stmt.runAll_renamed hv hw hne body hbody
  | .whileDo c body, h => by
    simp only [Stmt.names, Finset.mem_union, not_or] at h
    rw [Stmt.mapNames, Stmt.run, Stmt.run]
    exact simulates_repeatWhile (check_renamed h.1) (Stmt.runAll_renamed hv hw hne body h.2) limit

theorem Stmt.runAll_renamed (hv : isVarName v) (hw : isVarName w) (hne : v ≠ w) :
    ∀ block : List Stmt, w ∉ Stmt.namesAll block →
      Simulates (CrossedBound v w a b) (Stmt.runAll limit block)
        (Stmt.runAll limit (Stmt.mapNamesAll (renamed v w) block))
  | [], _ => by
    rw [Stmt.mapNamesAll, Stmt.runAll]
    exact simulates_pure ()
  | stmt :: rest, h => by
    simp only [Stmt.namesAll, Finset.mem_union, not_or] at h
    rw [Stmt.mapNamesAll, Stmt.runAll, Stmt.runAll]
    exact simulates_bind (stmt.run_renamed hv hw hne h.1) fun _ =>
      Stmt.runAll_renamed hv hw hne rest h.2

end

theorem forItems_renamed (hv : isVarName v) (hw : isVarName w) (hne : v ≠ w) {body : List Stmt}
    (hbody : w ∉ Stmt.namesAll body) (items : List String) :
    Simulates (Crossed v w a b) (forItems v (Stmt.runAll limit body) items)
      (forItems w (Stmt.runAll limit (Stmt.mapNamesAll (renamed v w) body)) items) := by
  have hround : Simulates (CrossedBound v w a b) (Stmt.runAll limit body)
      (Stmt.runAll limit (Stmt.mapNamesAll (renamed v w) body)) :=
    Stmt.runAll_renamed hv hw hne body hbody
  refine simulates_forItems (fun item s t hst => ?_) items
  rw [bind_apply, bind_apply]
  exact (hround _ _ (hst.setVar hne item)).mono fun _ _ h => h.toCrossed

theorem restoring_forItems_renamed (hv : isVarName v) (hw : isVarName w) (hne : v ≠ w)
    {body : List Stmt} (hbody : w ∉ Stmt.namesAll body) (items : List String) (s : State) :
    restoring v (forItems v (Stmt.runAll limit body) items) s =
      restoring w (forItems w (Stmt.runAll limit (Stmt.mapNamesAll (renamed v w) body)) items)
        s := by
  have hstart : Crossed v w (s.store.get? w) (s.store.get? v) s s :=
    ⟨rfl, fun _ _ _ => rfl, rfl, rfl⟩
  have hrounds : Simulates (Crossed v w (s.store.get? w) (s.store.get? v))
      (forItems v (Stmt.runAll limit body) items)
      (forItems w (Stmt.runAll limit (Stmt.mapNamesAll (renamed v w) body)) items) :=
    forItems_renamed hv hw hne hbody items
  exact (sameEnd_restoring (hrounds s s hstart) fun _ _ h => h.restore_eq hne).eq

end Run

/-- **The loop variable is bound by the loop.** Under a name that the body does not use, in its
place throughout the body, the loop ends with the same result and leaves the same session: the same
lines and the same store. -/
theorem Session.execStmt_foreach_renamed (s : Session) (kind : Iteration) {v w : String}
    (source : Expr) {body : List Stmt} (hv : isVarName v) (hw : isVarName w)
    (hbody : w ∉ Stmt.namesAll body) :
    s.execStmt (.foreach kind v source body) =
      s.execStmt (.foreach kind w source (Stmt.mapNamesAll (renamed v w) body)) := by
  by_cases hne : v = w
  · rw [← hne, renamed_self, Stmt.mapNamesAll_id]
  · suffices hrun : Stmt.run s.config.maxIterations (.foreach kind v source body) s.state =
        Stmt.run s.config.maxIterations
          (.foreach kind w source (Stmt.mapNamesAll (renamed v w) body)) s.state by
      rw [execStmt, execStmt, perform, perform, hrun]
    rw [Stmt.run, Stmt.run, checkName_of_isVarName hv, checkName_of_isVarName hw, pure_bind,
      pure_bind, bind_apply, bind_apply]
    -- The source is read before the variable is bound, so both loops go over the same items.
    cases evaluate source s.state with
    | ok text t => exact restoring_forItems_renamed hv hw hne hbody _ t
    | error failure t => rfl

theorem Session.execStmt_foreach_renamed_nested :
    isVarName "5" ∧ isVarName "7" ∧
      "7" ∉ Stmt.namesAll [.assign "5" (.call "concat" [.var "5", .text "yz"]),
        .foreach .chars "5" (.var "5") [.print (.var "5"), .assign "5" (.text "w")],
        .print (.call "get" [.var "5", .text "1"])] ∧
      (start {}).execStmt (.foreach .chars "5" (.text "abc")
        [.assign "5" (.call "concat" [.var "5", .text "yz"]),
          .foreach .chars "5" (.var "5") [.print (.var "5"), .assign "5" (.text "w")],
          .print (.call "get" [.var "5", .text "1"])]) =
      (start {}).execStmt (.foreach .chars "7" (.text "abc")
        [.assign "7" (.call "concat" [.var "7", .text "yz"]),
          .foreach .chars "7" (.var "7") [.print (.var "7"), .assign "7" (.text "w")],
          .print (.call "get" [.var "7", .text "1"])]) :=
  ⟨by decide, by decide, by decide,
    execStmt_foreach_renamed (start {}) .chars (.text "abc") (by decide) (by decide) (by decide)⟩

end StringScript
