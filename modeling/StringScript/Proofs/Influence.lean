import Mathlib.Data.Finset.Insert
import StringScript.Proofs.Names
import StringScript.Proofs.Outcome
import StringScript.Session

/-!
# What can influence an execution

A run sees the store only through the names that its expressions read. Two runs of a block that
start with the same values of these names go the same way and print the same lines. On top of that,
names that had the same value before still have it after, although a loop gives its variable the
value back that it had in the run at hand.
-/

namespace StringScript

open Execution

/-- The states have the same lines pending, and the same value for each of the names, or none. -/
structure State.AgreeOn (names : Set String) (s t : State) : Prop where
  output_eq : t.output = s.output
  get?_eq : ∀ name ∈ names, t.store.get? name = s.store.get? name

namespace State.AgreeOn

variable {names : Set String} {s t : State}

theorem mono {fewer : Set String} (h : AgreeOn names s t) (hsub : fewer ⊆ names) :
    AgreeOn fewer s t :=
  ⟨h.output_eq, fun name hname => h.get?_eq name (hsub hname)⟩

theorem lookup_eq (h : AgreeOn names s t) {name : String} (hname : name ∈ names) :
    t.store.lookup name = s.store.lookup name := by
  unfold Store.lookup
  rw [h.get?_eq name hname]

theorem setVar (h : AgreeOn names s t) (name value : String) :
    AgreeOn (insert name names) { s with store := s.store.set name value }
      { t with store := t.store.set name value } := by
  refine ⟨h.output_eq, fun other hother => ?_⟩
  rw [Store.get?_set, Store.get?_set]
  split
  · rfl
  · next hne => exact h.get?_eq other (hother.resolve_left (Ne.symm hne))

/-- Each run puts its own earlier value back. Where these differ, the name is not agreed on. -/
theorem restore {s' t' : State} (h : AgreeOn names s t) (h' : AgreeOn names s' t')
    (name : String) :
    AgreeOn names { s' with store := s'.store.restore name (s.store.get? name) }
      { t' with store := t'.store.restore name (t.store.get? name) } := by
  refine ⟨h'.output_eq, fun other hother => ?_⟩
  rw [Store.get?_restore, Store.get?_restore]
  split
  · next heq => rw [heq, h.get?_eq other hother]
  · exact h'.get?_eq other hother

end State.AgreeOn

section Run

variable {names : Set String} {limit : Nat}

theorem Execution.evaluate_agreeOn {e : Expr} (he : ↑e.reads ⊆ names) :
    Simulates (State.AgreeOn names) (evaluate e) (evaluate e) := by
  refine simulates_fromStore fun s t hst => ?_
  have hvalue := e.eval_mapNames (f := id) fun name hname => hst.lookup_eq (he hname)
  rw [Expr.mapNames_id] at hvalue
  exact hvalue.symm

theorem Execution.check_agreeOn {c : Condition} (hc : ↑c.reads ⊆ names) :
    Simulates (State.AgreeOn names) (check c) (check c) := by
  refine simulates_fromStore fun s t hst => ?_
  have hvalue := c.eval_mapNames (f := id) fun name hname => hst.lookup_eq (hc hname)
  rw [Condition.mapNames_id] at hvalue
  exact hvalue.symm

theorem Execution.setVar_agreeOn (name value : String) :
    Simulates (State.AgreeOn names) (setVar name value) (setVar name value) :=
  fun _ _ hst => .ok ((hst.setVar name value).mono (Set.subset_insert name names))

theorem Execution.emit_agreeOn (line : String) :
    Simulates (State.AgreeOn names) (emit line) (emit line) := by
  intro s t hst
  rw [emit_apply, emit_apply, hst.output_eq]
  exact .ok ⟨rfl, hst.get?_eq⟩

theorem Execution.restoring_agreeOn (name : String) {body : Execution Unit}
    (h : Simulates (State.AgreeOn names) body body) :
    Simulates (State.AgreeOn names) (restoring name body) (restoring name body) :=
  fun _ _ hst => sameEnd_restoring (h _ _ hst) fun _ _ hend => hst.restore hend name

mutual

theorem Stmt.run_agreeOn : ∀ stmt : Stmt, ↑stmt.reads ⊆ names →
    Simulates (State.AgreeOn names) (stmt.run limit) (stmt.run limit)
  | .assign target e, h => by
    rw [Stmt.reads] at h
    rw [Stmt.run]
    refine simulates_bind (simulates_checkName target) fun _ => ?_
    exact simulates_bind (evaluate_agreeOn h) fun value => setVar_agreeOn target value
  | .print e, h => by
    rw [Stmt.reads] at h
    rw [Stmt.run]
    exact simulates_bind (evaluate_agreeOn h) emit_agreeOn
  | .ifThen c body, h => by
    rw [Stmt.reads, Finset.coe_union, Set.union_subset_iff] at h
    rw [Stmt.run]
    refine simulates_bind (check_agreeOn h.1) fun _ => simulates_ite ?_ (simulates_pure ())
    exact Stmt.runAll_agreeOn body h.2
  | .ifThenElse c thenBody elseBody, h => by
    rw [Stmt.reads, Finset.coe_union, Finset.coe_union, Set.union_subset_iff,
      Set.union_subset_iff] at h
    rw [Stmt.run]
    refine simulates_bind (check_agreeOn h.1) fun _ => simulates_ite ?_ ?_
    · exact Stmt.runAll_agreeOn thenBody h.2.1
    · exact Stmt.runAll_agreeOn elseBody h.2.2
  | .foreach kind var source body, h => by
    rw [Stmt.reads, Finset.coe_union, Set.union_subset_iff] at h
    rw [Stmt.run]
    refine simulates_bind (simulates_checkName var) fun _ =>
      simulates_bind (evaluate_agreeOn h.1) fun text => ?_
    refine restoring_agreeOn var (simulates_forItems (fun item => ?_) _)
    exact simulates_bind (setVar_agreeOn var item) fun _ => Stmt.runAll_agreeOn body h.2
  | .whileDo c body, h => by
    rw [Stmt.reads, Finset.coe_union, Set.union_subset_iff] at h
    rw [Stmt.run]
    exact simulates_repeatWhile (check_agreeOn h.1) (Stmt.runAll_agreeOn body h.2) limit

theorem Stmt.runAll_agreeOn : ∀ block : List Stmt, ↑(Stmt.readsAll block) ⊆ names →
    Simulates (State.AgreeOn names) (Stmt.runAll limit block) (Stmt.runAll limit block)
  | [], _ => by
    rw [Stmt.runAll]
    exact simulates_pure ()
  | stmt :: rest, h => by
    rw [Stmt.readsAll, Finset.coe_union, Set.union_subset_iff] at h
    rw [Stmt.runAll]
    exact simulates_bind (stmt.run_agreeOn h.1) fun _ => Stmt.runAll_agreeOn rest h.2

end

end Run

/-- Sessions that execute the same block in states that agree end with the same result, in states
that agree. -/
theorem Session.execBlock_agreeOn {s t : Session} {block : List Stmt} {names : Set String}
    (hconfig : t.config = s.config) (hstate : s.state.AgreeOn names t.state)
    (hreads : ↑(Stmt.readsAll block) ⊆ names) :
    (t.execBlock block).1 = (s.execBlock block).1 ∧
      (s.execBlock block).2.state.AgreeOn names (t.execBlock block).2.state := by
  have hruns : Simulates (State.AgreeOn names) (Stmt.runAll s.config.maxIterations block)
      (Stmt.runAll s.config.maxIterations block) := Stmt.runAll_agreeOn block hreads
  unfold execBlock
  rw [hconfig]
  exact sameEnd_perform (hruns _ _ hstate)

/-- **What is not read has no influence.** Two sessions with the same settings and pending lines,
and with the same values of the names that a block reads, execute it with the same result and have
the same lines pending then. Every name that had the same value in both before has the same value in
both after. -/
theorem Session.execBlock_of_agree_on_reads {s t : Session} {block : List Stmt}
    (hconfig : t.config = s.config) (hpending : t.pending = s.pending)
    (hreads : ∀ name ∈ Stmt.readsAll block, t.store.get? name = s.store.get? name) :
    (t.execBlock block).1 = (s.execBlock block).1 ∧
      (t.execBlock block).2.pending = (s.execBlock block).2.pending ∧
      ∀ name, t.store.get? name = s.store.get? name →
        (t.execBlock block).2.store.get? name = (s.execBlock block).2.store.get? name := by
  -- All names on which the stores agree at the start, read or not, are kept in agreement.
  have hstate : s.state.AgreeOn {name | t.store.get? name = s.store.get? name} t.state :=
    ⟨Array.toList_inj.mp hpending, fun _ hname => hname⟩
  obtain ⟨hresult, hend⟩ := execBlock_agreeOn hconfig hstate hreads
  exact ⟨hresult, congrArg Array.toList hend.output_eq, hend.get?_eq⟩

theorem Session.execBlock_of_agree_on_reads_shadowed :
    let block : List Stmt := [.foreach .chars "5" (.var "1") [.assign "2" (.var "1"),
      .foreach .chars "6" (.text "x") [.print (.var "2")]], .print (.var "9")]
    let s : Session := ⟨{}, (Store.empty.set "1" "ab").set "5" "left", #[]⟩
    let t : Session := ⟨{}, (Store.empty.set "1" "ab").set "6" "right", #[]⟩
    t.config = s.config ∧ t.pending = s.pending ∧
      (∀ name ∈ Stmt.readsAll block, t.store.get? name = s.store.get? name) ∧
      (s.execBlock block).1 = .error (.undefinedVariable "9") ∧
      (t.execBlock block).1 = (s.execBlock block).1 ∧
      (t.execBlock block).2.pending = (s.execBlock block).2.pending ∧
      (t.execBlock block).2.store.get? "2" = (s.execBlock block).2.store.get? "2" := by
  intro block s t
  have hreads : ∀ name ∈ Stmt.readsAll block, t.store.get? name = s.store.get? name := by
    decide
  obtain ⟨hresult, hpending, hstore⟩ := execBlock_of_agree_on_reads (s := s) (t := t) rfl rfl hreads
  exact ⟨rfl, rfl, hreads, rfl, hresult, hpending, hstore "2" rfl⟩

end StringScript
