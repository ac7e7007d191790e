import StringScript.Proofs.Outcome
import StringScript.Session

/-!
# Larger limits

A limit matters only to a run that reaches it. Under a larger limit a block runs in the same way up
to the point where the smaller one stops it, and from there on it only adds to what is printed.
-/

namespace StringScript

namespace Execution

variable {α β : Type}

/-! ### Printed lines -/

/-- Lines that were printed before stay the first ones, however the execution ends. -/
def KeepsLines (x : Execution α) : Prop :=
  ∀ lines : List String, Ensures (fun s => lines <+: s.output.toList) x
    (fun _ s => lines <+: s.output.toList) (fun _ s => lines <+: s.output.toList)

section KeepsLines

variable {x : Execution α} {f : α → Execution β} {body : Execution Unit}

theorem keepsLines_pure (value : α) : KeepsLines (pure value) :=
  fun _ => ensures_pure fun _ hs => hs

theorem keepsLines_throw (failure : Failure) : KeepsLines (throw failure : Execution α) :=
  fun _ => ensures_throw fun _ hs => hs

theorem keepsLines_bind (hx : KeepsLines x) (hf : ∀ value, KeepsLines (f value)) :
    KeepsLines (x >>= f) :=
  fun lines => ensures_bind (hx lines) fun value => hf value lines

theorem keepsLines_fromStore (read : Store → Except Failure α) : KeepsLines (fromStore read) :=
  fun _ => ensures_fromStore_self read

theorem keepsLines_checkName (name : String) : KeepsLines (checkName name) :=
  fun _ => ensures_checkName_self name

theorem keepsLines_setVar (name value : String) : KeepsLines (setVar name value) :=
  fun _ _ hs => hs

theorem keepsLines_emit (line : String) : KeepsLines (emit line) := by
  intro lines s hs
  have hpush : s.output.toList <+: (s.output.push line).toList := by simp
  exact hs.trans hpush

theorem keepsLines_restoring {name : String} (h : KeepsLines body) :
    KeepsLines (restoring name body) :=
  fun lines => ensures_restoring fun s hs => h lines s hs

theorem keepsLines_repeatWhile {limit : Nat} {condition : Execution Bool}
    (hcondition : KeepsLines condition) (hbody : KeepsLines body) (more : Nat) :
    KeepsLines (repeatWhile limit condition body more) :=
  fun lines => ensures_repeatWhile (hcondition lines) (hbody lines) (fun _ hs => hs) more

end KeepsLines

/-! ### The same steps under two limits -/

/-- The end of an execution, and that of the same one under a larger limit. They are the same unless
a limit stopped the first; then the lines that it had printed are the first ones of the second. -/
inductive Prolonged :
    EStateM.Result Failure State α → EStateM.Result Failure State α → Prop
  | same (r : EStateM.Result Failure State α) : Prolonged r r
  | stopped {limit : Nat} {s : State} {r : EStateM.Result Failure State α} :
    Ends (fun _ t => s.output.toList <+: t.output.toList)
      (fun _ t => s.output.toList <+: t.output.toList) r →
    Prolonged (.error (.iterationLimit limit) s) r

/-- The execution `y` is `x` under a larger limit. What `y` does beyond `x` takes no line back. -/
structure OutlastedBy (x y : Execution α) : Prop where
  prolonged : ∀ s, Prolonged (x s) (y s)
  keepsLines : KeepsLines y

section OutlastedBy

variable {x y : Execution α} {f g : α → Execution β} {body body' : Execution Unit}

theorem outlastedBy_self (h : KeepsLines x) : OutlastedBy x x :=
  ⟨fun s => .same (x s), h⟩

theorem outlastedBy_limit (h : KeepsLines y) (limit : Nat) :
    OutlastedBy (throw (.iterationLimit limit)) y :=
  ⟨fun s => .stopped (h s.output.toList s (List.prefix_refl _)), h⟩

theorem outlastedBy_bind (hx : OutlastedBy x y) (hf : ∀ value, OutlastedBy (f value) (g value)) :
    OutlastedBy (x >>= f) (y >>= g) := by
  refine ⟨fun s => ?_, keepsLines_bind hx.keepsLines fun value => (hf value).keepsLines⟩
  have hend := hx.prolonged s
  rw [bind_apply, bind_apply]
  generalize x s = p at hend ⊢
  generalize y s = q at hend ⊢
  cases hend with
  | same =>
      cases p with
      | ok value t => exact (hf value).prolonged t
      | error failure t => exact .same _
  | stopped hlines =>
      refine .stopped ?_
      -- Here only `y` goes on, with steps that have no counterpart in `x`.
      cases q with
      | ok value t => exact (hf value).keepsLines _ t hlines
      | error failure t => exact hlines

theorem outlastedBy_ite {condition : Prop} [Decidable condition] {x' y' : Execution α}
    (h : OutlastedBy x y) (h' : OutlastedBy x' y') :
    OutlastedBy (if condition then x else x') (if condition then y else y') := by
  split
  · exact h
  · exact h'

theorem outlastedBy_restoring (name : String) (h : OutlastedBy body body') :
    OutlastedBy (restoring name body) (restoring name body') := by
  refine ⟨fun s => ?_, keepsLines_restoring h.keepsLines⟩
  have hend := h.prolonged s
  unfold restoring
  generalize body s = p at hend ⊢
  generalize body' s = q at hend ⊢
  cases hend with
  | same => exact .same _
  | stopped hlines =>
      refine .stopped ?_
      cases q with
      | ok value t => exact hlines
      | error failure t => exact hlines

theorem outlastedBy_forItems (name : String) (h : OutlastedBy body body')
    (items : List String) :
    OutlastedBy (forItems name body items) (forItems name body' items) := by
  induction items with
  | nil => exact outlastedBy_self (keepsLines_pure ())
  | cons item rest ih =>
      rw [forItems_cons, forItems_cons]
      have hround : OutlastedBy (setVar name item >>= fun _ => body)
          (setVar name item >>= fun _ => body') :=
        outlastedBy_bind (outlastedBy_self (keepsLines_setVar name item)) fun _ => h
      exact outlastedBy_bind hround fun _ => ih

/-- A loop counts its own rounds only, so in every round the second loop has at least as many left
as the first. -/
theorem outlastedBy_repeatWhile {limit larger : Nat} {condition : Execution Bool}
    (hcondition : KeepsLines condition) (hbody : OutlastedBy body body') {more more' : Nat}
    (h : more ≤ more') :
    OutlastedBy (repeatWhile limit condition body more)
      (repeatWhile larger condition body' more') := by
  have hstart : OutlastedBy condition condition := outlastedBy_self hcondition
  have hdone : OutlastedBy (pure () : Execution Unit) (pure ()) :=
    outlastedBy_self (keepsLines_pure ())
  induction more generalizing more' with
  | zero =>
      cases more' with
      | zero =>
          refine outlastedBy_bind hstart fun _ => outlastedBy_ite ?_ hdone
          exact outlastedBy_limit (keepsLines_throw _) limit
      | succ rest =>
          refine outlastedBy_bind hstart fun _ => outlastedBy_ite ?_ hdone
          have hrest : KeepsLines (repeatWhile larger condition body' rest) :=
            keepsLines_repeatWhile hcondition hbody.keepsLines rest
          exact outlastedBy_limit (keepsLines_bind hbody.keepsLines fun _ => hrest) limit
  | succ more ih =>
      cases more' with
      | zero => exact absurd h (Nat.not_succ_le_zero more)
      | succ rest =>
          refine outlastedBy_bind hstart fun _ => outlastedBy_ite ?_ hdone
          exact outlastedBy_bind hbody fun _ => ih (Nat.le_of_succ_le_succ h)

end OutlastedBy

end Execution

open Execution

section Run

variable {limit larger : Nat}

mutual

theorem Stmt.outlastedBy_run (h : limit ≤ larger) :
    ∀ stmt : Stmt, OutlastedBy (stmt.run limit) (stmt.run larger)
  | .assign target e => by
    rw [Stmt.run, Stmt.run]
    exact outlastedBy_self (keepsLines_bind (keepsLines_checkName target) fun _ =>
      keepsLines_bind (keepsLines_fromStore _) fun value => keepsLines_setVar target value)
  | .print e => by
    rw [Stmt.run, Stmt.run]
    exact outlastedBy_self (keepsLines_bind (keepsLines_fromStore _) keepsLines_emit)
  | .ifThen c body => by
    rw [Stmt.run, Stmt.run]
    refine outlastedBy_bind (outlastedBy_self (keepsLines_fromStore _)) fun _ => ?_
    exact outlastedBy_ite (Stmt.outlastedBy_runAll h body) (outlastedBy_self (keepsLines_pure ()))
  | .ifThenElse c thenBody elseBody => by
    rw [Stmt.run, Stmt.run]
    refine outlastedBy_bind (outlastedBy_self (keepsLines_fromStore _)) fun _ => ?_
    exact outlastedBy_ite (Stmt.outlastedBy_runAll h thenBody) (Stmt.outlastedBy_runAll h elseBody)
  | .foreach kind var source body => by
    rw [Stmt.run, Stmt.run]
    refine outlastedBy_bind (outlastedBy_self (keepsLines_checkName var)) fun _ =>
      outlastedBy_bind (outlastedBy_self (keepsLines_fromStore _)) fun text => ?_
    exact outlastedBy_restoring var
      (outlastedBy_forItems var (Stmt.outlastedBy_runAll h body) (kind.elements text))
  | .whileDo c body => by
    rw [Stmt.run, Stmt.run]
    exact outlastedBy_repeatWhile (keepsLines_fromStore _) (Stmt.outlastedBy_runAll h body) h

theorem Stmt.outlastedBy_runAll (h : limit ≤ larger) :
    ∀ block : List Stmt, OutlastedBy (Stmt.runAll limit block) (Stmt.runAll larger block)
  | [] => by
    rw [Stmt.runAll, Stmt.runAll]
    exact outlastedBy_self (keepsLines_pure ())
  | stmt :: rest => by
    rw [Stmt.runAll, Stmt.runAll]
    exact outlastedBy_bind (stmt.outlastedBy_run h) fun _ => Stmt.outlastedBy_runAll h rest

end

end Run

/-- **A larger limit changes no run that keeps within the smaller one.** Such a run of a block ends
with the same result and leaves the same state. If the smaller limit stops the run, the lines that
are pending then are the first of those under the larger limit. -/
theorem Session.execBlock_larger_limit (config : Config) (state : State) (block : List Stmt)
    {limit larger : Nat} (h : limit ≤ larger) :
    let short := execBlock ⟨{ config with maxIterations := limit }, state⟩ block
    let long := execBlock ⟨{ config with maxIterations := larger }, state⟩ block
    ((∀ n, short.1 ≠ .error (.iterationLimit n)) →
      long.1 = short.1 ∧ long.2.state = short.2.state) ∧
    ∀ n, short.1 = .error (.iterationLimit n) → short.2.pending <+: long.2.pending := by
  have hend : Prolonged (Stmt.runAll limit block state) (Stmt.runAll larger block state) :=
    (Stmt.outlastedBy_runAll h block).prolonged state
  simp only [execBlock, perform]
  generalize Stmt.runAll limit block state = p at hend ⊢
  generalize Stmt.runAll larger block state = q at hend ⊢
  cases hend with
  | same =>
      cases p with
      | ok value t => exact ⟨fun _ => ⟨rfl, rfl⟩, fun _ _ => List.prefix_refl _⟩
      | error failure t => exact ⟨fun _ => ⟨rfl, rfl⟩, fun _ _ => List.prefix_refl _⟩
  | stopped hlines =>
      refine ⟨fun hkept => absurd rfl (hkept _), fun _ _ => ?_⟩
      cases q with
      | ok value t => exact hlines
      | error failure t => exact hlines

theorem Session.execBlock_larger_limit_nested :
    let block : List Stmt := [.assign "1" (.text "aa"), .whileDo ⟨.var "1", .contains, .text "a"⟩
      [.print (.var "1"), .assign "2" (.text "b"),
        .whileDo ⟨.var "2", .contains, .text "b"⟩ [.assign "2" (.text "")],
        .assign "1" (.call "shiftl" [.var "1", .text "1"])]]
    let run (limit : Nat) := execBlock ⟨{ maxIterations := limit }, .initial⟩ block
    1 ≤ 2 ∧ (run 1).1 = .error (.iterationLimit 1) ∧ (run 1).2.pending <+: (run 2).2.pending ∧
      2 ≤ 3 ∧ (run 2).1 = .ok () ∧ (run 3).1 = (run 2).1 ∧
      (run 3).2.state = (run 2).2.state := by
  intro block run
  have hstopped : (run 1).1 = .error (.iterationLimit 1) := rfl
  have hdone : (run 2).1 = .ok () := rfl
  have hlater := (execBlock_larger_limit {} .initial block (Nat.le_succ 1)).2 1 hstopped
  have hsame := (execBlock_larger_limit {} .initial block (Nat.le_succ 2)).1 fun n hn => by
    rw [hdone] at hn
    cases hn
  exact ⟨Nat.le_succ 1, hstopped, hlater, Nat.le_succ 2, hdone, hsame⟩

end StringScript
