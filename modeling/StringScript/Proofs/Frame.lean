import StringScript.Proofs.Names
import StringScript.Proofs.Outcome

/-!
# What an execution leaves alone

A block changes no name but those that it assigns, and it unsets no name. Both hold however the
execution ends, since every loop gives its variable back on every way out.
-/

namespace StringScript

open Execution

/-- The store `t` comes from `s` by changes of names in `changed`, and nothing was unset. -/
structure Store.Framed (changed : Finset String) (s t : Store) : Prop where
  get?_eq : ∀ name ∉ changed, t.get? name = s.get? name
  has_of_has : ∀ name, s.has name → t.has name

namespace Store.Framed

variable {changed : Finset String} {s t u : Store}

theorem refl (changed : Finset String) (s : Store) : Framed changed s s :=
  ⟨fun _ _ => rfl, fun _ h => h⟩

theorem set {name : String} (h : Framed changed s t) (hname : name ∈ changed) (value : String) :
    Framed changed s (t.set name value) := by
  constructor
  · intro other hother
    have hne : name ≠ other := fun heq => hother (heq ▸ hname)
    rw [get?_set, if_neg hne]
    exact h.get?_eq other hother
  · intro other hother
    unfold has
    rw [get?_set]
    split
    · rfl
    · exact h.has_of_has other hother

/-- What happens to `name` between `t` and `u` does not count once its value in `t` is put back. -/
theorem restore {name : String} (hst : Framed changed s t)
    (htu : Framed (insert name changed) t u) :
    Framed changed s (u.restore name (t.get? name)) := by
  have hput (other : String) : (u.restore name (t.get? name)).get? other =
      if name = other then t.get? other else u.get? other := by
    rw [get?_restore]
    split
    · next heq => rw [heq]
    · rfl
  constructor
  · intro other hother
    rw [hput, ← hst.get?_eq other hother]
    split
    · rfl
    · next hne =>
        refine htu.get?_eq other fun hmem => hother ?_
        exact (Finset.mem_insert.mp hmem).resolve_left (Ne.symm hne)
  · intro other hother
    have ht := hst.has_of_has other hother
    unfold has
    rw [hput]
    split
    · exact ht
    · exact htu.has_of_has other ht

end Store.Framed

/-- Every end of the execution is framed, from any state that is. -/
def Execution.KeepsFrame {α : Type} (changed : Finset String) (s₀ : Store) (x : Execution α) :
    Prop :=
  Ensures (fun s => s₀.Framed changed s.store) x (fun _ s => s₀.Framed changed s.store)
    (fun _ s => s₀.Framed changed s.store)

section Run

variable {limit : Nat} {changed : Finset String} {s₀ : Store}

theorem Execution.keepsFrame_setVar {name : String} (hname : name ∈ changed) (value : String) :
    KeepsFrame changed s₀ (setVar name value) :=
  fun _ hs => hs.set hname value

theorem Execution.keepsFrame_emit (line : String) : KeepsFrame changed s₀ (emit line) :=
  fun _ hs => hs

theorem Execution.keepsFrame_loop {name : String} {body : Execution Unit} (items : List String)
    (hbody : ∀ t, KeepsFrame (insert name changed) t body) :
    KeepsFrame changed s₀ (restoring name (forItems name body items)) := by
  refine ensures_restoring fun s hs => ?_
  -- Inside the loop its variable counts as changed, from the store at the start of the loop on.
  have hitems : KeepsFrame (insert name changed) s.store (forItems name body items) :=
    ensures_forItems (fun item => ensures_bind
      (keepsFrame_setVar (Finset.mem_insert_self name changed) item) fun _ => hbody s.store) items
  have hend := hitems s (.refl _ _)
  exact hend.mono (fun _ _ ht => hs.restore ht) (fun _ _ ht => hs.restore ht)

mutual

theorem Stmt.keepsFrame_run :
    ∀ (stmt : Stmt) (changed : Finset String) (s₀ : Store), stmt.writes ⊆ changed →
      KeepsFrame changed s₀ (stmt.run limit)
  | .assign target e, changed, s₀, h => by
    have htarget : target ∈ changed := h (by simp [Stmt.writes])
    rw [Stmt.run]
    exact ensures_bind (ensures_checkName_self target) fun _ =>
      ensures_bind (ensures_fromStore_self _) fun value => keepsFrame_setVar htarget value
  | .print e, changed, s₀, _ => by
    rw [Stmt.run]
    exact ensures_bind (ensures_fromStore_self _) fun line => keepsFrame_emit line
  | .ifThen c body, changed, s₀, h => by
    rw [Stmt.writes] at h
    rw [Stmt.run]
    refine ensures_bind (ensures_fromStore_self _) fun _ => ensures_ite (fun _ => ?_) (fun _ => ?_)
    · exact Stmt.keepsFrame_runAll body changed s₀ h
    · exact ensures_pure fun _ hs => hs
  | .ifThenElse c thenBody elseBody, changed, s₀, h => by
    rw [Stmt.writes, Finset.union_subset_iff] at h
    rw [Stmt.run]
    refine ensures_bind (ensures_fromStore_self _) fun _ => ensures_ite (fun _ => ?_) (fun _ => ?_)
    · exact Stmt.keepsFrame_runAll thenBody changed s₀ h.1
    · exact Stmt.keepsFrame_runAll elseBody changed s₀ h.2
  | .foreach kind var source body, changed, s₀, h => by
    rw [Stmt.writes, ← Finset.subset_insert_iff] at h
    rw [Stmt.run]
    refine ensures_bind (ensures_checkName_self var) fun _ =>
      ensures_bind (ensures_fromStore_self _) fun text => ?_
    exact keepsFrame_loop _ fun t => Stmt.keepsFrame_runAll body _ t h
  | .whileDo c body, changed, s₀, h => by
    rw [Stmt.writes] at h
    rw [Stmt.run]
    exact ensures_repeatWhile (ensures_fromStore_self _) (Stmt.keepsFrame_runAll body changed s₀ h)
      (fun _ hs => hs) limit

theorem Stmt.keepsFrame_runAll :
    ∀ (block : List Stmt) (changed : Finset String) (s₀ : Store), Stmt.writesAll block ⊆ changed →
      KeepsFrame changed s₀ (Stmt.runAll limit block)
  | [], _, _, _ => by
    rw [Stmt.runAll]
    exact ensures_pure fun _ hs => hs
  | stmt :: rest, changed, s₀, h => by
    rw [Stmt.writesAll, Finset.union_subset_iff] at h
    rw [Stmt.runAll]
    exact ensures_bind (stmt.keepsFrame_run changed s₀ h.1) fun _ =>
      Stmt.keepsFrame_runAll rest changed s₀ h.2

end

end Run

/-- Whether a block succeeds or fails, it changes only names that it assigns outside the loops that
bind them, and a name that was set stays set. So every loop gives its variable back. -/
theorem Session.execBlock_frame (s : Session) :
    (∀ block : List Stmt,
      (∀ name ∉ Stmt.writesAll block,
        (s.execBlock block).2.store.get? name = s.store.get? name) ∧
      ∀ name, s.store.has name → (s.execBlock block).2.store.has name) ∧
    ∀ kind var source body,
      (s.execStmt (.foreach kind var source body)).2.store.get? var = s.store.get? var := by
  constructor
  · intro block
    have hframe : KeepsFrame (Stmt.writesAll block) s.store
        (Stmt.runAll s.config.maxIterations block) :=
      Stmt.keepsFrame_runAll block _ s.store (Finset.Subset.refl _)
    have hend : s.store.Framed (Stmt.writesAll block) (s.execBlock block).2.store :=
      state_perform (hframe s.state (.refl _ _))
    exact ⟨hend.get?_eq, hend.has_of_has⟩
  · intro kind var source body
    have hframe : KeepsFrame (Stmt.foreach kind var source body).writes s.store
        (Stmt.run s.config.maxIterations (.foreach kind var source body)) :=
      Stmt.keepsFrame_run _ _ s.store (Finset.Subset.refl _)
    have hend : s.store.Framed (Stmt.foreach kind var source body).writes
        (s.execStmt (.foreach kind var source body)).2.store :=
      state_perform (hframe s.state (.refl _ _))
    exact hend.get?_eq var (Finset.notMem_erase var _)

theorem Session.execBlock_frame_failing :
    "5" ∉ Stmt.writesAll [.foreach .chars "5" (.text "ab")
      [.assign "5" (.text "inner"), .foreach .chars "5" (.var "5") [], .print (.var "6")]] ∧
    (Store.empty.set "5" "outer").has "5" ∧
    let ended := (Session.mk {} ⟨Store.empty.set "5" "outer", #[]⟩).execBlock
      [.foreach .chars "5" (.text "ab")
        [.assign "5" (.text "inner"), .foreach .chars "5" (.var "5") [], .print (.var "6")]]
    ended.2.store.get? "5" = (Store.empty.set "5" "outer").get? "5" ∧ ended.2.store.has "5" := by
  have hwrites : "5" ∉ Stmt.writesAll [.foreach .chars "5" (.text "ab")
      [.assign "5" (.text "inner"), .foreach .chars "5" (.var "5") [], .print (.var "6")]] := by
    decide
  have hset : (Store.empty.set "5" "outer").has "5" := by simp [Store.has, Store.get?_set]
  have hframe := (execBlock_frame (Session.mk {} ⟨Store.empty.set "5" "outer", #[]⟩)).1
    [.foreach .chars "5" (.text "ab")
      [.assign "5" (.text "inner"), .foreach .chars "5" (.var "5") [], .print (.var "6")]]
  exact ⟨hwrites, hset, hframe.1 "5" hwrites, hframe.2 "5" hset⟩

end StringScript
