import Mathlib.Data.Finset.Disjoint
import StringScript.Proofs.Frame
import StringScript.Proofs.Influence

/-!
# Blocks in either order

A block that prints nothing leaves behind only the names that it assigns. If another block neither
reads nor assigns any of these, then it runs after the first as it would have run before. So two
blocks that are independent of each other can change places, even where they use the same variable
for their loops: each loop gives its variable back.
-/

namespace StringScript

open Execution

/-! ### Blocks that print nothing -/

mutual

def Stmt.isSilent : Stmt → Bool
  | .assign .. => true
  | .print _ => false
  | .ifThen _ body => Stmt.areSilent body
  | .ifThenElse _ thenBody elseBody => Stmt.areSilent thenBody && Stmt.areSilent elseBody
  | .foreach _ _ _ body => Stmt.areSilent body
  | .whileDo _ body => Stmt.areSilent body

def Stmt.areSilent : List Stmt → Bool
  | [] => true
  | stmt :: rest => stmt.isSilent && Stmt.areSilent rest

end

/-- Every end of the execution has the lines pending that were pending at its start. -/
def Execution.KeepsOutput {α : Type} (lines : Array String) (x : Execution α) : Prop :=
  Ensures (fun s => s.output = lines) x (fun _ s => s.output = lines)
    (fun _ s => s.output = lines)

section Run

variable {limit : Nat} {lines : Array String}

theorem Execution.keepsOutput_setVar (name value : String) :
    KeepsOutput lines (setVar name value) :=
  fun _ hs => hs

mutual

theorem Stmt.keepsOutput_run : ∀ stmt : Stmt, stmt.isSilent → KeepsOutput lines (stmt.run limit)
  | .assign target e, _ => by
    rw [Stmt.run]
    exact ensures_bind (ensures_checkName_self target) fun _ =>
      ensures_bind (ensures_fromStore_self _) fun value => keepsOutput_setVar target value
  | .print e, h => by
    rw [Stmt.isSilent] at h
    cases h
  | .ifThen c body, h => by
    rw [Stmt.isSilent] at h
    rw [Stmt.run]
    refine ensures_bind (ensures_fromStore_self _) fun _ => ensures_ite (fun _ => ?_) (fun _ => ?_)
    · exact Stmt.keepsOutput_runAll body h
    · exact ensures_pure fun _ hs => hs
  | .ifThenElse c thenBody elseBody, h => by
    rw [Stmt.isSilent, Bool.and_eq_true] at h
    rw [Stmt.run]
    refine ensures_bind (ensures_fromStore_self _) fun _ => ensures_ite (fun _ => ?_) (fun _ => ?_)
    · exact Stmt.keepsOutput_runAll thenBody h.1
    · exact Stmt.keepsOutput_runAll elseBody h.2
  | .foreach kind var source body, h => by
    rw [Stmt.isSilent] at h
    rw [Stmt.run]
    refine ensures_bind (ensures_checkName_self var) fun _ =>
      ensures_bind (ensures_fromStore_self _) fun text => ?_
    have hitems : KeepsOutput lines
        (forItems var (Stmt.runAll limit body) (kind.elements text)) :=
      ensures_forItems (fun item => ensures_bind (keepsOutput_setVar var item) fun _ =>
        Stmt.keepsOutput_runAll body h) _
    exact ensures_restoring fun s hs => (hitems s hs).mono (fun _ _ ht => ht) (fun _ _ ht => ht)
  | .whileDo c body, h => by
    rw [Stmt.isSilent] at h
    rw [Stmt.run]
    exact ensures_repeatWhile (ensures_fromStore_self _) (Stmt.keepsOutput_runAll body h)
      (fun _ hs => hs) limit

theorem Stmt.keepsOutput_runAll :
    ∀ block : List Stmt, Stmt.areSilent block → KeepsOutput lines (Stmt.runAll limit block)
  | [], _ => by
    rw [Stmt.runAll]
    exact ensures_pure fun _ hs => hs
  | stmt :: rest, h => by
    rw [Stmt.areSilent, Bool.and_eq_true] at h
    rw [Stmt.runAll]
    exact ensures_bind (stmt.keepsOutput_run h.1) fun _ => Stmt.keepsOutput_runAll rest h.2

end

end Run

/-! ### A block after another -/

namespace Session

variable {s : Session} {first second : List Stmt}

theorem ext_parts {s t : Session} (hconfig : s.config = t.config) (hstore : s.store = t.store)
    (houtput : s.state.output = t.state.output) : s = t := by
  obtain ⟨config, store, output⟩ := s
  obtain ⟨config', store', output'⟩ := t
  cases hconfig
  cases hstore
  cases houtput
  rfl

theorem framed_execBlock (s : Session) (block : List Stmt) :
    s.store.Framed (Stmt.writesAll block) (s.execBlock block).2.store := by
  have hframe : KeepsFrame (Stmt.writesAll block) s.store
      (Stmt.runAll s.config.maxIterations block) :=
    Stmt.keepsFrame_runAll block _ s.store (Finset.Subset.refl _)
  exact state_perform (P := fun t => s.store.Framed _ t.store) (hframe s.state (.refl _ _))

theorem output_execBlock {block : List Stmt} (h : Stmt.areSilent block) :
    (s.execBlock block).2.state.output = s.state.output := by
  have hkeeps : KeepsOutput s.state.output (Stmt.runAll s.config.maxIterations block) :=
    Stmt.keepsOutput_runAll block h
  exact state_perform (P := fun t => t.output = s.state.output) (hkeeps s.state rfl)

/-- The second block has the result that it has without the first, and leaves the same state behind
but for the names that the first assigns. -/
theorem execBlock_after (hsilent : Stmt.areSilent first)
    (hreads : Disjoint (Stmt.writesAll first) (Stmt.readsAll second)) :
    ((s.execBlock first).2.execBlock second).1 = (s.execBlock second).1 ∧
      (s.execBlock second).2.state.AgreeOn {name | name ∉ Stmt.writesAll first}
        ((s.execBlock first).2.execBlock second).2.state := by
  have hstate : s.state.AgreeOn {name | name ∉ Stmt.writesAll first} (s.execBlock first).2.state :=
    ⟨output_execBlock hsilent, (s.framed_execBlock first).get?_eq⟩
  refine execBlock_agreeOn (s.config_perform _) hstate fun name hname => ?_
  exact Finset.disjoint_right.mp hreads hname

/-- **Independent blocks commute.** Let two blocks print nothing, and neither assign a name that the
other reads or assigns. If each succeeds from a state, then from there they succeed one after the
other in either order, and both orders end alike. -/
theorem execBlock_comm (hfirst : Stmt.areSilent first) (hsecond : Stmt.areSilent second)
    (hreads : Disjoint (Stmt.writesAll first) (Stmt.readsAll second))
    (hwrites : Disjoint (Stmt.writesAll first) (Stmt.writesAll second))
    (hreads' : Disjoint (Stmt.writesAll second) (Stmt.readsAll first))
    (hok : (s.execBlock first).1 = .ok ()) (hok' : (s.execBlock second).1 = .ok ()) :
    ((s.execBlock first).2.execBlock second).1 = .ok () ∧
      ((s.execBlock second).2.execBlock first).1 = .ok () ∧
      ((s.execBlock first).2.execBlock second).2 = ((s.execBlock second).2.execBlock first).2 := by
  obtain ⟨hresult, hend⟩ := execBlock_after (s := s) hfirst hreads
  obtain ⟨hresult', hend'⟩ := execBlock_after (s := s) hsecond hreads'
  refine ⟨hresult.trans hok', hresult'.trans hok, ext_parts ?_ ?_ ?_⟩
  · simp only [execBlock, config_perform]
  · ext1 name
    -- A name that one block assigns has the value that this block alone gives it.
    by_cases hname : name ∈ Stmt.writesAll first
    · have hother : name ∉ Stmt.writesAll second := Finset.disjoint_left.mp hwrites hname
      calc ((s.execBlock first).2.execBlock second).2.store.get? name
        _ = (s.execBlock first).2.store.get? name :=
            ((s.execBlock first).2.framed_execBlock second).get?_eq name hother
        _ = ((s.execBlock second).2.execBlock first).2.store.get? name :=
            (hend'.get?_eq name hother).symm
    · calc ((s.execBlock first).2.execBlock second).2.store.get? name
        _ = (s.execBlock second).2.store.get? name := hend.get?_eq name hname
        _ = ((s.execBlock second).2.execBlock first).2.store.get? name :=
            (((s.execBlock second).2.framed_execBlock first).get?_eq name hname).symm
  · rw [hend.output_eq, hend'.output_eq, output_execBlock hfirst, output_execBlock hsecond]

/-- Both blocks loop over `5`, and the first over a name that the second reads. -/
theorem execBlock_comm_shared_loops :
    let first : List Stmt := [.foreach .chars "5" (.text "ab")
      [.foreach .chars "1" (.var "5") [.assign "3" (.call "concat" [.var "5", .var "1"])]]]
    let second : List Stmt := [.foreach .chars "5" (.var "1")
      [.assign "4" (.var "5"), .assign "5" (.text "")]]
    let s : Session := ⟨{}, Store.empty.set "1" "xy", #["before"]⟩
    Stmt.areSilent first ∧ Stmt.areSilent second ∧
      Disjoint (Stmt.writesAll first) (Stmt.readsAll second) ∧
      Disjoint (Stmt.writesAll first) (Stmt.writesAll second) ∧
      Disjoint (Stmt.writesAll second) (Stmt.readsAll first) ∧
      (s.execBlock first).1 = .ok () ∧ (s.execBlock second).1 = .ok () ∧
      ((s.execBlock first).2.execBlock second).1 = .ok () ∧
      ((s.execBlock second).2.execBlock first).1 = .ok () ∧
      ((s.execBlock first).2.execBlock second).2 =
        ((s.execBlock second).2.execBlock first).2 := by
  intro first second s
  have hreads : Disjoint (Stmt.writesAll first) (Stmt.readsAll second) := by decide
  have hwrites : Disjoint (Stmt.writesAll first) (Stmt.writesAll second) := by decide
  have hreads' : Disjoint (Stmt.writesAll second) (Stmt.readsAll first) := by decide
  exact ⟨rfl, rfl, hreads, hwrites, hreads', rfl, rfl,
    execBlock_comm rfl rfl hreads hwrites hreads' rfl rfl⟩

end Session

end StringScript
