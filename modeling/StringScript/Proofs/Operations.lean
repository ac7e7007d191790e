import StringScript.Proofs.Grammar.Literals
import StringScript.Proofs.Intact
import StringScript.Proofs.Outcome
import StringScript.Session

/-!
# The operations of a run

Evaluating calls functions, and a loop may be told to go over the characters of a text. Literals have
no separators, so a run keeps every value and every line intact as long as each of these operations
leaves arrays whole.
-/

namespace StringScript

open ArrayText (separator IsIntact)
open Execution (Ends)

inductive Operation
  /-- A function applied to the values of its arguments. -/
  | call (f : Builtin) (args : List String)
  /-- The characters of a text, for a loop that asks for them. -/
  | characters (text : String)
deriving Repr, DecidableEq

def Operation.sparesArrays : Operation → Bool
  | call f args => f.sparesArrays args
  | characters text => separator ∉ text.toList

/-- The values of all variables are intact. -/
def Store.IsIntact (s : Store) : Prop :=
  ∀ name value, s.get? name = some value → ArrayText.IsIntact value

/-- The values of all variables and the pending lines are intact. -/
structure State.IsIntact (s : State) : Prop where
  store : s.store.IsIntact
  output : ∀ line ∈ s.output.toList, ArrayText.IsIntact line

/-! ### Expressions -/

mutual

/-- The operations of an evaluation, up to the first failure. -/
def Expr.operations (store : Store) : Expr → List Operation
  | .text _ | .var _ => []
  | .call function args =>
    match Builtin.resolve function args.length with
    | .error _ => []
    | .ok f =>
      Expr.argOperations store args ++
        match Expr.evalArgs store args with
        | .error _ => []
        | .ok values => [.call f values]

def Expr.argOperations (store : Store) : List Expr → List Operation
  | [] => []
  | arg :: args =>
    arg.operations store ++
      match arg.eval store with
      | .error _ => []
      | .ok _ => Expr.argOperations store args

end

section Eval

variable {store : Store}

mutual

theorem Expr.isIntact_of_eval (hstore : store.IsIntact) :
    ∀ (e : Expr) {value : String}, (∀ literal ∈ e.literals, separator ∉ literal.toList) →
      (∀ operation ∈ e.operations store, operation.sparesArrays) → e.eval store = .ok value →
        IsIntact value
  | .text _, value, hliterals, _, h => by
    rw [Expr.eval] at h
    cases h
    exact .inl (hliterals _ (by simp [Expr.literals]))
  | .var name, value, _, _, h => by
    rw [Expr.eval, Store.lookup] at h
    split at h
    · next found hfound =>
        cases h
        exact hstore name value hfound
    · cases h
  | .call function args, value, hliterals, hspares, h => by
    rw [Expr.eval] at h
    obtain ⟨f, hresolve, h⟩ := Builtin.bind_eq_ok_iff.mp h
    obtain ⟨values, hvalues, happly⟩ := Builtin.bind_eq_ok_iff.mp h
    simp only [Expr.operations, hresolve, hvalues, List.forall_mem_append,
      List.forall_mem_singleton] at hspares
    rw [Expr.literals] at hliterals
    have harity : values.length = f.arity := by
      rw [Expr.length_of_evalArgs hvalues, Builtin.arity_of_resolve hresolve]
    have hargs := Expr.isIntact_of_evalArgs hstore args hliterals hspares.1 hvalues
    exact Builtin.isIntact_of_apply harity hspares.2 hargs happly

theorem Expr.isIntact_of_evalArgs (hstore : store.IsIntact) :
    ∀ (args : List Expr) {values : List String},
      (∀ literal ∈ Expr.argLiterals args, separator ∉ literal.toList) →
      (∀ operation ∈ Expr.argOperations store args, operation.sparesArrays) →
      Expr.evalArgs store args = .ok values → ∀ value ∈ values, IsIntact value
  | [], values, _, _, h => by
    rw [Expr.evalArgs] at h
    cases h
    simp
  | arg :: args, values, hliterals, hspares, h => by
    rw [Expr.evalArgs] at h
    obtain ⟨first, hfirst, h⟩ := Builtin.bind_eq_ok_iff.mp h
    obtain ⟨rest, hrest, h⟩ := Builtin.bind_eq_ok_iff.mp h
    cases h
    simp only [Expr.argOperations, hfirst, List.forall_mem_append] at hspares
    simp only [Expr.argLiterals, List.forall_mem_append] at hliterals
    refine List.forall_mem_cons.mpr ⟨?_, ?_⟩
    · exact Expr.isIntact_of_eval hstore arg hliterals.1 hspares.1 hfirst
    · exact Expr.isIntact_of_evalArgs hstore args hliterals.2 hspares.2 hrest

end

end Eval

/-! ### Statements -/

namespace Execution

/-- The operations of what comes after `x`, if `x` succeeds. -/
def operationsAfter {α : Type} (x : Execution α) (later : α → State → List Operation) :
    State → List Operation := fun s =>
  match x s with
  | .ok value t => later value t
  | .error _ _ => []

def itemOperations (name : String) (body : Execution Unit) (inBody : State → List Operation) :
    List String → State → List Operation
  | [] => fun _ => []
  | item :: rest =>
    (setVar name item).operationsAfter fun _ s =>
      inBody s ++ body.operationsAfter (fun _ => itemOperations name body inBody rest) s

def whileOperations (condition : Execution Bool) (body : Execution Unit)
    (inBody : State → List Operation) : (more : Nat) → State → List Operation
  | 0 => fun _ => []
  | more + 1 => condition.operationsAfter fun holds =>
    if holds then fun s =>
      inBody s ++ body.operationsAfter (fun _ => whileOperations condition body inBody more) s
    else fun _ => []

end Execution

def Iteration.operations (text : String) : Iteration → List Operation
  | chars => [.characters text]
  | items | auto => []

open Execution in
mutual

/-- The operations of a run, up to the first failure. Those of conditions do not count, since what
they give is neither kept nor printed. -/
def Stmt.operations (limit : Nat) : Stmt → State → List Operation
  | .assign target e => (checkName target).operationsAfter fun _ s => e.operations s.store
  | .print e => fun s => e.operations s.store
  | .ifThen c body => (check c).operationsAfter fun holds =>
    if holds then Stmt.operationsAll limit body else fun _ => []
  | .ifThenElse c thenBody elseBody => (check c).operationsAfter fun holds =>
    if holds then Stmt.operationsAll limit thenBody else Stmt.operationsAll limit elseBody
  | .foreach kind var source body => (checkName var).operationsAfter fun _ s =>
    source.operations s.store ++ (evaluate source).operationsAfter (fun text t =>
      kind.operations text ++ itemOperations var (Stmt.runAll limit body)
        (Stmt.operationsAll limit body) (kind.elements text) t) s
  | .whileDo c body =>
    whileOperations (check c) (Stmt.runAll limit body) (Stmt.operationsAll limit body) limit

def Stmt.operationsAll (limit : Nat) : List Stmt → State → List Operation
  | [] => fun _ => []
  | stmt :: rest => fun s =>
    stmt.operations limit s ++
      (stmt.run limit).operationsAfter (fun _ => Stmt.operationsAll limit rest) s

end

namespace Execution

variable {α β : Type}

/-- From an intact state and by operations that leave arrays whole, the execution ends in an intact
state, and with a value of `Q` if it succeeds. -/
def KeepsIntact (operations : State → List Operation) (x : Execution α) (Q : α → Prop) : Prop :=
  ∀ s : State, s.IsIntact → (∀ operation ∈ operations s, operation.sparesArrays) →
    Ends (fun value t => Q value ∧ t.IsIntact) (fun _ t => t.IsIntact) (x s)

section Rules

variable {first inBody : State → List Operation} {Q : α → Prop} {R : β → Prop}

theorem keepsIntact_pure {value : α} (h : Q value) : KeepsIntact first (pure value) Q :=
  fun _ hs _ => ⟨h, hs⟩

theorem keepsIntact_throw (failure : Failure) : KeepsIntact first (throw failure) Q :=
  fun _ hs _ => hs

theorem keepsIntact_bind {x : Execution α} {f : α → Execution β}
    {later : α → State → List Operation} (hx : KeepsIntact first x Q)
    (hf : ∀ value, Q value → KeepsIntact (later value) (f value) R) :
    KeepsIntact (fun s => first s ++ x.operationsAfter later s) (x >>= f) R := by
  intro s hs hspares
  obtain ⟨hfirst, hlater⟩ := List.forall_mem_append.mp hspares
  have hend := hx s hs hfirst
  unfold operationsAfter at hlater
  rw [bind_apply]
  generalize x s = r at hend hlater ⊢
  cases r with
  | ok value t => exact hf value hend.1 t hend.2 hlater
  | error failure t => exact hend

theorem keepsIntact_bind_right {x : Execution α} {f : α → Execution β}
    {later : α → State → List Operation} (hx : KeepsIntact (fun _ => []) x Q)
    (hf : ∀ value, Q value → KeepsIntact (later value) (f value) R) :
    KeepsIntact (x.operationsAfter later) (x >>= f) R :=
  keepsIntact_bind hx hf

theorem keepsIntact_bind_left {x : Execution α} {f : α → Execution β}
    (hx : KeepsIntact first x Q)
    (hf : ∀ value, Q value → KeepsIntact (fun _ => []) (f value) R) :
    KeepsIntact first (x >>= f) R := by
  intro s hs hspares
  have hnone : x.operationsAfter (fun _ _ => []) s = [] := by
    unfold operationsAfter
    split <;> rfl
  refine keepsIntact_bind hx hf s hs (List.forall_mem_append.mpr ⟨hspares, ?_⟩)
  rw [hnone]
  exact List.forall_mem_nil _

theorem keepsIntact_fromStore (inRead : Store → List Operation)
    {read : Store → Except Failure α}
    (h : ∀ store value, store.IsIntact →
      (∀ operation ∈ inRead store, operation.sparesArrays) → read store = .ok value → Q value) :
    KeepsIntact (fun s => inRead s.store) (fromStore read) Q := by
  intro s hs hspares
  unfold fromStore
  cases hread : read s.store with
  | ok value => exact ⟨h s.store value hs.store hspares hread, hs⟩
  | error failure => exact hs

theorem keepsIntact_evaluate {e : Expr}
    (hliterals : ∀ literal ∈ e.literals, separator ∉ literal.toList) :
    KeepsIntact (fun s => e.operations s.store) (evaluate e) IsIntact :=
  keepsIntact_fromStore (fun store => e.operations store) fun _ _ hstore hspares =>
    e.isIntact_of_eval hstore hliterals hspares

theorem keepsIntact_check (c : Condition) : KeepsIntact (fun _ => []) (check c) fun _ => True :=
  keepsIntact_fromStore (fun _ => []) fun _ _ _ _ _ => trivial

theorem keepsIntact_checkName (name : String) :
    KeepsIntact (fun _ => []) (checkName name) fun _ => True := by
  unfold checkName
  split
  · exact keepsIntact_pure trivial
  · exact keepsIntact_throw _

theorem keepsIntact_ite {condition : Bool} {x y : Execution β}
    {inX inY : State → List Operation} (hx : KeepsIntact inX x R) (hy : KeepsIntact inY y R) :
    KeepsIntact (if condition then inX else inY) (if condition then x else y) R := by
  split
  · exact hx
  · exact hy

theorem keepsIntact_setVar {name value : String} (h : IsIntact value) :
    KeepsIntact first (setVar name value) fun _ => True := by
  refine fun s hs _ => ⟨trivial, fun other found hfound => ?_, hs.output⟩
  rw [Store.get?_set] at hfound
  split at hfound
  · cases hfound
    exact h
  · exact hs.store other found hfound

theorem keepsIntact_emit {line : String} (h : IsIntact line) :
    KeepsIntact first (emit line) fun _ => True := by
  refine fun s hs _ => ⟨trivial, hs.store, fun other hother => ?_⟩
  rw [Array.toList_push] at hother
  rcases List.mem_append.mp hother with hearlier | hlast
  · exact hs.output other hearlier
  · exact List.mem_singleton.mp hlast ▸ h

theorem keepsIntact_restoring {name : String} {body : Execution Unit} {Q : Unit → Prop}
    (h : KeepsIntact inBody body Q) : KeepsIntact inBody (restoring name body) Q := by
  intro s hs hspares
  have hput {t : State} (ht : t.IsIntact) :
      State.IsIntact { t with store := t.store.restore name (s.store.get? name) } := by
    refine ⟨fun other found hfound => ?_, ht.output⟩
    rw [Store.get?_restore] at hfound
    split at hfound
    · exact hs.store name found hfound
    · exact ht.store other found hfound
  have hend := h s hs hspares
  unfold restoring
  generalize body s = r at hend ⊢
  cases r with
  | ok value t => exact ⟨hend.1, hput hend.2⟩
  | error failure t => exact hput hend

theorem keepsIntact_forItems (name : String) {body : Execution Unit}
    (hbody : KeepsIntact inBody body fun _ => True) {items : List String}
    (hitems : ∀ item ∈ items, IsIntact item) :
    KeepsIntact (itemOperations name body inBody items) (forItems name body items)
      fun _ => True := by
  induction items with
  | nil => exact keepsIntact_pure trivial
  | cons item rest ih =>
      obtain ⟨hitem, hrest⟩ := List.forall_mem_cons.mp hitems
      exact keepsIntact_bind_right (keepsIntact_setVar hitem) fun _ _ =>
        keepsIntact_bind hbody fun _ _ => ih hrest

theorem keepsIntact_repeatWhile {limit : Nat} {condition : Execution Bool}
    {body : Execution Unit} (hcondition : KeepsIntact (fun _ => []) condition fun _ => True)
    (hbody : KeepsIntact inBody body fun _ => True) (more : Nat) :
    KeepsIntact (whileOperations condition body inBody more)
      (repeatWhile limit condition body more) fun _ => True := by
  induction more with
  | zero =>
      refine keepsIntact_bind_left hcondition fun holds _ => ?_
      split
      · exact keepsIntact_throw _
      · exact keepsIntact_pure trivial
  | succ more ih =>
      exact keepsIntact_bind_right hcondition fun holds _ =>
        keepsIntact_ite (keepsIntact_bind hbody fun _ _ => ih) (keepsIntact_pure trivial)

end Rules

end Execution

section Run

open Execution

theorem Iteration.isIntact_of_mem_elements {kind : Iteration} {text item : String}
    (htext : ArrayText.IsIntact text)
    (hspares : ∀ operation ∈ kind.operations text, operation.sparesArrays)
    (hitem : item ∈ kind.elements text) : ArrayText.IsIntact item := by
  have hcharacters (hfree : separator ∉ text.toList) (h : item ∈ characters text) :
      ArrayText.IsIntact item := by
    obtain ⟨c, hc, rfl⟩ := List.mem_map.mp h
    exact ArrayText.isIntact_of_subset hfree (List.cons_subset.mpr ⟨hc, List.nil_subset _⟩)
  have hitems (h : item ∈ ArrayText.decode text) : ArrayText.IsIntact item :=
    .inl (htext.separator_notMem_item h)
  cases kind with
  | chars =>
      have hfree := hspares (.characters text) (List.mem_singleton_self _)
      exact hcharacters (of_decide_eq_true hfree) hitem
  | items => exact hitems hitem
  | auto =>
      rw [Iteration.elements] at hitem
      split at hitem
      · exact hitems hitem
      · next hplain => exact hcharacters (htext.resolve_right hplain) hitem

variable {limit : Nat}

mutual

theorem Stmt.keepsIntact_run :
    ∀ stmt : Stmt, (∀ literal ∈ stmt.literals, separator ∉ literal.toList) →
      KeepsIntact (stmt.operations limit) (stmt.run limit) fun _ => True
  | .assign target e, h => by
    rw [Stmt.literals] at h
    rw [Stmt.run, Stmt.operations]
    refine keepsIntact_bind_right (keepsIntact_checkName target) fun _ _ => ?_
    exact keepsIntact_bind_left (keepsIntact_evaluate h) fun _ hvalue => keepsIntact_setVar hvalue
  | .print e, h => by
    rw [Stmt.literals] at h
    rw [Stmt.run, Stmt.operations]
    exact keepsIntact_bind_left (keepsIntact_evaluate h) fun _ hline => keepsIntact_emit hline
  | .ifThen c body, h => by
    simp only [Stmt.literals, List.forall_mem_append] at h
    rw [Stmt.run, Stmt.operations]
    refine keepsIntact_bind_right (keepsIntact_check c) fun holds _ => keepsIntact_ite ?_ ?_
    · exact Stmt.keepsIntact_runAll body h.2
    · exact keepsIntact_pure trivial
  | .ifThenElse c thenBody elseBody, h => by
    simp only [Stmt.literals, List.forall_mem_append] at h
    rw [Stmt.run, Stmt.operations]
    refine keepsIntact_bind_right (keepsIntact_check c) fun holds _ => keepsIntact_ite ?_ ?_
    · exact Stmt.keepsIntact_runAll thenBody h.2.1
    · exact Stmt.keepsIntact_runAll elseBody h.2.2
  | .foreach kind var source body, h => by
    simp only [Stmt.literals, List.forall_mem_append] at h
    rw [Stmt.run, Stmt.operations]
    refine keepsIntact_bind_right (keepsIntact_checkName var) fun _ _ => ?_
    refine keepsIntact_bind (keepsIntact_evaluate h.1) fun text htext s hs hspares => ?_
    obtain ⟨hkind, hloop⟩ := List.forall_mem_append.mp hspares
    have hbody := Stmt.keepsIntact_runAll body h.2
    have hitems := keepsIntact_forItems var hbody fun item =>
      Iteration.isIntact_of_mem_elements htext hkind
    exact keepsIntact_restoring hitems s hs hloop
  | .whileDo c body, h => by
    simp only [Stmt.literals, List.forall_mem_append] at h
    rw [Stmt.run, Stmt.operations]
    exact keepsIntact_repeatWhile (keepsIntact_check c) (Stmt.keepsIntact_runAll body h.2) limit

theorem Stmt.keepsIntact_runAll :
    ∀ block : List Stmt, (∀ literal ∈ Stmt.literalsAll block, separator ∉ literal.toList) →
      KeepsIntact (Stmt.operationsAll limit block) (Stmt.runAll limit block) fun _ => True
  | [], _ => by
    rw [Stmt.runAll]
    exact keepsIntact_pure trivial
  | stmt :: rest, h => by
    simp only [Stmt.literalsAll, List.forall_mem_append] at h
    rw [Stmt.runAll, Stmt.operationsAll]
    exact keepsIntact_bind (stmt.keepsIntact_run h.1) fun _ _ => Stmt.keepsIntact_runAll rest h.2

end

end Run

end StringScript
