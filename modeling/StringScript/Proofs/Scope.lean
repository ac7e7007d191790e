import StringScript.Proofs.Names
import StringScript.Proofs.Outcome
import StringScript.Session

/-!
# Names in scope

A check of a program before it runs: every function that is called exists and gets its number of
arguments, every name that is read has been assigned on every way there, and every name that is
assigned is a numeral. A program that passes never fails because of a name.
-/

namespace StringScript

open Execution

/-- The failures that come from values and not from names: an argument that a function refuses, an
index out of bounds, or too many rounds of a loop. -/
def Failure.IsOfValues : Failure → Prop
  | invalidArgument .. | indexOutOfBounds .. | iterationLimit _ => True
  | undefinedVariable _ | invalidVariableName _ | unknownFunction _ | arityMismatch .. | parse _ =>
    False

/-! ### The check -/

mutual

/-- Whether each call in an expression names a function and has its number of arguments, and each
variable is in `scope`. -/
def Expr.isScoped (scope : Finset String) : Expr → Bool
  | .text _ => true
  | .var name => name ∈ scope
  | .call function args =>
    (Builtin.ofName? function).any (fun f => args.length = f.arity) && Expr.areScoped scope args

def Expr.areScoped (scope : Finset String) : List Expr → Bool
  | [] => true
  | arg :: args => arg.isScoped scope && Expr.areScoped scope args

end

def Condition.isScoped (scope : Finset String) (c : Condition) : Bool :=
  c.lhs.isScoped scope && c.rhs.isScoped scope

mutual

/-- The names in scope after a statement that runs in `scope`, or `none` if the check fails. -/
def Stmt.scopeAfter? (scope : Finset String) : Stmt → Option (Finset String)
  | .assign target e =>
    if isVarName target && e.isScoped scope then some (insert target scope) else none
  | .print e => if e.isScoped scope then some scope else none
  | .ifThen c body =>
    if c.isScoped scope then (Stmt.scopeAfterAll? scope body).map (· ∩ scope) else none
  | .ifThenElse c thenBody elseBody =>
    if c.isScoped scope then do
      let afterThen ← Stmt.scopeAfterAll? scope thenBody
      let afterElse ← Stmt.scopeAfterAll? scope elseBody
      some (afterThen ∩ afterElse)
    else none
  | .foreach _ var source body =>
    if isVarName var && source.isScoped scope then
      (Stmt.scopeAfterAll? (insert var scope) body).map fun _ => scope
    else none
  | .whileDo c body =>
    if c.isScoped scope then (Stmt.scopeAfterAll? scope body).map fun _ => scope else none

def Stmt.scopeAfterAll? (scope : Finset String) : List Stmt → Option (Finset String)
  | [] => some scope
  | stmt :: rest => do
    let next ← stmt.scopeAfter? scope
    Stmt.scopeAfterAll? next rest

end

/-! ### Values -/

/-- A computation that fails only because of values. -/
def FailsOnValues {α : Type} (x : Except Failure α) : Prop :=
  ∀ failure, x = .error failure → failure.IsOfValues

section FailsOnValues

variable {α β : Type}

theorem failsOnValues_ok (value : α) : FailsOnValues (.ok value) := by
  intro failure h
  cases h

theorem failsOnValues_bind {x : Except Failure α} {f : α → Except Failure β}
    (hx : FailsOnValues x) (hf : ∀ value, x = .ok value → FailsOnValues (f value)) :
    FailsOnValues (x >>= f) := by
  cases x with
  | ok value => exact hf value rfl
  | error failure =>
      intro failure' h
      cases h
      exact hx failure rfl

theorem Builtin.failsOnValues_digits (f : Builtin) (position : Nat) (arg : String) :
    FailsOnValues (f.digits position arg) := by
  unfold Builtin.digits
  split
  · exact failsOnValues_ok _
  · intro failure h
    cases h
    trivial

theorem Builtin.failsOnValues_count (f : Builtin) (position : Nat) (arg : String) :
    FailsOnValues (f.count position arg) := by
  have hdigits := f.failsOnValues_digits position arg
  unfold Builtin.count
  cases hd : f.digits position arg with
  | ok digits => exact failsOnValues_ok _
  | error failure =>
      intro failure' h
      cases h
      exact hdigits failure hd

/-- A function with its number of arguments can only refuse one of them, or miss an item. -/
theorem Builtin.failsOnValues_apply (f : Builtin) {args : List String}
    (h : args.length = f.arity) : FailsOnValues (f.apply args) := by
  cases f with
  | uppercase | lowercase | reverse | length =>
      obtain ⟨s, rfl⟩ := List.length_eq_one_iff.mp h
      exact failsOnValues_ok _
  | concat | split =>
      obtain ⟨s, t, rfl⟩ := List.length_eq_two.mp h
      exact failsOnValues_ok _
  | replace =>
      obtain ⟨s, old, new, rfl⟩ := List.length_eq_three.mp h
      exact failsOnValues_ok _
  | substring =>
      obtain ⟨s, start, stop, rfl⟩ := List.length_eq_three.mp h
      refine failsOnValues_bind (failsOnValues_count _ 2 start) fun _ _ => ?_
      exact failsOnValues_bind (failsOnValues_count _ 3 stop) fun _ _ => failsOnValues_ok _
  | «match» =>
      obtain ⟨s, pattern, rfl⟩ := List.length_eq_two.mp h
      rw [Builtin.apply]
      split
      · exact failsOnValues_ok _
      · intro failure hfailure
        cases hfailure
        trivial
  | get =>
      obtain ⟨s, index, rfl⟩ := List.length_eq_two.mp h
      refine failsOnValues_bind (failsOnValues_count _ 2 index) fun place _ => ?_
      split
      · exact failsOnValues_ok _
      · intro failure hfailure
        cases hfailure
        trivial
  | shiftLeft | shiftRight =>
      obtain ⟨s, n, rfl⟩ := List.length_eq_two.mp h
      exact failsOnValues_bind (failsOnValues_count _ 2 n) fun _ _ => failsOnValues_ok _
  | rotateLeft | rotateRight =>
      obtain ⟨s, n, rfl⟩ := List.length_eq_two.mp h
      exact failsOnValues_bind (failsOnValues_digits _ 2 n) fun _ _ => failsOnValues_ok _

end FailsOnValues

theorem Store.failsOnValues_lookup {store : Store} {name : String} (h : store.has name) :
    FailsOnValues (store.lookup name) := by
  obtain ⟨value, hvalue⟩ := Option.isSome_iff_exists.mp h
  unfold lookup
  rw [hvalue]
  exact failsOnValues_ok value

section Eval

variable {scope : Finset String} {store : Store}

mutual

theorem Expr.failsOnValues_eval (hstore : ∀ name ∈ scope, store.has name) :
    ∀ e : Expr, e.isScoped scope → FailsOnValues (e.eval store)
  | .text value, _ => by
    rw [Expr.eval]
    exact failsOnValues_ok value
  | .var name, h => by
    rw [Expr.eval]
    exact Store.failsOnValues_lookup (hstore name (by simpa [Expr.isScoped] using h))
  | .call function args, h => by
    rw [Expr.isScoped, Bool.and_eq_true, Option.any_eq_true] at h
    obtain ⟨⟨f, hf, harity⟩, hargs⟩ := h
    have hresolve : Builtin.resolve function args.length = .ok f := by
      unfold Builtin.resolve
      rw [hf]
      exact if_pos (of_decide_eq_true harity)
    rw [Expr.eval, hresolve]
    refine failsOnValues_bind (failsOnValues_ok f) fun f' hf' => ?_
    cases hf'
    refine failsOnValues_bind (Expr.failsOnValues_evalArgs hstore args hargs) fun values hvalues => ?_
    have hlength := Expr.length_of_evalArgs hvalues
    exact f.failsOnValues_apply (hlength.trans (of_decide_eq_true harity))

theorem Expr.failsOnValues_evalArgs (hstore : ∀ name ∈ scope, store.has name) :
    ∀ args : List Expr, Expr.areScoped scope args → FailsOnValues (Expr.evalArgs store args)
  | [], _ => by
    rw [Expr.evalArgs]
    exact failsOnValues_ok []
  | arg :: args, h => by
    rw [Expr.areScoped, Bool.and_eq_true] at h
    rw [Expr.evalArgs]
    refine failsOnValues_bind (arg.failsOnValues_eval hstore h.1) fun _ _ => ?_
    exact failsOnValues_bind (Expr.failsOnValues_evalArgs hstore args h.2) fun _ _ =>
      failsOnValues_ok _

end

theorem Condition.failsOnValues_eval (hstore : ∀ name ∈ scope, store.has name) {c : Condition}
    (h : c.isScoped scope) : FailsOnValues (c.eval store) := by
  rw [Condition.isScoped, Bool.and_eq_true] at h
  refine failsOnValues_bind (c.lhs.failsOnValues_eval hstore h.1) fun _ _ => ?_
  exact failsOnValues_bind (c.rhs.failsOnValues_eval hstore h.2) fun _ _ => failsOnValues_ok _

end Eval

/-! ### Runs -/

def State.Has (scope : Finset String) (s : State) : Prop := ∀ name ∈ scope, s.store.has name

/-- From a state with `scope` to one with `after`, unless it fails because of values. -/
def Execution.Extends {α : Type} (scope : Finset String) (x : Execution α)
    (after : Finset String) : Prop :=
  Ensures (State.Has scope) x (fun _ => State.Has after) (fun failure _ => failure.IsOfValues)

section Run

variable {limit : Nat} {scope after : Finset String}

theorem State.Has.mono {s : State} (h : s.Has after) (hsub : scope ⊆ after) : s.Has scope :=
  fun name hname => h name (hsub hname)

theorem Execution.extends_fromStore {α : Type} {read : Store → Except Failure α}
    (h : ∀ store : Store, (∀ name ∈ scope, store.has name) → FailsOnValues (read store)) :
    Extends scope (fromStore read) scope :=
  ensures_fromStore (fun _ _ hs _ => hs) fun s failure hs hfailure => h s.store hs failure hfailure

theorem Execution.extends_setVar (name value : String) :
    Extends scope (setVar name value) (insert name scope) := by
  intro s hs other hother
  unfold Store.has
  rw [Store.get?_set]
  split
  · rfl
  · next hne =>
      exact hs other ((Finset.mem_insert.mp hother).resolve_left (Ne.symm hne))

/-- A loop gives its variable back, so what was set before it is set after it. -/
theorem Execution.extends_loop {name : String} {body : Execution Unit} (items : List String)
    (hbody : Extends (insert name scope) body after) (hsub : insert name scope ⊆ after) :
    Extends scope (restoring name (forItems name body items)) scope := by
  have hround (item : String) :
      Extends scope (setVar name item >>= fun _ => body) scope := by
    refine ensures_bind (extends_setVar name item) fun _ s hs => ?_
    exact (hbody s hs).mono
      (fun _ _ ht => ht.mono ((Finset.subset_insert name scope).trans hsub)) fun _ _ hf => hf
  refine ensures_restoring fun s hs => ?_
  refine (ensures_forItems hround items s hs).mono (fun _ t ht other hother => ?_) fun _ _ hf => hf
  unfold Store.has
  rw [Store.get?_restore]
  split
  · next heq => exact heq ▸ hs other hother
  · exact ht other hother

mutual

theorem Stmt.subset_scopeAfter? :
    ∀ (stmt : Stmt) {scope after : Finset String}, stmt.scopeAfter? scope = some after →
      scope ⊆ after
  | .assign target e, scope, after, h => by
    simp only [Stmt.scopeAfter?, Option.ite_none_right_eq_some, Option.some.injEq] at h
    rw [← h.2]
    exact Finset.subset_insert target scope
  | .print e, scope, after, h => by
    simp only [Stmt.scopeAfter?, Option.ite_none_right_eq_some, Option.some.injEq] at h
    rw [h.2]
  | .ifThen c body, scope, after, h => by
    simp only [Stmt.scopeAfter?, Option.ite_none_right_eq_some, Option.map_eq_some_iff] at h
    obtain ⟨-, inner, hbody, rfl⟩ := h
    exact Finset.subset_inter (Stmt.subset_scopeAfterAll? body hbody) Finset.Subset.rfl
  | .ifThenElse c thenBody elseBody, scope, after, h => by
    simp only [Stmt.scopeAfter?, Option.ite_none_right_eq_some, Option.bind_eq_some_iff,
      Option.bind_eq_bind, Option.some.injEq] at h
    obtain ⟨-, afterThen, hthen, afterElse, helse, rfl⟩ := h
    exact Finset.subset_inter (Stmt.subset_scopeAfterAll? thenBody hthen)
      (Stmt.subset_scopeAfterAll? elseBody helse)
  | .foreach kind var source body, scope, after, h => by
    simp only [Stmt.scopeAfter?, Option.ite_none_right_eq_some, Option.map_eq_some_iff] at h
    obtain ⟨-, inner, -, rfl⟩ := h
    exact Finset.Subset.rfl
  | .whileDo c body, scope, after, h => by
    simp only [Stmt.scopeAfter?, Option.ite_none_right_eq_some, Option.map_eq_some_iff] at h
    obtain ⟨-, inner, -, rfl⟩ := h
    exact Finset.Subset.rfl

theorem Stmt.subset_scopeAfterAll? :
    ∀ (block : List Stmt) {scope after : Finset String},
      Stmt.scopeAfterAll? scope block = some after → scope ⊆ after
  | [], scope, after, h => by
    rw [Stmt.scopeAfterAll?, Option.some.injEq] at h
    rw [h]
  | stmt :: rest, scope, after, h => by
    simp only [Stmt.scopeAfterAll?, Option.bind_eq_bind, Option.bind_eq_some_iff] at h
    obtain ⟨next, hstmt, hrest⟩ := h
    exact (stmt.subset_scopeAfter? hstmt).trans (Stmt.subset_scopeAfterAll? rest hrest)

end

mutual

theorem Stmt.extends_run :
    ∀ (stmt : Stmt) {scope after : Finset String}, stmt.scopeAfter? scope = some after →
      Extends scope (stmt.run limit) after
  | .assign target e, scope, after, h => by
    simp only [Stmt.scopeAfter?, Option.ite_none_right_eq_some, Bool.and_eq_true,
      Option.some.injEq] at h
    obtain ⟨⟨htarget, he⟩, rfl⟩ := h
    rw [Stmt.run, checkName_of_isVarName htarget, pure_bind]
    exact ensures_bind (extends_fromStore fun _ hstore => e.failsOnValues_eval hstore he)
      fun value => extends_setVar target value
  | .print e, scope, after, h => by
    simp only [Stmt.scopeAfter?, Option.ite_none_right_eq_some, Option.some.injEq] at h
    obtain ⟨he, rfl⟩ := h
    rw [Stmt.run]
    exact ensures_bind (extends_fromStore fun _ hstore => e.failsOnValues_eval hstore he)
      fun line s hs => hs
  | .ifThen c body, scope, after, h => by
    simp only [Stmt.scopeAfter?, Option.ite_none_right_eq_some, Option.map_eq_some_iff] at h
    obtain ⟨hc, inner, hbody, rfl⟩ := h
    rw [Stmt.run]
    -- Either the body runs or nothing does, so only names of both scopes are known to be set.
    refine ensures_bind (extends_fromStore fun _ hstore => c.failsOnValues_eval hstore hc)
      fun _ => ensures_ite (fun _ s hs => ?_) (fun _ => ensures_pure fun s hs => ?_)
    · exact (Stmt.extends_runAll body hbody s hs).mono
        (fun _ _ ht => ht.mono Finset.inter_subset_left) fun _ _ hf => hf
    · exact hs.mono Finset.inter_subset_right
  | .ifThenElse c thenBody elseBody, scope, after, h => by
    simp only [Stmt.scopeAfter?, Option.ite_none_right_eq_some, Option.bind_eq_some_iff,
      Option.bind_eq_bind, Option.some.injEq] at h
    obtain ⟨hc, afterThen, hthen, afterElse, helse, rfl⟩ := h
    rw [Stmt.run]
    refine ensures_bind (extends_fromStore fun _ hstore => c.failsOnValues_eval hstore hc)
      fun _ => ensures_ite (fun _ s hs => ?_) (fun _ s hs => ?_)
    · exact (Stmt.extends_runAll thenBody hthen s hs).mono
        (fun _ _ ht => ht.mono Finset.inter_subset_left) fun _ _ hf => hf
    · exact (Stmt.extends_runAll elseBody helse s hs).mono
        (fun _ _ ht => ht.mono Finset.inter_subset_right) fun _ _ hf => hf
  | .foreach kind var source body, scope, after, h => by
    simp only [Stmt.scopeAfter?, Option.ite_none_right_eq_some, Bool.and_eq_true,
      Option.map_eq_some_iff] at h
    obtain ⟨⟨hvar, hsource⟩, inner, hbody, rfl⟩ := h
    rw [Stmt.run, checkName_of_isVarName hvar, pure_bind]
    refine ensures_bind (extends_fromStore fun _ hstore => source.failsOnValues_eval hstore hsource)
      fun text => ?_
    exact extends_loop _ (Stmt.extends_runAll body hbody) (Stmt.subset_scopeAfterAll? body hbody)
  | .whileDo c body, scope, after, h => by
    simp only [Stmt.scopeAfter?, Option.ite_none_right_eq_some, Option.map_eq_some_iff] at h
    obtain ⟨hc, inner, hbody, rfl⟩ := h
    rw [Stmt.run]
    refine ensures_repeatWhile
      (extends_fromStore fun _ hstore => c.failsOnValues_eval hstore hc) (fun s hs => ?_)
      (fun _ _ => trivial) limit
    exact (Stmt.extends_runAll body hbody s hs).mono
      (fun _ _ ht => ht.mono (Stmt.subset_scopeAfterAll? body hbody)) fun _ _ hf => hf

theorem Stmt.extends_runAll :
    ∀ (block : List Stmt) {scope after : Finset String},
      Stmt.scopeAfterAll? scope block = some after → Extends scope (Stmt.runAll limit block) after
  | [], scope, after, h => by
    rw [Stmt.scopeAfterAll?, Option.some.injEq] at h
    rw [Stmt.runAll]
    exact ensures_pure fun _ hs => h ▸ hs
  | stmt :: rest, scope, after, h => by
    simp only [Stmt.scopeAfterAll?, Option.bind_eq_bind, Option.bind_eq_some_iff] at h
    obtain ⟨next, hstmt, hrest⟩ := h
    rw [Stmt.runAll]
    exact ensures_bind (stmt.extends_run hstmt) fun _ => Stmt.extends_runAll rest hrest

end

end Run

/-- **A program in scope fails only because of values.** With every name in scope set, a block that
passes the check succeeds and leaves every name in scope after it set, or it fails because of an
argument, an index or the limit. -/
theorem Session.execBlock_of_scopeAfterAll? (s : Session) {block : List Stmt}
    {scope after : Finset String} (hblock : Stmt.scopeAfterAll? scope block = some after)
    (hscope : ∀ name ∈ scope, s.store.has name) :
    ((s.execBlock block).1 = .ok () ∧
      ∀ name ∈ after, (s.execBlock block).2.store.has name) ∨
    ∃ failure, (s.execBlock block).1 = .error failure ∧ failure.IsOfValues := by
  have hruns : Extends scope (Stmt.runAll s.config.maxIterations block) after :=
    Stmt.extends_runAll block hblock
  have hend := hruns s.state hscope
  unfold execBlock perform
  cases hrun : Stmt.runAll s.config.maxIterations block s.state with
  | ok value t =>
      rw [hrun] at hend
      exact .inl ⟨rfl, hend⟩
  | error failure t =>
      rw [hrun] at hend
      exact .inr ⟨failure, rfl, hend⟩

theorem Session.execBlock_of_scopeAfterAll?_shadowed :
    Stmt.scopeAfterAll? {"1"} [.foreach .chars "1" (.var "1") [.assign "2" (.var "1")],
      .assign "3" (.var "1"), .print (.call "get" [.var "3", .text "7"])] = some {"3", "1"} ∧
    (∀ name ∈ ({"1"} : Finset String), (Store.empty.set "1" "ab").has name) ∧
    let ended := (Session.mk {} ⟨Store.empty.set "1" "ab", #[]⟩).execBlock
      [.foreach .chars "1" (.var "1") [.assign "2" (.var "1")],
        .assign "3" (.var "1"), .print (.call "get" [.var "3", .text "7"])]
    (ended.1 = .ok () ∧ ∀ name ∈ ({"3", "1"} : Finset String), ended.2.store.has name) ∨
      ∃ failure, ended.1 = .error failure ∧ failure.IsOfValues := by
  have hblock : Stmt.scopeAfterAll? {"1"} [.foreach .chars "1" (.var "1") [.assign "2" (.var "1")],
      .assign "3" (.var "1"), .print (.call "get" [.var "3", .text "7"])] = some {"3", "1"} := by
    decide
  have hscope : ∀ name ∈ ({"1"} : Finset String), (Store.empty.set "1" "ab").has name := by
    simp [Store.has, Store.get?_set]
  exact ⟨hblock, hscope, execBlock_of_scopeAfterAll? _ hblock hscope⟩

end StringScript
