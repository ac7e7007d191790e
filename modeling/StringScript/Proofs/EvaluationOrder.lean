import StringScript.Expr.Eval

/-!
# The order of an evaluation

An expression can be flattened to steps on a stack of values. A call is checked before the steps of
its arguments, these come from left to right, and the function is applied after them. Evaluating the
expression is taking these steps, up to the first that fails.
-/

namespace StringScript

inductive Step
  | push (value : String)
  | load (name : String)
  /-- Checks that `function` is one and takes `args` arguments. -/
  | check (function : String) (args : Nat)
  /-- Applies `function` to the `args` values pushed last, the last one being its last argument. -/
  | apply (function : String) (args : Nat)
deriving Repr, DecidableEq

mutual

def Expr.steps : Expr → List Step
  | .text value => [.push value]
  | .var name => [.load name]
  | .call function args =>
    .check function args.length :: (Expr.argSteps args ++ [.apply function args.length])

def Expr.argSteps : List Expr → List Step
  | [] => []
  | arg :: args => arg.steps ++ Expr.argSteps args

end

namespace Step

/-- The stack after a step; the value pushed last is the first of the list. -/
def run (store : Store) (stack : List String) : Step → Except Failure (List String)
  | push value => .ok (value :: stack)
  | load name =>
    match store.get? name with
    | some value => .ok (value :: stack)
    | none => .error (.undefinedVariable name)
  | check function args =>
    match Builtin.ofName? function with
    | some f => if args = f.arity then .ok stack else .error (.arityMismatch f args)
    | none => .error (.unknownFunction function)
  | apply function args =>
    match Builtin.ofName? function with
    | some f => (f.apply (stack.take args).reverse).map (· :: stack.drop args)
    | none => .error (.unknownFunction function)

def runAll (store : Store) (steps : List Step) (stack : List String) :
    Except Failure (List String) :=
  steps.foldlM (run store) stack

section RunAll

variable {store : Store} {stack : List String} {failure : Failure}

theorem runAll_append (first second : List Step) :
    runAll store (first ++ second) stack =
      runAll store first stack >>= fun between => runAll store second between :=
  List.foldlM_append

theorem runAll_cons (step : Step) (rest : List Step) :
    runAll store (step :: rest) stack =
      step.run store stack >>= fun between => runAll store rest between :=
  List.foldlM_cons

theorem runAll_singleton (step : Step) : runAll store [step] stack = step.run store stack := by
  rw [runAll_cons]
  exact bind_pure _

/-- A failure of the steps is that of the first step that fails. -/
theorem runAll_eq_error_iff {steps : List Step} :
    runAll store steps stack = .error failure ↔
      ∃ before step after between, steps = before ++ step :: after ∧
        runAll store before stack = .ok between ∧ step.run store between = .error failure := by
  constructor
  · intro h
    induction steps generalizing stack with
    | nil => cases h
    | cons step rest ih =>
        rw [runAll_cons] at h
        cases hstep : step.run store stack with
        | error other =>
            rw [hstep] at h
            cases h
            exact ⟨[], step, rest, stack, rfl, rfl, hstep⟩
        | ok next =>
            rw [hstep] at h
            obtain ⟨before, failing, after, between, hrest, hbefore, hfails⟩ := ih h
            refine ⟨step :: before, failing, after, between, ?_, ?_, hfails⟩
            · rw [hrest, List.cons_append]
            · rw [runAll_cons, hstep]
              exact hbefore
  · rintro ⟨before, step, after, between, rfl, hbefore, hfails⟩
    rw [runAll_append, hbefore]
    refine (runAll_cons step after).trans ?_
    rw [hfails]
    rfl

end RunAll

end Step

/-! ### Steps of an expression -/

theorem Builtin.ofName?_of_resolve {word : String} {got : Nat} {f : Builtin}
    (h : resolve word got = .ok f) : ofName? word = some f := by
  unfold resolve at h
  split at h
  · cases h
  · next found hfound =>
      split at h
      · cases h
        exact hfound
      · cases h

section Eval

variable {store : Store}

theorem Step.run_load (name : String) (stack : List String) :
    (load name).run store stack = (store.lookup name).map (· :: stack) := by
  rw [run, Store.lookup]
  cases store.get? name <;> rfl

theorem Step.run_check (function : String) (args : Nat) (stack : List String) :
    (check function args).run store stack =
      (Builtin.resolve function args).map fun _ => stack := by
  rw [run, Builtin.resolve]
  cases Builtin.ofName? function with
  | none => rfl
  | some f =>
      dsimp only
      split <;> rfl

/-- The values of the arguments are on top of the stack, in reverse. -/
theorem Step.run_apply {function : String} {f : Builtin} {values : List String} {args : Nat}
    (hresolve : Builtin.resolve function args = .ok f) (hlength : values.length = args)
    (stack : List String) :
    (apply function args).run store (values.reverse ++ stack) =
      (f.apply values).map (· :: stack) := by
  have hlength' : values.reverse.length = args := by rw [List.length_reverse, hlength]
  have htaken : ((values.reverse ++ stack).take args).reverse = values := by
    rw [List.take_left' hlength', List.reverse_reverse]
  have hrest : (values.reverse ++ stack).drop args = stack := List.drop_left' hlength'
  rw [run, Builtin.ofName?_of_resolve hresolve]
  dsimp only
  rw [htaken, hrest]

mutual

theorem Expr.runAll_steps : ∀ (e : Expr) (stack : List String),
    Step.runAll store e.steps stack = (e.eval store).map (· :: stack)
  | .text value, stack => by
    rw [Expr.steps, Step.runAll_singleton, Expr.eval]
    rfl
  | .var name, stack => by
    rw [Expr.steps, Step.runAll_singleton, Step.run_load, Expr.eval]
  | .call function args, stack => by
    rw [Expr.steps, Step.runAll_cons, Step.run_check, Expr.eval]
    cases hresolve : Builtin.resolve function args.length with
    | error failure => rfl
    | ok f =>
        -- The check has left the stack as it was.
        change Step.runAll store (Expr.argSteps args ++ [.apply function args.length]) stack = _
        rw [Step.runAll_append, Expr.runAll_argSteps args stack]
        cases hvalues : Expr.evalArgs store args with
        | error failure => rfl
        | ok values =>
            have hlength := Expr.length_of_evalArgs hvalues
            exact (Step.runAll_singleton _).trans (Step.run_apply hresolve hlength stack)

theorem Expr.runAll_argSteps : ∀ (args : List Expr) (stack : List String),
    Step.runAll store (Expr.argSteps args) stack =
      (Expr.evalArgs store args).map fun values => values.reverse ++ stack
  | [], stack => by
    rw [Expr.argSteps, Expr.evalArgs]
    rfl
  | arg :: args, stack => by
    rw [Expr.argSteps, Step.runAll_append, arg.runAll_steps stack, Expr.evalArgs]
    cases arg.eval store with
    | error failure => rfl
    | ok value =>
        refine (Expr.runAll_argSteps args (value :: stack)).trans ?_
        cases Expr.evalArgs store args with
        | error failure => rfl
        | ok values =>
            have hstack : values.reverse ++ value :: stack = (value :: values).reverse ++ stack := by
              rw [List.reverse_cons, List.append_assoc, List.singleton_append]
            exact congrArg Except.ok hstack

end

end Eval

/-- **Evaluation is taking the steps in order.** From the empty stack, the steps of an expression
end with its value alone on the stack, or with its failure. This failure is that of the first step
that fails. -/
theorem Expr.eval_by_steps (store : Store) (e : Expr) :
    Step.runAll store e.steps [] = (e.eval store).map (fun value => [value]) ∧
    ∀ failure, e.eval store = .error failure ↔
      ∃ before step after stack, e.steps = before ++ step :: after ∧
        Step.runAll store before [] = .ok stack ∧ step.run store stack = .error failure := by
  have hsteps : Step.runAll store e.steps [] = (e.eval store).map fun value => [value] :=
    e.runAll_steps []
  refine ⟨hsteps, fun failure => ?_⟩
  rw [← Step.runAll_eq_error_iff, hsteps]
  cases e.eval store with
  | ok value => simp [Except.map]
  | error other => simp [Except.map]

/-- The inner call is checked after the outer one, and before any argument of its own. -/
example : (Expr.call "concat" [.var "7", .call "reverse" [.var "8", .text ""]]).steps =
    [.check "concat" 2, .load "7", .check "reverse" 2, .load "8", .push "", .apply "reverse" 2,
      .apply "concat" 2] := rfl

end StringScript
