import Mathlib.Data.Finset.Basic
import StringScript.Execution

/-!
# The names in a program

Names of variables occur in expressions, as targets of assignments and as variables of loops. The
name of a function is none of them. `reads`, `writes` and `names` collect them, and `mapNames`
changes them.
-/

namespace StringScript

/-! ### Reading -/

mutual

def Expr.reads : Expr → Finset String
  | .text _ => ∅
  | .var name => {name}
  | .call _ args => Expr.argReads args

def Expr.argReads : List Expr → Finset String
  | [] => ∅
  | arg :: args => arg.reads ∪ Expr.argReads args

end

def Condition.reads (c : Condition) : Finset String := c.lhs.reads ∪ c.rhs.reads

mutual

/-- The names that the expressions of a statement read, among them the variables of its loops as far
as the bodies read them. -/
def Stmt.reads : Stmt → Finset String
  | .assign _ e => e.reads
  | .print e => e.reads
  | .ifThen c body => c.reads ∪ Stmt.readsAll body
  | .ifThenElse c thenBody elseBody =>
    c.reads ∪ (Stmt.readsAll thenBody ∪ Stmt.readsAll elseBody)
  | .foreach _ _ source body => source.reads ∪ Stmt.readsAll body
  | .whileDo c body => c.reads ∪ Stmt.readsAll body

def Stmt.readsAll : List Stmt → Finset String
  | [] => ∅
  | stmt :: rest => stmt.reads ∪ Stmt.readsAll rest

end

/-! ### Writing and occurring -/

mutual

/-- The names that a statement assigns. A loop gives its variable back, so what its body does to
that name does not count. -/
def Stmt.writes : Stmt → Finset String
  | .assign target _ => {target}
  | .print _ => ∅
  | .ifThen _ body => Stmt.writesAll body
  | .ifThenElse _ thenBody elseBody => Stmt.writesAll thenBody ∪ Stmt.writesAll elseBody
  | .foreach _ var _ body => (Stmt.writesAll body).erase var
  | .whileDo _ body => Stmt.writesAll body

def Stmt.writesAll : List Stmt → Finset String
  | [] => ∅
  | stmt :: rest => stmt.writes ∪ Stmt.writesAll rest

end

mutual

/-- The names that occur in a statement: read, assigned, or the variable of a loop. -/
def Stmt.names : Stmt → Finset String
  | .assign target e => insert target e.reads
  | .print e => e.reads
  | .ifThen c body => c.reads ∪ Stmt.namesAll body
  | .ifThenElse c thenBody elseBody =>
    c.reads ∪ (Stmt.namesAll thenBody ∪ Stmt.namesAll elseBody)
  | .foreach _ var source body => insert var (source.reads ∪ Stmt.namesAll body)
  | .whileDo c body => c.reads ∪ Stmt.namesAll body

def Stmt.namesAll : List Stmt → Finset String
  | [] => ∅
  | stmt :: rest => stmt.names ∪ Stmt.namesAll rest

end

/-! ### Other names -/

mutual

def Expr.mapNames (f : String → String) : Expr → Expr
  | .text value => .text value
  | .var name => .var (f name)
  | .call function args => .call function (Expr.mapArgNames f args)

def Expr.mapArgNames (f : String → String) : List Expr → List Expr
  | [] => []
  | arg :: args => arg.mapNames f :: Expr.mapArgNames f args

end

def Condition.mapNames (f : String → String) (c : Condition) : Condition :=
  ⟨c.lhs.mapNames f, c.comparison, c.rhs.mapNames f⟩

mutual

/-- The statement with `f name` for each name that is read or assigned or the variable of a
loop. -/
def Stmt.mapNames (f : String → String) : Stmt → Stmt
  | .assign target e => .assign (f target) (e.mapNames f)
  | .print e => .print (e.mapNames f)
  | .ifThen c body => .ifThen (c.mapNames f) (Stmt.mapNamesAll f body)
  | .ifThenElse c thenBody elseBody =>
    .ifThenElse (c.mapNames f) (Stmt.mapNamesAll f thenBody) (Stmt.mapNamesAll f elseBody)
  | .foreach kind var source body =>
    .foreach kind (f var) (source.mapNames f) (Stmt.mapNamesAll f body)
  | .whileDo c body => .whileDo (c.mapNames f) (Stmt.mapNamesAll f body)

def Stmt.mapNamesAll (f : String → String) : List Stmt → List Stmt
  | [] => []
  | stmt :: rest => stmt.mapNames f :: Stmt.mapNamesAll f rest

end

mutual

@[simp]
theorem Expr.mapNames_id : ∀ e : Expr, e.mapNames id = e
  | .text value => rfl
  | .var name => rfl
  | .call function args => by rw [Expr.mapNames, Expr.mapArgNames_id args]

@[simp]
theorem Expr.mapArgNames_id : ∀ args : List Expr, Expr.mapArgNames id args = args
  | [] => rfl
  | arg :: args => by rw [Expr.mapArgNames, arg.mapNames_id, Expr.mapArgNames_id args]

end

@[simp]
theorem Condition.mapNames_id (c : Condition) : c.mapNames id = c := by
  simp [Condition.mapNames]

mutual

@[simp]
theorem Stmt.mapNames_id : ∀ stmt : Stmt, stmt.mapNames id = stmt
  | .assign target e => by simp [Stmt.mapNames]
  | .print e => by simp [Stmt.mapNames]
  | .ifThen c body => by simp [Stmt.mapNames, Stmt.mapNamesAll_id body]
  | .ifThenElse c thenBody elseBody => by
    simp [Stmt.mapNames, Stmt.mapNamesAll_id thenBody, Stmt.mapNamesAll_id elseBody]
  | .foreach kind var source body => by simp [Stmt.mapNames, Stmt.mapNamesAll_id body]
  | .whileDo c body => by simp [Stmt.mapNames, Stmt.mapNamesAll_id body]

@[simp]
theorem Stmt.mapNamesAll_id : ∀ block : List Stmt, Stmt.mapNamesAll id block = block
  | [] => rfl
  | stmt :: rest => by rw [Stmt.mapNamesAll, stmt.mapNames_id, Stmt.mapNamesAll_id rest]

end

@[simp]
theorem Expr.length_mapArgNames (f : String → String) (args : List Expr) :
    (Expr.mapArgNames f args).length = args.length := by
  induction args with
  | nil => rfl
  | cons arg args ih => simp [Expr.mapArgNames, ih]

/-! ### Values under other names -/

section Eval

variable {f : String → String} {s t : Store}

mutual

/-- An expression has the same value where each name that it reads stands for the same. -/
theorem Expr.eval_mapNames :
    ∀ e : Expr, (∀ name ∈ e.reads, t.lookup (f name) = s.lookup name) →
      (e.mapNames f).eval t = e.eval s
  | .text value, _ => by rw [Expr.mapNames, Expr.eval, Expr.eval]
  | .var name, h => by
    rw [Expr.mapNames, Expr.eval, Expr.eval]
    exact h name (by simp [Expr.reads])
  | .call function args, h => by
    rw [Expr.mapNames, Expr.eval, Expr.eval, Expr.length_mapArgNames,
      Expr.evalArgs_mapNames args (by simpa only [Expr.reads] using h)]

theorem Expr.evalArgs_mapNames :
    ∀ args : List Expr, (∀ name ∈ Expr.argReads args, t.lookup (f name) = s.lookup name) →
      Expr.evalArgs t (Expr.mapArgNames f args) = Expr.evalArgs s args
  | [], _ => by rw [Expr.mapArgNames, Expr.evalArgs, Expr.evalArgs]
  | arg :: args, h => by
    have harg : ∀ name ∈ arg.reads, t.lookup (f name) = s.lookup name := fun name hname =>
      h name (by simp [Expr.argReads, hname])
    have hargs : ∀ name ∈ Expr.argReads args, t.lookup (f name) = s.lookup name :=
      fun name hname => h name (by simp [Expr.argReads, hname])
    rw [Expr.mapArgNames, Expr.evalArgs, Expr.evalArgs, arg.eval_mapNames harg,
      Expr.evalArgs_mapNames args hargs]

end

theorem Condition.eval_mapNames (c : Condition)
    (h : ∀ name ∈ c.reads, t.lookup (f name) = s.lookup name) :
    (c.mapNames f).eval t = c.eval s := by
  have hlhs := c.lhs.eval_mapNames fun name hname => h name (by simp [Condition.reads, hname])
  have hrhs := c.rhs.eval_mapNames fun name hname => h name (by simp [Condition.reads, hname])
  rw [Condition.eval, Condition.eval]
  simp only [Condition.mapNames, hlhs, hrhs]

end Eval

end StringScript
