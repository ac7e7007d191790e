import StringScript.Proofs.ArrayHeader
import StringScript.Proofs.Outcome

/-!
# Loops over items, written out

A `foreach` loop reads its source once, before its first round, and from then on it matters only
which items there are. For each of them the loop assigns the item and runs the body, as a block does
that has all of this written out. What the loop adds is that its variable gets its earlier value
back.
-/

namespace StringScript

open Execution

/-- What a loop of this kind goes over, if its source has a value. -/
def Iteration.itemsOf (kind : Iteration) (source : Expr) (store : Store) :
    Except Failure (List String) :=
  (source.eval store).map fun text => kind.elements text

/-- The block that runs `body` once for each item, after the item is assigned to `var`. -/
def Stmt.unrolled (var : String) (body : List Stmt) (items : List String) : List Stmt :=
  items.flatMap fun item => .assign var (.text item) :: body

/-! ### Loops by their items -/

namespace Session

variable {s : Session} {kind kind' : Iteration} {var : String} {source source' : Expr}
  {body : List Stmt}

theorem execStmt_foreach :
    s.execStmt (.foreach kind var source body) =
      if isVarName var then
        match kind.itemsOf source s.store with
        | .ok items =>
          s.perform (restoring var (forItems var (Stmt.runAll s.config.maxIterations body) items))
        | .error failure => (.error failure, s)
      else (.error (.invalidVariableName var), s) := by
  rw [execStmt, Stmt.run]
  split
  · next hvar =>
      rw [checkName_of_isVarName hvar, pure_bind, evaluate, perform_fromStore_bind,
        Iteration.itemsOf]
      cases source.eval s.store <;> rfl
  · next hvar =>
      rw [checkName, if_neg hvar]
      rfl

/-- Loops over the same items run alike. -/
theorem execStmt_foreach_congr
    (h : kind.itemsOf source s.store = kind'.itemsOf source' s.store) :
    s.execStmt (.foreach kind var source body) = s.execStmt (.foreach kind' var source' body) := by
  rw [execStmt_foreach, execStmt_foreach, h]

theorem perform_restoring (x : Execution Unit) :
    s.perform (restoring var x) =
      let (result, ended) := s.perform x
      (result, { ended with state :=
        { ended.state with store := ended.store.restore var (s.store.get? var) } }) := by
  unfold perform restoring
  cases x s.state <;> rfl

end Session

theorem Stmt.run_assign_text {limit : Nat} {var : String} (hvar : isVarName var)
    (value : String) : (Stmt.assign var (.text value)).run limit = setVar var value := by
  have hvalue : evaluate (.text value) = pure value := rfl
  rw [Stmt.run, checkName_of_isVarName hvar, pure_bind, hvalue, pure_bind]

theorem Execution.forItems_eq_runAll_unrolled {limit : Nat} {var : String} (hvar : isVarName var)
    (body : List Stmt) (items : List String) :
    forItems var (Stmt.runAll limit body) items =
      Stmt.runAll limit (Stmt.unrolled var body items) := by
  induction items with
  | nil => rw [Stmt.unrolled, List.flatMap_nil, Stmt.runAll, forItems]
  | cons item rest ih =>
      rw [Stmt.unrolled, List.flatMap_cons, Stmt.runAll_append, Stmt.runAll,
        Stmt.run_assign_text hvar, forItems_cons, ih, Stmt.unrolled]

/-- **A loop is its rounds written out.** If the source has a value, the loop over its items ends as
the block does that assigns one item after the other and runs the body after each: with the same
result, the same lines pending, and the same store but for the variable of the loop. This one has
the value that it had before the loop, or none again. -/
theorem Session.execStmt_foreach_unrolled (s : Session) (kind : Iteration) {var : String}
    {source : Expr} (body : List Stmt) {text : String} (hvar : isVarName var)
    (htext : source.eval s.store = .ok text) :
    let looped := s.execStmt (.foreach kind var source body)
    let written := s.execBlock (Stmt.unrolled var body (kind.elements text))
    looped.1 = written.1 ∧ looped.2.pending = written.2.pending ∧
      ∀ name, looped.2.store.get? name =
        if name = var then s.store.get? name else written.2.store.get? name := by
  have hitems : kind.itemsOf source s.store = .ok (kind.elements text) := by
    rw [Iteration.itemsOf, htext]
    rfl
  have hloop : s.execStmt (.foreach kind var source body) =
      s.perform (restoring var
        (Stmt.runAll s.config.maxIterations (Stmt.unrolled var body (kind.elements text)))) := by
    rw [execStmt_foreach, if_pos hvar, hitems]
    exact congrArg (fun x => s.perform (restoring var x)) (forItems_eq_runAll_unrolled hvar body _)
  intro looped written
  have hlooped : looped = (written.1, { written.2 with state :=
      { written.2.state with store := written.2.store.restore var (s.store.get? var) } }) :=
    hloop.trans (perform_restoring _)
  rw [hlooped]
  refine ⟨rfl, rfl, fun name => ?_⟩
  calc (written.2.store.restore var (s.store.get? var)).get? name
    _ = if var = name then s.store.get? var else written.2.store.get? name :=
        Store.get?_restore ..
    _ = if name = var then s.store.get? name else written.2.store.get? name := by
        by_cases hname : name = var
        · rw [if_pos hname, if_pos hname.symm, hname]
        · rw [if_neg hname, if_neg (Ne.symm hname)]

/-- The body fails in the second round. Before that it has assigned the source and the variable. -/
theorem Session.execStmt_foreach_unrolled_failing :
    let s : Session := ⟨{}, (Store.empty.set "1" "0a").set "5" "outer", #["before"]⟩
    let body : List Stmt := [.assign "1" (.call "concat" [.var "1", .var "5"]),
      .print (.call "shiftl" [.var "1", .var "5"]), .assign "5" (.text "inner")]
    let looped := s.execStmt (.foreach .auto "5" (.var "1") body)
    let written := s.execBlock (.assign "5" (.text "0") :: body ++ .assign "5" (.text "a") :: body)
    isVarName "5" ∧ (Expr.var "1").eval s.store = .ok "0a" ∧
      written.1 = .error (.invalidArgument .shiftLeft (.notCount 2 "a")) ∧
      looped.1 = written.1 ∧ looped.2.pending = written.2.pending ∧
      ∀ name, looped.2.store.get? name =
        if name = "5" then s.store.get? name else written.2.store.get? name := by
  intro s body looped written
  have hvar : isVarName "5" := by decide
  have htext : (Expr.var "1").eval s.store = .ok "0a" := rfl
  have hfails : written.1 = .error (.invalidArgument .shiftLeft (.notCount 2 "a")) := rfl
  have hrounds : Stmt.unrolled "5" body (Iteration.auto.elements "0a") =
      .assign "5" (.text "0") :: body ++ .assign "5" (.text "a") :: body := rfl
  have hends := execStmt_foreach_unrolled s .auto body hvar htext
  rw [hrounds] at hends
  exact ⟨hvar, htext, hfails, hends⟩

/-! ### The characters of a text as its items -/

section Characters

open ArrayText (separator)

variable {text item : String} {items : List String}

theorem separator_notMem_of_mem_characters (htext : separator ∉ text.toList)
    (hitem : item ∈ characters text) : separator ∉ item.toList := by
  obtain ⟨c, hc, rfl⟩ := List.mem_map.mp hitem
  rw [String.toList_ofList, List.mem_singleton]
  exact fun heq => htext (heq ▸ hc)

theorem length_characters (text : String) : (characters text).length = text.length := by
  rw [characters, List.length_map, String.length_toList]

/-- A text without separators is no array, so a loop that has the choice goes over its
characters. -/
theorem Iteration.elements_auto_of_free (htext : separator ∉ text.toList) :
    Iteration.auto.elements text = characters text :=
  if_neg fun harray => htext (ArrayText.separator_mem_of_isEncoded harray)

theorem Iteration.elements_encode {kind : Iteration} (hkind : kind ≠ .chars)
    (hlength : items.length < Text.countBound) (hfree : ∀ item ∈ items, separator ∉ item.toList) :
    kind.elements (ArrayText.encode items) = items := by
  have hitems := ArrayText.items?_encode_of_free hlength hfree
  have hdecode : ArrayText.decode (ArrayText.encode items) = items := by
    rw [ArrayText.decode, hitems]
    rfl
  have harray : ArrayText.isEncoded (ArrayText.encode items) := by
    rw [ArrayText.isEncoded, hitems]
    rfl
  cases kind with
  | chars => exact absurd rfl hkind
  | items => exact hdecode
  | auto => exact (if_pos harray).trans hdecode

theorem Expr.eval_split_empty (e : Expr) (store : Store) :
    (Expr.call "split" [e, .text ""]).eval store =
      (e.eval store).map fun text => ArrayText.encode (characters text) := by
  have hfields (text : String) :
      (Text.fields "".toList text.toList).map String.ofList = characters text := by
    have hsep : "".toList.isEmpty := rfl
    rw [Text.fields, if_pos hsep, List.map_map, characters]
    rfl
  have hresolve : Builtin.resolve "split" [e, .text ""].length = .ok .split := rfl
  rw [Expr.eval, hresolve, Expr.evalArgs, Expr.evalArgs, Expr.evalArgs, Expr.eval]
  cases e.eval store with
  | ok text => exact congrArg (fun items => Except.ok (ArrayText.encode items)) (hfields text)
  | error failure => rfl

/-- **The characters are the items of a text that is split everywhere.** Where an expression fails
or has a value without separators, a loop over the characters of the value and one over the items
that splitting makes of them end in the same way and leave the same session, whether the loops say
what they go over or not. -/
theorem Session.execStmt_foreach_split (s : Session) (var : String) {e : Expr} (body : List Stmt)
    (htext : ∀ text, e.eval s.store = .ok text →
      separator ∉ text.toList ∧ text.length < Text.countBound) :
    let loop (kind : Iteration) (source : Expr) := s.execStmt (.foreach kind var source body)
    let split : Expr := .call "split" [e, .text ""]
    loop .auto e = loop .chars e ∧ loop .items split = loop .chars e ∧
      loop .auto split = loop .chars e := by
  intro loop split
  have hplain : Iteration.auto.itemsOf e s.store = Iteration.chars.itemsOf e s.store := by
    rw [Iteration.itemsOf, Iteration.itemsOf]
    cases he : e.eval s.store with
    | ok text => exact congrArg Except.ok (Iteration.elements_auto_of_free (htext text he).1)
    | error failure => rfl
  have hsplit {kind : Iteration} (hkind : kind ≠ .chars) :
      kind.itemsOf split s.store = Iteration.chars.itemsOf e s.store := by
    rw [Iteration.itemsOf, Iteration.itemsOf, Expr.eval_split_empty]
    cases he : e.eval s.store with
    | ok text =>
        obtain ⟨hfree, hlength⟩ := htext text he
        rw [← length_characters] at hlength
        exact congrArg Except.ok (Iteration.elements_encode hkind hlength fun _ hitem =>
          separator_notMem_of_mem_characters hfree hitem)
    | error failure => rfl
  exact ⟨execStmt_foreach_congr hplain, execStmt_foreach_congr (hsplit (by decide)),
    execStmt_foreach_congr (hsplit (by decide))⟩

/-- The text is a header followed by another character, and the body changes the source. -/
theorem Session.execStmt_foreach_split_digits :
    let s : Session := ⟨{}, Store.empty.set "1" "2é", #[]⟩
    let body : List Stmt := [.print (.var "5"), .assign "1" (.text "")]
    let split : Expr := .call "split" [.var "1", .text ""]
    (∀ text, (Expr.var "1").eval s.store = .ok text →
      separator ∉ text.toList ∧ text.length < Text.countBound) ∧
    (s.execStmt (.foreach .chars "5" (.var "1") body)).2.pending = ["2", "é"] ∧
    s.execStmt (.foreach .auto "5" (.var "1") body) =
      s.execStmt (.foreach .chars "5" (.var "1") body) ∧
    s.execStmt (.foreach .items "5" split body) =
      s.execStmt (.foreach .chars "5" (.var "1") body) ∧
    s.execStmt (.foreach .auto "5" split body) =
      s.execStmt (.foreach .chars "5" (.var "1") body) := by
  intro s body split
  have htext : ∀ text, (Expr.var "1").eval s.store = .ok text →
      separator ∉ text.toList ∧ text.length < Text.countBound := by
    intro text h
    cases h
    decide
  exact ⟨htext, rfl, execStmt_foreach_split s "5" body htext⟩

end Characters

end StringScript
