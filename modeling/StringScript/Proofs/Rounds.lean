import Mathlib.Data.Nat.Find
import StringScript.Proofs.Outcome

/-!
# The rounds of a `while` loop

A `while` loop tests its condition before each run of its body. It ends at the first test that
fails, that finds the condition false, that comes after as many runs as the limit allows, or after
which the body fails. What it leaves behind is what the runs up to there have made of the session.
-/

namespace StringScript

open Execution

/-- A loop with `more` rounds left. -/
def Execution.roundsLeft (limit : Nat) (c : Condition) (body : List Stmt) (more : Nat) :
    Execution Unit :=
  repeatWhile limit (check c) (Stmt.runAll limit body) more

namespace Session

/-- The session after a block was executed `rounds` times in a row, if it succeeded each time. -/
def after? (s : Session) (block : List Stmt) : (rounds : Nat) → Option Session
  | 0 => some s
  | rounds + 1 =>
    (s.after? block rounds).bind fun t =>
      match t.execBlock block with
      | (.ok (), next) => some next
      | (.error _, _) => none

/-- A loop over `body` ends when its condition is tested after `rounds` rounds, if it gets there.
Then its result and the session that it leaves are `ended`, and the body was run `runs` times. -/
inductive EndsAt (s : Session) (c : Condition) (body : List Stmt) (rounds : Nat) :
    (runs : Nat) → (ended : Except Failure Unit × Session) → Prop
  | conditionFails {t : Session} {failure : Failure} : s.after? body rounds = some t →
    c.eval t.store = .error failure → EndsAt s c body rounds rounds (.error failure, t)
  | conditionFalse {t : Session} : s.after? body rounds = some t →
    c.eval t.store = .ok false → EndsAt s c body rounds rounds (.ok (), t)
  | limitReached {t : Session} : s.after? body rounds = some t →
    c.eval t.store = .ok true → rounds = s.config.maxIterations →
    EndsAt s c body rounds rounds (.error (.iterationLimit s.config.maxIterations), t)
  | bodyFails {t u : Session} {failure : Failure} : s.after? body rounds = some t →
    c.eval t.store = .ok true → rounds < s.config.maxIterations →
    t.execBlock body = (.error failure, u) → EndsAt s c body rounds (rounds + 1) (.error failure, u)

/-- The first test at which the loop ends comes after `rounds` rounds. -/
structure EndsFirstAt (s : Session) (c : Condition) (body : List Stmt) (rounds runs : Nat)
    (ended : Except Failure Unit × Session) : Prop where
  endsAt : s.EndsAt c body rounds runs ended
  first : ∀ earlier < rounds, ∀ runs' other, ¬ s.EndsAt c body earlier runs' other

section Rounds

variable {s t u : Session} {c : Condition} {body : List Stmt} {rounds runs : Nat}
  {ended : Except Failure Unit × Session}

/-! ### Runs of the body -/

theorem after?_succ_eq_some_iff :
    s.after? body (rounds + 1) = some u ↔
      ∃ t, s.after? body rounds = some t ∧ t.execBlock body = (.ok (), u) := by
  rw [after?, Option.bind_eq_some_iff]
  refine exists_congr fun t => and_congr_right fun _ => ?_
  rcases t.execBlock body with ⟨_ | _, next⟩ <;> simp

theorem config_after? (h : s.after? body rounds = some t) : t.config = s.config := by
  induction rounds generalizing t with
  | zero =>
      cases h
      rfl
  | succ rounds ih =>
      obtain ⟨u, hu, hbody⟩ := after?_succ_eq_some_iff.mp h
      have hconfig : (u.execBlock body).2.config = u.config := config_perform _ _
      rw [hbody] at hconfig
      exact hconfig.trans (ih hu)

theorem exists_after?_of_le (h : s.after? body rounds = some t) {earlier : Nat}
    (hle : earlier ≤ rounds) : ∃ u, s.after? body earlier = some u := by
  induction rounds generalizing t with
  | zero => exact ⟨t, Nat.le_zero.mp hle ▸ h⟩
  | succ rounds ih =>
      rcases Nat.le_succ_iff.mp hle with hearlier | rfl
      · obtain ⟨u, hu, -⟩ := after?_succ_eq_some_iff.mp h
        exact ih hu hearlier
      · exact ⟨t, h⟩

/-- Within the limit, the loop goes on exactly if its condition holds and one more run of the body
is allowed and succeeds. -/
theorem not_endsAt_iff (ht : s.after? body rounds = some t)
    (hle : rounds ≤ s.config.maxIterations) :
    (∀ runs ended, ¬ s.EndsAt c body rounds runs ended) ↔
      rounds < s.config.maxIterations ∧ c.eval t.store = .ok true ∧
        ∃ u, s.after? body (rounds + 1) = some u := by
  constructor
  · intro h
    have hc : c.eval t.store = .ok true := by
      cases hc : c.eval t.store with
      | error failure => exact absurd (.conditionFails ht hc) (h _ _)
      | ok holds =>
          cases holds with
          | false => exact absurd (.conditionFalse ht hc) (h _ _)
          | true => rfl
    have hlt : rounds < s.config.maxIterations := by
      refine Nat.lt_of_le_of_ne hle fun hlimit => ?_
      exact absurd (.limitReached ht hc hlimit) (h _ _)
    refine ⟨hlt, hc, ?_⟩
    cases hbody : t.execBlock body with
    | mk result u =>
        cases result with
        | ok => exact ⟨u, after?_succ_eq_some_iff.mpr ⟨t, ht, hbody⟩⟩
        | error failure => exact absurd (.bodyFails ht hc hlt hbody) (h _ _)
  · rintro ⟨hlt, hc, u, hu⟩ runs ended h
    obtain ⟨t', ht', hbody⟩ := after?_succ_eq_some_iff.mp hu
    cases ht.symm.trans ht'
    cases h with
    | conditionFails ht' hc' | conditionFalse ht' hc' =>
        cases ht.symm.trans ht'
        cases hc.symm.trans hc'
    | limitReached _ _ hlimit => exact Nat.ne_of_lt hlt hlimit
    | bodyFails ht' _ _ hbody' =>
        cases ht.symm.trans ht'
        cases hbody.symm.trans hbody'

/-! ### The loop -/

theorem perform_roundsLeft {limit : Nat} (hlimit : t.config.maxIterations = limit) (more : Nat) :
    t.perform (roundsLeft limit c body more) =
      match c.eval t.store with
      | .error failure => (.error failure, t)
      | .ok false => (.ok (), t)
      | .ok true =>
        match more with
        | 0 => (.error (.iterationLimit limit), t)
        | more + 1 =>
          match t.execBlock body with
          | (.error failure, stopped) => (.error failure, stopped)
          | (.ok (), next) => next.perform (roundsLeft limit c body more) := by
  subst hlimit
  cases more with
  | zero =>
      rw [roundsLeft, repeatWhile, check, perform_fromStore_bind]
      rcases c.eval t.store with failure | (_ | _) <;> rfl
  | succ more =>
      rw [roundsLeft, repeatWhile, check, perform_fromStore_bind]
      rcases c.eval t.store with failure | (_ | _)
      · rfl
      · rfl
      · refine (perform_bind t _ _).trans ?_
        rw [execBlock]
        rcases t.perform (Stmt.runAll t.config.maxIterations body) with ⟨_ | _, next⟩ <;> rfl

theorem perform_roundsLeft_of_endsAt (h : s.EndsAt c body rounds runs ended)
    (ht : s.after? body rounds = some t) {more : Nat}
    (hmore : rounds + more = s.config.maxIterations) :
    t.perform (roundsLeft s.config.maxIterations c body more) = ended := by
  have hlimit : t.config.maxIterations = s.config.maxIterations := by rw [config_after? ht]
  rw [perform_roundsLeft hlimit]
  cases h with
  | conditionFails ht' hc =>
      cases ht.symm.trans ht'
      rw [hc]
  | conditionFalse ht' hc =>
      cases ht.symm.trans ht'
      rw [hc]
  | limitReached ht' hc hrounds =>
      cases ht.symm.trans ht'
      have hnone : more = 0 := by omega
      rw [hc, hnone]
  | bodyFails ht' hc hrounds hbody =>
      cases ht.symm.trans ht'
      obtain ⟨rest, rfl⟩ : ∃ rest, more = rest + 1 := ⟨more - 1, by omega⟩
      rw [hc, hbody]

/-- While the loop does not end, its rounds are those that are left after the ones done. -/
theorem exists_after?_of_not_endsAt (hle : rounds ≤ s.config.maxIterations)
    (h : ∀ earlier < rounds, ∀ runs ended, ¬ s.EndsAt c body earlier runs ended) :
    ∃ t, s.after? body rounds = some t ∧
      s.execStmt (.whileDo c body) =
        t.perform (roundsLeft s.config.maxIterations c body (s.config.maxIterations - rounds)) := by
  induction rounds with
  | zero =>
      refine ⟨s, rfl, ?_⟩
      rw [execStmt, Stmt.run, Nat.sub_zero, roundsLeft]
  | succ rounds ih =>
      obtain ⟨t, ht, hloop⟩ := ih (Nat.le_of_succ_le hle) fun earlier hearlier =>
        h earlier (Nat.lt_succ_of_lt hearlier)
      obtain ⟨-, hc, u, hu⟩ :=
        (not_endsAt_iff ht (Nat.le_of_succ_le hle)).mp (h rounds (Nat.lt_succ_self rounds))
      obtain ⟨t', ht', hbody⟩ := after?_succ_eq_some_iff.mp hu
      cases ht.symm.trans ht'
      have hlimit : t.config.maxIterations = s.config.maxIterations := by rw [config_after? ht]
      have hmore : s.config.maxIterations - rounds = s.config.maxIterations - (rounds + 1) + 1 := by
        omega
      refine ⟨u, hu, ?_⟩
      rw [hloop, perform_roundsLeft hlimit, hc, hmore]
      dsimp only
      rw [hbody]

/-- At the latest, a loop ends when the limit is reached. -/
theorem exists_endsAt (s : Session) (c : Condition) (body : List Stmt) :
    ∃ rounds ≤ s.config.maxIterations, ∃ runs ended, s.EndsAt c body rounds runs ended := by
  by_contra hnone
  push Not at hnone
  obtain ⟨t, ht, -⟩ := exists_after?_of_not_endsAt (Nat.le_refl s.config.maxIterations)
    fun earlier hearlier => hnone earlier (Nat.le_of_lt hearlier)
  have hlt := ((not_endsAt_iff ht (Nat.le_refl _)).mp (hnone _ (Nat.le_refl _))).1
  exact Nat.lt_irrefl _ hlt

theorem exists_endsFirstAt (s : Session) (c : Condition) (body : List Stmt) :
    ∃ rounds runs ended, s.EndsFirstAt c body rounds runs ended := by
  classical
  obtain ⟨rounds, -, hend⟩ := exists_endsAt s c body
  have hexists : ∃ rounds runs ended, s.EndsAt c body rounds runs ended := ⟨rounds, hend⟩
  obtain ⟨runs, ended, hfirst⟩ := Nat.find_spec hexists
  refine ⟨Nat.find hexists, runs, ended, hfirst, fun earlier hearlier runs' other h => ?_⟩
  exact Nat.find_min hexists hearlier ⟨runs', other, h⟩

theorem EndsFirstAt.rounds_le (h : s.EndsFirstAt c body rounds runs ended) :
    rounds ≤ s.config.maxIterations := by
  obtain ⟨last, hlast, runs', other, hend⟩ := exists_endsAt s c body
  by_contra hlater
  exact h.first last (by omega) runs' other hend

theorem EndsFirstAt.execStmt_eq (h : s.EndsFirstAt c body rounds runs ended) :
    s.execStmt (.whileDo c body) = ended := by
  obtain ⟨t, ht, hloop⟩ := exists_after?_of_not_endsAt h.rounds_le h.first
  rw [hloop]
  exact perform_roundsLeft_of_endsAt h.endsAt ht (Nat.add_sub_cancel' h.rounds_le)

theorem EndsFirstAt.runs_le (h : s.EndsFirstAt c body rounds runs ended) :
    runs ≤ s.config.maxIterations := by
  have hrounds := h.rounds_le
  cases h.endsAt with
  | conditionFails | conditionFalse | limitReached => exact hrounds
  | bodyFails _ _ hlt => exact hlt

end Rounds

/-- **A `while` loop is its rounds up to the first end**: the first test that fails, finds the
condition false, meets the limit, or is followed by a run of the body that fails. Neither the
rounds nor the runs of the body exceed the limit, so the count of rounds cannot overflow where the
limit does not, and a loop that needs exactly as many rounds as the limit succeeds. -/
theorem execStmt_whileDo (s : Session) (c : Condition) (body : List Stmt) :
    (∀ ended, s.execStmt (.whileDo c body) = ended ↔
      ∃ rounds runs, s.EndsFirstAt c body rounds runs ended) ∧
    (∀ rounds runs ended, s.EndsFirstAt c body rounds runs ended →
      rounds ≤ s.config.maxIterations ∧ runs ≤ s.config.maxIterations) ∧
    ∀ t, s.after? body s.config.maxIterations = some t → c.eval t.store = .ok false →
      (∀ rounds < s.config.maxIterations, ∀ u, s.after? body rounds = some u →
        c.eval u.store = .ok true) →
      s.execStmt (.whileDo c body) = (.ok (), t) := by
  refine ⟨fun ended => ⟨fun h => ?_, fun ⟨_, _, h⟩ => h.execStmt_eq⟩,
    fun _ _ _ h => ⟨h.rounds_le, h.runs_le⟩, fun t ht hc hrounds => ?_⟩
  · obtain ⟨rounds, runs, ended', hfirst⟩ := exists_endsFirstAt s c body
    rw [← h, hfirst.execStmt_eq]
    exact ⟨rounds, runs, hfirst⟩
  · refine EndsFirstAt.execStmt_eq ⟨.conditionFalse ht hc, fun earlier hearlier => ?_⟩
    obtain ⟨u, hu⟩ := exists_after?_of_le ht (Nat.le_of_lt hearlier)
    exact (not_endsAt_iff hu (Nat.le_of_lt hearlier)).mpr
      ⟨hearlier, hrounds earlier hearlier u hu, exists_after?_of_le ht hearlier⟩

/-- With a limit of two the loop takes its two rounds, and with a limit of one it is stopped. -/
theorem execStmt_whileDo_two_rounds :
    let c : Condition := ⟨.var "1", .contains, .text "x"⟩
    let body : List Stmt := [.print (.var "1"),
      .assign "1" (.call "shiftr" [.var "1", .text "1"])]
    let s (limit : Nat) : Session := ⟨{ maxIterations := limit }, Store.empty.set "1" "xx", #[]⟩
    (∃ t, (s 2).after? body 2 = some t ∧ c.eval t.store = .ok false ∧
      (∀ rounds < 2, ∀ u, (s 2).after? body rounds = some u → c.eval u.store = .ok true) ∧
      t.pending = ["xx", "x"] ∧ (s 2).execStmt (.whileDo c body) = (.ok (), t)) ∧
    ∃ rounds runs, (s 1).EndsFirstAt c body rounds runs ((s 1).execStmt (.whileDo c body)) ∧
      rounds ≤ 1 ∧ runs ≤ 1 ∧
      ((s 1).execStmt (.whileDo c body)).1 = .error (.iterationLimit 1) := by
  intro c body s
  have hafter : (s 2).after? body 2 = some (((s 2).execBlock body).2.execBlock body).2 := rfl
  have hrounds : ∀ rounds < 2, ∀ u, (s 2).after? body rounds = some u →
      c.eval u.store = .ok true := by
    intro rounds hrounds u hu
    match rounds, hrounds with
    | 0, _ =>
        have hstart : s 2 = u := Option.some.inj hu
        rw [← hstart]
        rfl
    | 1, _ =>
        have hround : ((s 2).execBlock body).2 = u := Option.some.inj hu
        rw [← hround]
        rfl
  obtain ⟨-, -, hexact⟩ := execStmt_whileDo (s 2) c body
  obtain ⟨hends, hbounds, -⟩ := execStmt_whileDo (s 1) c body
  refine ⟨⟨_, hafter, rfl, hrounds, rfl, hexact _ hafter rfl hrounds⟩, ?_⟩
  obtain ⟨rounds, runs, hfirst⟩ := (hends _).mp rfl
  obtain ⟨hle, hruns⟩ := hbounds rounds runs _ hfirst
  exact ⟨rounds, runs, hfirst, hle, hruns, rfl⟩

end Session

end StringScript
