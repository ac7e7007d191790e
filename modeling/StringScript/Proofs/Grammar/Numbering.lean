import StringScript.Proofs.Fields
import StringScript.Proofs.Grammar.Program

/-!
# Line numbers

The significant lines of a text are those of its lines, from the number 1 on. A carriage return
before a line feed is a blank, and so makes no difference to a trimmed line. Cutting at the line
feeds alone then gives the same significant lines, and tells how those of joined texts are numbered.
-/

namespace StringScript

/-- The significant ones of some lines in a row, the first of them with the number `start`. -/
def significantFrom (start : Nat) (lines : List (List Char)) : List (Nat × String) :=
  ((lines.zipIdx start).map Prod.swap).filterMap significant?

theorem significantLines_eq_significantFrom (source : String) :
    significantLines source = significantFrom 1 (Text.lines source.toList) :=
  significantLines_eq source

theorem significantFrom_cons (start : Nat) (line : List Char) (rest : List (List Char)) :
    significantFrom start (line :: rest) =
      (significant? (start, line)).toList ++ significantFrom (start + 1) rest := by
  unfold significantFrom
  rw [List.zipIdx_cons, List.map_cons, List.filterMap_cons]
  dsimp only [Prod.swap]
  cases significant? (start, line) <;> rfl

theorem significantFrom_append (start : Nat) (lines others : List (List Char)) :
    significantFrom start (lines ++ others) =
      significantFrom start lines ++ significantFrom (start + lines.length) others := by
  unfold significantFrom
  rw [List.zipIdx_append, List.map_append, List.filterMap_append]

theorem significantFrom_add (start count : Nat) (lines : List (List Char)) :
    significantFrom (start + count) lines =
      (significantFrom start lines).map (Prod.map (· + count) id) := by
  induction lines generalizing start with
  | nil => rfl
  | cons line rest ih =>
      rw [significantFrom_cons, significantFrom_cons, List.map_append, ← ih, Nat.add_right_comm]
      congr 1
      unfold significant?
      split <;> rfl

/-- Significant lines are among the lines of their numbers. -/
theorem mem_significantFrom {start : Nat} {lines : List (List Char)} {line : Nat × String}
    (h : line ∈ significantFrom start lines) :
    start ≤ line.1 ∧ line.1 < start + lines.length ∧
      ∃ text, (line.1, text) ∈ (lines.zipIdx start).map Prod.swap ∧
        Text.isSignificant (Text.trim text) := by
  obtain ⟨⟨number, text⟩, hmem, hsome⟩ := List.mem_filterMap.mp h
  unfold significant? at hsome
  split at hsome
  · next hsignificant =>
      cases hsome
      have hzip : (text, number) ∈ lines.zipIdx start := by
        obtain ⟨pair, hpair, heq⟩ := List.mem_map.mp hmem
        cases heq
        exact hpair
      obtain ⟨hfirst, hlast, -⟩ := List.mem_zipIdx hzip
      exact ⟨hfirst, hlast, text, hmem, hsignificant⟩
  · cases hsome

/-! ### Lines and line feeds -/

theorem Text.trim_concat {c : Char} (hc : isBlank c) (s : List Char) :
    trim (s ++ [c]) = trim s := by
  have hdrop : List.dropWhile isBlank [c] = [] := by simp [hc]
  unfold trim
  rw [List.dropWhile_append, hdrop]
  split
  · next h => rw [List.isEmpty_iff.mp h]
  · rw [List.reverse_append, List.reverse_singleton, List.singleton_append,
      List.dropWhile_cons_of_pos hc]

/-- A line without the line feed after it, with or without the carriage return before that. -/
def IsLineOf (line field : List Char) : Prop := field = line ∨ field = line ++ ['\r']

theorem IsLineOf.trim_eq {line field : List Char} (h : IsLineOf line field) :
    Text.trim field = Text.trim line := by
  obtain rfl | rfl := h
  · rfl
  · exact Text.trim_concat (by decide) line

theorem IsLineOf.cons {line field : List Char} (h : IsLineOf line field) (c : Char) :
    IsLineOf (c :: line) (c :: field) := by
  obtain rfl | rfl := h
  · exact .inl rfl
  · exact .inr rfl

/-- Between the line feeds stand the lines, and after the last line feed perhaps nothing. -/
theorem forall₂_isLineOf (s : List Char) :
    ∃ last, (last = [] ∨ last = [[]]) ∧
      List.Forall₂ IsLineOf (Text.lines s ++ last) (s.splitOn '\n') := by
  fun_induction Text.lines s with
  | case1 => exact ⟨[[]], .inr rfl, .cons (.inl rfl) .nil⟩
  | case2 rest ih =>
      obtain ⟨last, hlast, hrest⟩ := ih
      exact ⟨last, hlast, .cons (.inl rfl) hrest⟩
  | case3 rest ih =>
      obtain ⟨last, hlast, hrest⟩ := ih
      rw [Text.splitOn_cons_of_ne (by decide)]
      exact ⟨last, hlast, .cons (.inr rfl) hrest⟩
  | case4 c rest hfeed hreturn hnone ih =>
      obtain ⟨last, hlast, hrest⟩ := ih
      rw [Text.splitOn_cons_of_ne hfeed]
      rw [hnone, List.nil_append] at hrest
      obtain rfl | rfl := hlast
      · exact absurd (List.forall₂_nil_left_iff.mp hrest) (List.splitOn_ne_nil _ _)
      · obtain ⟨field, fields, hfield, hfields, heq⟩ := List.forall₂_cons_left_iff.mp hrest
        cases hfields
        rw [heq]
        exact ⟨[], .inl rfl, .cons (hfield.cons c) .nil⟩
  | case5 c rest hfeed hreturn first others hsome ih =>
      obtain ⟨last, hlast, hrest⟩ := ih
      rw [Text.splitOn_cons_of_ne hfeed]
      rw [hsome, List.cons_append] at hrest
      obtain ⟨field, fields, hfield, hfields, heq⟩ := List.forall₂_cons_left_iff.mp hrest
      rw [heq]
      exact ⟨last, hlast, .cons (hfield.cons c) hfields⟩

theorem significantFrom_eq_of_forall₂ {start : Nat} {lines fields : List (List Char)}
    (h : List.Forall₂ IsLineOf lines fields) :
    significantFrom start fields = significantFrom start lines := by
  induction h generalizing start with
  | nil => rfl
  | cons hline _ ih =>
      rw [significantFrom_cons, significantFrom_cons, ih]
      unfold significant?
      rw [hline.trim_eq]

theorem significantLines_eq_splitOn (source : String) :
    significantLines source = significantFrom 1 (source.toList.splitOn '\n') := by
  obtain ⟨last, hlast, hlines⟩ := forall₂_isLineOf source.toList
  have hnothing : ∀ start, significantFrom start last = [] := by
    obtain rfl | rfl := hlast
    · exact fun _ => rfl
    · exact fun _ => rfl
  rw [significantFrom_eq_of_forall₂ hlines, significantFrom_append, hnothing, List.append_nil,
    significantLines_eq_significantFrom]

/-- **Joining texts with a line feed joins their lines.** The lines of the second text are numbered
on from those of the first, of which there is one more than it has line feeds. -/
theorem significantLines_append_newline (a b : String) :
    significantLines (a ++ "\n" ++ b) = significantLines a ++
      (significantLines b).map (Prod.map (· + (1 + a.toList.count '\n')) id) := by
  have hsplit : (a ++ "\n" ++ b).toList.splitOn '\n' =
      a.toList.splitOn '\n' ++ b.toList.splitOn '\n' := by
    rw [String.toList_append, String.toList_append, List.append_assoc]
    exact List.splitOn_append_cons_self a.toList b.toList
  rw [significantLines_eq_splitOn, hsplit, significantFrom_append, ← significantLines_eq_splitOn,
    Text.length_splitOn, Nat.add_comm (List.count _ _), significantFrom_add,
    ← significantLines_eq_splitOn]

theorem significantTexts_append_newline (a b : String) :
    significantTexts (a ++ "\n" ++ b) = significantTexts a ++ significantTexts b := by
  rw [← map_snd_significantLines, significantLines_append_newline, List.map_append, List.map_map,
    map_snd_significantLines, ← map_snd_significantLines b]
  rfl

end StringScript
