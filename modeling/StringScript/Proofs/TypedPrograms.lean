import StringScript.Proofs.Delivery
import StringScript.Proofs.Grammar.Numbering

/-!
# Typed programs

A program that a person types is read line by line up to a line that ends it, and its lines are put
together again; a program on the input is read as it stands. Carriage returns and a last line feed
may get lost or come in on the way, and neither changes a significant line or its number. So a
typed program runs like the text before the line that ends it.
-/

namespace StringScript

/-! ### Lines that are put together -/

theorem intercalate_append {c : Char} (lines : List (List Char)) {others : List (List Char)}
    (h : others ≠ []) :
    [c].intercalate (lines ++ others) = lines.flatMap (· ++ [c]) ++ [c].intercalate others := by
  induction lines with
  | nil => rfl
  | cons line rest ih =>
      have hne : rest ++ others ≠ [] := List.append_ne_nil_of_right_ne_nil rest h
      obtain ⟨next, more, hmore⟩ := List.exists_cons_of_ne_nil hne
      rw [List.cons_append, List.flatMap_cons, List.append_assoc, ← ih, hmore,
        List.intercalate_cons_cons]

theorem significantLines_unlines {lines : List (List Char)} (h : ∀ line ∈ lines, '\n' ∉ line) :
    significantLines (.ofList (lines.flatMap (· ++ ['\n']))) = significantFrom 1 lines := by
  have hfree : ∀ line ∈ lines ++ [[]], '\n' ∉ line := by
    intro line hline
    obtain hline | hline := List.mem_append.mp hline
    · exact h line hline
    · simp [List.mem_singleton.mp hline]
  have hsplit : (lines.flatMap (· ++ ['\n'])).splitOn '\n' = lines ++ [[]] := by
    have hjoin : ['\n'].intercalate (lines ++ [[]]) = lines.flatMap (· ++ ['\n']) := by
      rw [intercalate_append lines (by simp), List.intercalate_singleton, List.append_nil]
    rw [← hjoin]
    exact List.splitOn_intercalate '\n' hfree (by simp)
  have hblank : significantFrom (1 + lines.length) [[]] = [] := rfl
  rw [significantLines_eq_splitOn, String.toList_ofList, hsplit, significantFrom_append, hblank,
    List.append_nil]

theorem IsLineOf.notMem {line field : List Char} {c : Char} (h : IsLineOf line field)
    (hc : c ∉ field) : c ∉ line := by
  obtain rfl | rfl := h
  · exact hc
  · exact fun hmem => hc (List.mem_append_left _ hmem)

theorem notMem_of_forall₂_isLineOf {c : Char} {lines fields : List (List Char)}
    (h : List.Forall₂ IsLineOf lines fields) (hc : ∀ field ∈ fields, c ∉ field) :
    ∀ line ∈ lines, c ∉ line := by
  induction h with
  | nil => simp
  | cons hline _ ih =>
      rw [List.forall_mem_cons] at hc ⊢
      exact ⟨hline.notMem hc.1, ih hc.2⟩

namespace CommandLine

/-- The lines before the first one that ends a typed program. -/
def linesUntilExit (text : String) : List (List Char) :=
  (text.toList.splitOn '\n').takeWhile (!isExit ·)

/-- The text up to the start of its first line that ends a typed program. -/
def untilExit (text : String) : String :=
  if linesUntilExit text = text.toList.splitOn '\n' then text
  else .ofList ((linesUntilExit text).flatMap (· ++ ['\n']))

theorem notMem_linesUntilExit {text : String} : ∀ line ∈ linesUntilExit text, '\n' ∉ line :=
  fun _ hline => Text.notMem_of_mem_splitOn (List.takeWhile_subset _ hline)

/-- What follows in the text, if anything does, starts with a line that ends the program. -/
theorem exists_rest_untilExit (text : String) :
    ∃ rest, text.toList = (untilExit text).toList ++ rest ∧
      (rest = [] ∨ ∃ line others, rest.splitOn '\n' = line :: others ∧ isExit line) := by
  have hpieces : linesUntilExit text ++ (text.toList.splitOn '\n').dropWhile (!isExit ·) =
      text.toList.splitOn '\n' := List.takeWhile_append_dropWhile
  unfold untilExit
  split
  · exact ⟨[], (List.append_nil _).symm, .inl rfl⟩
  · next hsome =>
      cases hdrop : (text.toList.splitOn '\n').dropWhile (!isExit ·) with
      | nil =>
          rw [hdrop, List.append_nil] at hpieces
          exact absurd hpieces hsome
      | cons line others =>
          rw [hdrop] at hpieces
          have hfree : ∀ piece ∈ line :: others, '\n' ∉ piece := fun piece hpiece =>
            Text.notMem_of_mem_splitOn (hpieces ▸ List.mem_append_right _ hpiece)
          refine ⟨['\n'].intercalate (line :: others), ?_, .inr ⟨line, others, ?_, ?_⟩⟩
          · rw [String.toList_ofList, ← intercalate_append _ (List.cons_ne_nil _ _), hpieces,
              List.intercalate_splitOn]
          · exact List.splitOn_intercalate '\n' hfree (List.cons_ne_nil _ _)
          · have hhead := List.head?_dropWhile_not (!isExit ·) (text.toList.splitOn '\n')
            rw [hdrop] at hhead
            simpa using hhead

theorem significantLines_untilExit (text : String) :
    significantLines (untilExit text) = significantFrom 1 (linesUntilExit text) := by
  unfold untilExit
  split
  · next hall => rw [hall, significantLines_eq_splitOn]
  · exact significantLines_unlines notMem_linesUntilExit

theorem isLineOf_dropReturn (piece : List Char) : IsLineOf (dropReturn piece) piece := by
  unfold dropReturn
  split
  · next hlast => exact .inr (List.dropLast_append_getLast? _ hlast).symm
  · exact .inl rfl

/-- The lines that are read are the pieces before the line that ends the program, perhaps without
an empty last one. -/
theorem exists_typedLines : ∀ pieces : List (List Char),
    ∃ lines last, typedLines true pieces = .ok lines ∧ (last = [] ∨ last = [[]]) ∧
      List.Forall₂ IsLineOf (lines ++ last) (pieces.takeWhile (!isExit ·))
  | [] => ⟨[], [], rfl, .inl rfl, .nil⟩
  | [last] => by
      by_cases hexit : isExit last
      · exact ⟨[], [], by simp [typedLines, hexit], .inl rfl, by simp [hexit]⟩
      · have hkept : [last].takeWhile (!isExit ·) = [last] := by simp [hexit]
        rw [hkept]
        by_cases hempty : last = []
        · refine ⟨[], [[]], by simp [typedLines, hempty], .inr rfl, ?_⟩
          exact .cons (.inl hempty) .nil
        · exact ⟨[last], [], by simp [typedLines, hexit, hempty], .inl rfl, .cons (.inl rfl) .nil⟩
  | piece :: next :: rest => by
      obtain ⟨lines, last, hlines, hlast, hforall⟩ := exists_typedLines (next :: rest)
      by_cases hexit : isExit piece
      · exact ⟨[], [], by simp [typedLines, hexit], .inl rfl, by simp [hexit]⟩
      · have hkept : (piece :: next :: rest).takeWhile (!isExit ·) =
            piece :: (next :: rest).takeWhile (!isExit ·) := by
          rw [List.takeWhile_cons_of_pos (by simp [hexit])]
        rw [hkept]
        refine ⟨dropReturn piece :: lines, last, ?_, hlast, ?_⟩
        · rw [typedLines, if_neg hexit, hlines]
          · rfl
          · simp
        · exact .cons (isLineOf_dropReturn piece) hforall

/-- A typed program has the statements, or the fault, of the text before the line that ends it. -/
theorem exists_typedProgram (text : String) :
    ∃ source, typedProgram (.ofString text) = .ok source ∧
      parseProgram source = parseProgram (untilExit text) := by
  obtain ⟨lines, last, hlines, hlast, hforall⟩ := exists_typedLines (text.toList.splitOn '\n')
  refine ⟨.ofList (lines.flatMap (· ++ ['\n'])), ?_, ?_⟩
  · have hread : typedLines (Text.ByteText.ofString text).isWhole
        ((Text.ByteText.ofString text).chars.splitOn '\n') = .ok lines := hlines
    rw [typedProgram, hread]
    rfl
  · have hfree : ∀ line ∈ lines, '\n' ∉ line := fun line hline =>
      notMem_of_forall₂_isLineOf hforall notMem_linesUntilExit line (List.mem_append_left _ hline)
    have hnothing : significantFrom (1 + lines.length) last = [] := by
      obtain rfl | rfl := hlast
      · rfl
      · rfl
    have hsignificant : significantLines (.ofList (lines.flatMap (· ++ ['\n']))) =
        significantLines (untilExit text) := by
      calc significantLines (.ofList (lines.flatMap (· ++ ['\n'])))
        _ = significantFrom 1 lines := significantLines_unlines hfree
        _ = significantFrom 1 (lines ++ last) := by
            rw [significantFrom_append, hnothing, List.append_nil]
        _ = significantFrom 1 (linesUntilExit text) :=
            (significantFrom_eq_of_forall₂ hforall).symm
        _ = significantLines (untilExit text) := (significantLines_untilExit text).symm
    unfold parseProgram
    rw [hsignificant]

theorem limit_isTerminal (s : Surroundings) (isTerminal : Bool) (args : Arguments) :
    limit { s with isTerminal } args = limit s args := rfl

theorem notices_setup_isTerminal (s : Surroundings) (isTerminal : Bool) (args : Arguments) :
    (setup { s with isTerminal } args).notices = (setup s args).notices := by
  have hfile : fileSettings { s with isTerminal } = fileSettings s := rfl
  have hsettings : settings { s with isTerminal } args = settings s args := by
    unfold settings
    rw [hfile]
  have hfilter : logFilter? { s with isTerminal } = logFilter? s := rfl
  unfold setup
  rw [hsettings, hfilter]

end CommandLine

end StringScript
