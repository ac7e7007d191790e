/-!
# Lines

A line ends at a line feed, which is not part of it, and neither is one carriage return right before
the line feed. Text after the last line feed is a line of its own unless it is empty; there a final
carriage return is ordinary text.
-/

namespace StringScript.Text

def lines : List Char → List (List Char)
  | [] => []
  | '\n' :: rest => [] :: lines rest
  | '\r' :: '\n' :: rest => [] :: lines rest
  | c :: rest =>
    match lines rest with
    | [] => [[c]]
    | first :: others => (c :: first) :: others

/-- The lines of a text, each with its number, counted from 1. -/
def numberedLines (text : List Char) : List (Nat × List Char) :=
  (lines text).zipIdx 1 |>.map Prod.swap

theorem map_snd_numberedLines (text : List Char) :
    (numberedLines text).map Prod.snd = lines text := by
  rw [numberedLines, List.map_map]
  exact List.zipIdx_map_fst 1 (lines text)

theorem map_fst_numberedLines (text : List Char) :
    (numberedLines text).map Prod.fst = List.range' 1 (lines text).length := by
  rw [numberedLines, List.map_map]
  exact List.zipIdx_map_snd 1 (lines text)

theorem mem_numberedLines_iff {number : Nat} {line text : List Char} :
    (number, line) ∈ numberedLines text ↔
      ∃ index, number = index + 1 ∧ (lines text)[index]? = some line := by
  have hswap : (number, line) ∈ numberedLines text ↔ (line, number) ∈ (lines text).zipIdx 1 := by
    constructor
    · intro h
      obtain ⟨pair, hpair, heq⟩ := List.mem_map.mp h
      cases heq
      exact hpair
    · exact fun h => List.mem_map.mpr ⟨_, h, rfl⟩
  rw [hswap, List.mk_mem_zipIdx_iff_le_and_getElem?_sub]
  constructor
  · rintro ⟨hnumber, hline⟩
    exact ⟨number - 1, (Nat.sub_add_cancel hnumber).symm, hline⟩
  · rintro ⟨index, rfl, hline⟩
    exact ⟨Nat.le_add_left 1 index, hline⟩

end StringScript.Text
