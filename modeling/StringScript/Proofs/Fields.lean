import Mathlib.Data.List.Basic
import StringScript.Text.Occurrence

/-!
# Texts cut at a character

A character cuts a text at its first occurrence, or at all of them. The fields between all of them
are one more than the occurrences; this tells when texts that were joined are read back.
-/

namespace StringScript.Text

theorem cutAt?_append_cons {sep : Char} {before : List Char} (h : sep ∉ before)
    (after : List Char) : cutAt? sep (before ++ sep :: after) = some (before, after) := by
  induction before with
  | nil => rw [List.nil_append, cutAt?, if_pos rfl]
  | cons c rest ih =>
      rw [List.mem_cons, not_or] at h
      rw [List.cons_append, cutAt?, if_neg (Ne.symm h.1), ih h.2]
      rfl

theorem cutAt?_eq_none_iff {sep : Char} {s : List Char} : cutAt? sep s = none ↔ sep ∉ s := by
  induction s with
  | nil => simp [cutAt?]
  | cons c rest ih =>
      by_cases hc : c = sep
      · simp [cutAt?, hc]
      · simp [cutAt?, hc, ih, Ne.symm hc]

theorem cutAt?_eq_some_iff {sep : Char} {s before after : List Char} :
    cutAt? sep s = some (before, after) ↔ s = before ++ sep :: after ∧ sep ∉ before := by
  constructor
  · intro h
    induction s generalizing before with
    | nil => cases h
    | cons c rest ih =>
        rw [cutAt?] at h
        split at h
        · next heq =>
            cases h
            rw [heq]
            exact ⟨rfl, List.not_mem_nil⟩
        · next hne =>
            obtain ⟨⟨earlier, later⟩, hcut, hparts⟩ := Option.map_eq_some_iff.mp h
            cases hparts
            obtain ⟨hrest, hfree⟩ := ih hcut
            exact ⟨congrArg (List.cons c) hrest,
              List.not_mem_cons_of_ne_of_not_mem (Ne.symm hne) hfree⟩
  · rintro ⟨rfl, hfree⟩
    exact cutAt?_append_cons hfree after

variable {x : Char}

theorem splitOn_cons_of_ne {c : Char} (h : c ≠ x) (s : List Char) :
    (c :: s).splitOn x = (s.splitOn x).modifyHead (List.cons c) := by
  rw [List.splitOn_cons_eq_if_modifyHead, if_neg (by simpa using h)]

theorem length_splitOn (x : Char) (s : List Char) : (s.splitOn x).length = s.count x + 1 := by
  induction s with
  | nil => rw [List.splitOn_nil, List.count_nil, List.length_singleton]
  | cons c rest ih =>
      rw [List.splitOn_cons_eq_if_modifyHead, List.count_cons]
      split
      · rw [List.length_cons, ih]
      · rw [List.length_modifyHead, ih, Nat.add_zero]

/-- Joined texts hold of each kind of character what the separators between them hold, of which
there is one less than there are texts, and what the texts hold. -/
theorem countP_intercalate (p : Char → Bool) (sep s : List Char) (others : List (List Char)) :
    (sep.intercalate (s :: others)).countP p =
      others.length * sep.countP p + (s :: others).flatten.countP p := by
  induction others generalizing s with
  | nil =>
      rw [List.intercalate_singleton, List.flatten_singleton, List.length_nil, Nat.zero_mul,
        Nat.zero_add]
  | cons next rest ih =>
      calc (sep.intercalate (s :: next :: rest)).countP p
        _ = s.countP p + sep.countP p + (sep.intercalate (next :: rest)).countP p := by
            rw [List.intercalate_cons_cons, List.countP_append, List.countP_append]
        _ = s.countP p + sep.countP p +
              (rest.length * sep.countP p + (next :: rest).flatten.countP p) := by rw [ih]
        _ = (rest.length + 1) * sep.countP p +
              (s.countP p + (next :: rest).flatten.countP p) := by
            rw [Nat.succ_mul]
            omega
        _ = (next :: rest).length * sep.countP p + (s :: next :: rest).flatten.countP p := by
            rw [List.length_cons, List.flatten_cons (l := s), List.countP_append]

theorem count_intercalate (x : Char) (s : List Char) (others : List (List Char)) :
    ([x].intercalate (s :: others)).count x = others.length + (s :: others).flatten.count x := by
  have hsep : [x].countP (· == x) = 1 := List.count_singleton_self
  rw [List.count_eq_countP, countP_intercalate, hsep, Nat.mul_one, List.count_eq_countP]

theorem length_intercalate (sep s : List Char) (others : List (List Char)) :
    (sep.intercalate (s :: others)).length =
      others.length * sep.length + (s :: others).flatten.length := by
  simp only [← List.countP_true, countP_intercalate]

/-- As many fields are read back as there were texts exactly if no text holds the separator. -/
theorem length_splitOn_intercalate_eq_iff {texts : List (List Char)} (hne : texts ≠ []) :
    (([x].intercalate texts).splitOn x).length = texts.length ↔ ∀ s ∈ texts, x ∉ s := by
  obtain ⟨first, others, rfl⟩ := List.exists_cons_of_ne_nil hne
  have hfree : (first :: others).flatten.count x = 0 ↔ ∀ s ∈ first :: others, x ∉ s := by
    rw [List.count_eq_zero, List.mem_flatten]
    exact ⟨fun h s hs hx => h ⟨s, hs, hx⟩, fun h ⟨s, hs, hx⟩ => h s hs hx⟩
  rw [← hfree, length_splitOn, count_intercalate, List.length_cons]
  omega

theorem notMem_of_mem_splitOn {s field : List Char} (h : field ∈ s.splitOn x) : x ∉ field := by
  have hback : [x].intercalate (s.splitOn x) = s := List.intercalate_splitOn x
  refine (length_splitOn_intercalate_eq_iff (List.splitOn_ne_nil x s)).mp ?_ field h
  rw [hback]

end StringScript.Text
