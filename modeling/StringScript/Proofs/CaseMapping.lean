import Mathlib.Data.List.Basic
import StringScript.ArrayText
import StringScript.Text.Case

/-!
# Case mappings and separators

Upper and lower case leave digits and separators as they are and bring in no separator. So they keep
the header of an array and the number of its items.
-/

namespace StringScript

open ArrayText (separator)

namespace Unicode

/-! ### Single characters -/

/-- The table has images only for characters after the digits, and none is a separator. -/
def AvoidsHeaders (pairs : List (Nat × Nat)) : Prop :=
  ∀ pair ∈ pairs, '9'.toNat < pair.1 ∧ Char.ofNat pair.2 ≠ separator

instance (pairs : List (Nat × Nat)) : Decidable (AvoidsHeaders pairs) :=
  inferInstanceAs (Decidable (∀ pair ∈ pairs, _))

theorem avoidsHeaders_upperPairs : AvoidsHeaders upperPairs := by
  unfold upperPairs numbers
  simp only [List.flatMap_cons, List.flatMap_nil]
  -- The letters of the table have to stand as a list: the kernel is slow to decode a text.
  repeat rw [String.toList_ofList]
  decide +kernel

theorem avoidsHeaders_lowerPairs : AvoidsHeaders lowerPairs := by
  unfold lowerPairs numbers
  simp only [List.flatMap_cons, List.flatMap_nil]
  repeat rw [String.toList_ofList]
  decide +kernel

theorem upperStrings_avoid_headers :
    ∀ entry ∈ upperStrings, '9'.toNat < entry.1 ∧ separator ∉ entry.2.map Char.ofNat := by
  decide +kernel

section Lookup

variable {α : Type} {entries : List (Nat × α)} {n : Nat}

theorem lookup_eq_none_of_le (h : ∀ entry ∈ entries, '9'.toNat < entry.1) (hn : n ≤ '9'.toNat) :
    entries.lookup n = none := by
  refine List.lookup_eq_none_iff.mpr fun entry hentry => ?_
  have hlt := h entry hentry
  simp only [bne_iff_ne, ne_eq]
  omega

theorem mem_of_lookup_eq_some {image : α} (h : entries.lookup n = some image) :
    (n, image) ∈ entries := by
  obtain ⟨before, after, rfl, -⟩ := List.lookup_eq_some_iff.mp h
  exact List.mem_append_right before List.mem_cons_self

end Lookup

/-- The images leave the characters of headers as they are, and only a separator gives one. -/
structure KeepsHeaders (image : Char → List Char) : Prop where
  eq_singleton : ∀ c, c.toNat ≤ '9'.toNat → image c = [c]
  separator_notMem : ∀ c, c ≠ separator → separator ∉ image c

theorem KeepsHeaders.count_separator {image : Char → List Char} (h : KeepsHeaders image)
    (c : Char) : (image c).count separator = [c].count separator := by
  by_cases hc : c = separator
  · rw [h.eq_singleton c (by rw [hc]; decide)]
  · rw [List.count_eq_zero_of_not_mem (h.separator_notMem c hc),
      List.count_eq_zero_of_not_mem (by simpa using Ne.symm hc)]

theorem keepsHeaders_upperOf : KeepsHeaders upperOf := by
  constructor
  · intro c hc
    rw [upperOf, lookup_eq_none_of_le (fun entry h => (upperStrings_avoid_headers entry h).1) hc,
      lookup_eq_none_of_le (fun pair h => (avoidsHeaders_upperPairs pair h).1) hc]
  · intro c hc
    unfold upperOf
    split
    · next image hlookup =>
        exact (upperStrings_avoid_headers _ (mem_of_lookup_eq_some hlookup)).2
    · next image _ hlookup =>
        have himage := (avoidsHeaders_upperPairs _ (mem_of_lookup_eq_some hlookup)).2
        simpa using Ne.symm himage
    · simpa using Ne.symm hc

theorem keepsHeaders_lowerOf : KeepsHeaders lowerOf := by
  constructor
  · intro c hc
    have hdot : c.toNat ≠ 0x130 := fun heq => absurd (heq ▸ hc) (by decide)
    rw [lowerOf, if_neg hdot,
      lookup_eq_none_of_le (fun pair h => (avoidsHeaders_lowerPairs pair h).1) hc]
  · intro c hc
    unfold lowerOf
    split
    · decide
    · split
      · next image hlookup =>
          have himage := (avoidsHeaders_lowerPairs _ (mem_of_lookup_eq_some hlookup)).2
          simpa using Ne.symm himage
      · simpa using Ne.symm hc

end Unicode

/-! ### Texts -/

namespace Text

open Unicode

/-- The characters up to the last digit, those of headers among them. -/
def IsBeforeLetters (s : List Char) : Prop := ∀ c ∈ s, c.toNat ≤ '9'.toNat

variable {header : List Char}

theorem upper_append (hheader : IsBeforeLetters header) (s : List Char) :
    upper (header ++ s) = header ++ upper s := by
  unfold upper
  rw [List.flatMap_append]
  congr 1
  induction header with
  | nil => rfl
  | cons c rest ih =>
      obtain ⟨hc, hrest⟩ := List.forall_mem_cons.mp hheader
      rw [List.flatMap_cons, keepsHeaders_upperOf.eq_singleton c hc, ih hrest,
        List.singleton_append]

theorem count_separator_upper (s : List Char) : (upper s).count separator = s.count separator := by
  induction s with
  | nil => rfl
  | cons c rest ih =>
      calc (upper (c :: rest)).count separator
        _ = (upperOf c).count separator + (upper rest).count separator := List.count_append
        _ = [c].count separator + rest.count separator := by
            rw [keepsHeaders_upperOf.count_separator, ih]
        _ = (c :: rest).count separator := List.count_append.symm

theorem lowerFrom_append (hheader : IsBeforeLetters header) (before s : List Char) :
    ∃ earlier, lowerFrom before (header ++ s) = header ++ lowerFrom earlier s := by
  induction header generalizing before with
  | nil => exact ⟨before, rfl⟩
  | cons c rest ih =>
      obtain ⟨hc, hrest⟩ := List.forall_mem_cons.mp hheader
      have hsigma : c ≠ 'Σ' := fun heq => absurd (heq ▸ hc) (by decide)
      obtain ⟨earlier, hlower⟩ := ih hrest (c :: before)
      refine ⟨earlier, ?_⟩
      rw [List.cons_append, lowerFrom, if_pos hsigma, keepsHeaders_lowerOf.eq_singleton c hc,
        hlower]
      rfl

theorem count_separator_lowerFrom (before s : List Char) :
    (lowerFrom before s).count separator = s.count separator := by
  induction s generalizing before with
  | nil => rfl
  | cons c rest ih =>
      have himage : (if c ≠ 'Σ' then lowerOf c else
          if meetsCased before && !meetsCased rest then ['ς'] else ['σ']).count separator =
            [c].count separator := by
        split
        · exact keepsHeaders_lowerOf.count_separator c
        · next hsigma =>
            rw [not_not.mp hsigma]
            split <;> decide
      calc (lowerFrom before (c :: rest)).count separator
        _ = [c].count separator + (lowerFrom (c :: before) rest).count separator := by
            rw [lowerFrom, List.count_append, himage]
        _ = [c].count separator + rest.count separator := by rw [ih]
        _ = (c :: rest).count separator := List.count_append.symm

end Text

end StringScript
