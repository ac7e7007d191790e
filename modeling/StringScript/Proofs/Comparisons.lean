import StringScript.Expr.Eval
import StringScript.Proofs.Slices
import StringScript.Proofs.Splitting

/-!
# Comparisons and what the functions see of them

A condition compares whole texts, and the functions work on places, counts and arrays; both find the
same parts. What a text starts with is what stands before a place, what it ends with is what its
mirror image starts with, and what it contains is what it can be split at.
-/

namespace StringScript

namespace Comparison

variable {s t : String}

theorem equals_iff : equals.holds s t ↔ s = t := decide_eq_true_iff

theorem startsWith_iff : startsWith.holds s t ↔ t.toList <+: s.toList := List.isPrefixOf_iff_prefix

theorem endsWith_iff : endsWith.holds s t ↔ t.toList <:+ s.toList := List.isSuffixOf_iff_suffix

theorem contains_iff : contains.holds s t ↔ t.toList <:+: s.toList := Text.hasInfix_iff

open Builtin (length replace reverse shiftLeft split substring)

theorem startsWith_iff_take : startsWith.holds s t ↔ s.toList.take t.length = t.toList := by
  rw [startsWith_iff, List.prefix_iff_eq_take, String.length_toList]
  exact eq_comm

theorem endsWith_iff_startsWith_reverse : endsWith.holds s t ↔
    startsWith.holds (.ofList s.toList.reverse) (.ofList t.toList.reverse) := by
  rw [endsWith_iff, startsWith_iff, String.toList_ofList, String.toList_ofList, List.reverse_prefix]

theorem equals_iff_startsWith : equals.holds s t ↔ startsWith.holds s t ∧ startsWith.holds t s := by
  rw [equals_iff, startsWith_iff, startsWith_iff]
  constructor
  · rintro rfl
    exact ⟨List.prefix_refl _, List.prefix_refl _⟩
  · rintro ⟨hshorter, hlonger⟩
    exact String.toList_inj.mp (hlonger.eq_of_length_le hshorter.length_le)

theorem contains_iff_exists_drop : contains.holds s t ↔
    ∃ place ≤ s.length, startsWith.holds (.ofList (s.toList.drop place)) t := by
  simp only [contains_iff, startsWith_iff, String.toList_ofList, ← String.length_toList,
    Text.infix_iff_exists_prefix_drop]

theorem contains_iff_replace_ne (hne : t ≠ "") : contains.holds s t ↔
    ∃ new result, replace.apply [s, t, new] = .ok result ∧ result ≠ s := by
  have ht : t.toList ≠ [] := by simpa using hne
  rw [contains_iff, ← Text.exists_replaceAll_ne_iff ht]
  constructor
  · rintro ⟨new, hreplaced⟩
    refine ⟨.ofList new, _, rfl, fun heq => hreplaced ?_⟩
    have htexts := congrArg String.toList heq
    rwa [String.toList_ofList, String.toList_ofList] at htexts
  · rintro ⟨new, result, hresult, hreplaced⟩
    cases hresult
    refine ⟨new.toList, fun heq => hreplaced ?_⟩
    rw [heq, String.ofList_toList]

/-- **Comparisons agree with the functions on texts.** A text starts with its part before the place
that the length of the other names, and ends with what its mirror image starts with. It contains
what some rest of it starts with, what replacing it changes, and what it is split at. Two texts are
equal if each starts with the other. -/
theorem comparisons_agree (hs : s.length < Text.lengthBound) :
    (do return equals.holds (← substring.apply [s, "0", ← length.apply [t]]) t) =
      Except.ok (startsWith.holds s t) ∧
    (do return startsWith.holds (← reverse.apply [s]) (← reverse.apply [t])) =
      Except.ok (endsWith.holds s t) ∧
    (contains.holds s t ↔ ∃ n, Text.isNumeral n.toList ∧
      Text.numeralValue n.toList ≤ s.length ∧
      (do return startsWith.holds (← shiftLeft.apply [s, n]) t) = Except.ok true) ∧
    (t ≠ "" →
      (contains.holds s t ↔ ∃ new result, replace.apply [s, t, new] = .ok result ∧ result ≠ s) ∧
      (ArrayText.separator ∉ s.toList → ∃ array, split.apply [s, t] = .ok array ∧
        (contains.holds s t ↔ 2 ≤ (ArrayText.decode array).length))) ∧
    (equals.holds s t ↔ startsWith.holds s t ∧ startsWith.holds t s) := by
  have hmax := Text.le_maxCount_of_lt_lengthBound hs
  refine ⟨?_, ?_, ?_, fun hne => ⟨contains_iff_replace_ne hne, fun hfree => ?_⟩,
    equals_iff_startsWith⟩
  · have htake : equals.holds (.ofList (s.toList.take t.length)) t = startsWith.holds s t := by
      rw [Bool.eq_iff_iff, equals_iff, startsWith_iff_take, ← String.toList_inj,
        String.toList_ofList]
    rw [Builtin.length_eq]
    dsimp only [bind, Except.bind]
    rw [Builtin.substring_zero_eq (Builtin.isNumeral_countText _) hmax,
      Builtin.numeralValue_countText]
    exact congrArg Except.ok htake
  · rw [Builtin.reverse_eq, Builtin.reverse_eq]
    exact congrArg Except.ok (Bool.eq_iff_iff.mpr endsWith_iff_startsWith_reverse.symm)
  · have hshift {n : String} (hn : Text.isNumeral n.toList) :
        (do return startsWith.holds (← shiftLeft.apply [s, n]) t) = Except.ok true ↔
          startsWith.holds (.ofList (s.toList.drop (Text.numeralValue n.toList))) t := by
      rw [Builtin.shiftLeft_eq_drop hn hmax]
      change Except.ok (startsWith.holds _ t) = Except.ok true ↔ _
      rw [Except.ok.injEq]
    rw [contains_iff_exists_drop]
    constructor
    · rintro ⟨place, hplace, hstarts⟩
      refine ⟨.ofList (Nat.toDigits 10 place), Builtin.isNumeral_countText place, ?_,
        (hshift (Builtin.isNumeral_countText place)).mpr ?_⟩
      · rwa [Builtin.numeralValue_countText]
      · rwa [Builtin.numeralValue_countText]
    · rintro ⟨n, hn, hplace, hstarts⟩
      exact ⟨_, hplace, (hshift hn).mp hstarts⟩
  · have hshort := Nat.lt_trans hs Text.lengthBound_lt_maxCount
    obtain ⟨array, hsplit, harray⟩ := Builtin.isArrayOf_split hfree hshort t
    refine ⟨array, hsplit, ?_⟩
    rw [harray.decode_eq, List.length_map, Text.two_le_length_fields_iff (by simpa using hne),
      contains_iff]

/-- The second text overlaps itself at the end of the first. -/
theorem comparisons_agree_overlapping :
    let s := "\u00f1a\u00f1a\u00f1"
    let t := "\u00f1a\u00f1"
    s.length < Text.lengthBound ∧ t ≠ "" ∧ ArrayText.separator ∉ s.toList ∧
      (do return startsWith.holds (← reverse.apply [s]) (← reverse.apply [t])) =
        Except.ok true ∧
      (∃ n, Text.isNumeral n.toList ∧ Text.numeralValue n.toList ≤ s.length ∧
        (do return startsWith.holds (← shiftLeft.apply [s, n]) t) = Except.ok true) ∧
      (∃ new result, replace.apply [s, t, new] = .ok result ∧ result ≠ s) ∧
      ∃ array, split.apply [s, t] = .ok array ∧ 2 ≤ (ArrayText.decode array).length := by
  intro s t
  have hs : s.length < Text.lengthBound := by decide
  have hne : t ≠ "" := by decide
  have hfree : ArrayText.separator ∉ s.toList := by decide +kernel
  have hends : endsWith.holds s t = true := by decide +kernel
  have hcontains : contains.holds s t := by decide +kernel
  obtain ⟨-, hreverse, hshift, hsplits, -⟩ := comparisons_agree hs (t := t)
  obtain ⟨array, hsplit, htwo⟩ := (hsplits hne).2 hfree
  exact ⟨hs, hne, hfree, hreverse.trans (congrArg Except.ok hends), hshift.mp hcontains,
    (hsplits hne).1.mp hcontains, array, hsplit, htwo.mp hcontains⟩

end Comparison

end StringScript
