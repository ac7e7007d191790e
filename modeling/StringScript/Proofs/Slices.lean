import StringScript.Proofs.Positions

/-!
# Parts of a text

A place cuts a text into what comes before it and what comes from it on, and the functions that take
such parts agree on where that is. What one of them does at the left end of a text, another does at
the right end of its mirror image. The length of a text is written as a numeral that they read back.
-/

namespace StringScript

namespace Text

theorem numeralValue_toDigits (n : Nat) : numeralValue (Nat.toDigits 10 n) = n :=
  Nat.ofDigitChars_ten_toDigits

end Text

namespace Builtin

variable {s t n : String}

/-! ### Counts that are written and read -/

theorem length_eq (s : String) : length.apply [s] = .ok (.ofList (Nat.toDigits 10 s.length)) := by
  rw [apply, Nat.toString_eq_ofList_toDigits]

/-- The text is the number in decimal digits, and each function reads it back as that number: as a
count, and as a remainder where it rotates. -/
structure IsCountText (text : String) (number : Nat) : Prop where
  toList_eq : text.toList = Nat.toDigits 10 number
  count_eq : ∀ f position, count f position text = .ok number
  residue_eq : ∀ f position modulus, modulus ≠ 0 →
    (digits f position text).map (Text.residue modulus) = .ok (number % modulus)

theorem isNumeral_countText (number : Nat) :
    Text.isNumeral (String.ofList (Nat.toDigits 10 number)).toList := by
  rw [String.toList_ofList]
  exact Text.isNumeral_toDigits number

theorem numeralValue_countText (number : Nat) :
    Text.numeralValue (String.ofList (Nat.toDigits 10 number)).toList = number := by
  rw [String.toList_ofList, Text.numeralValue_toDigits]

theorem isCountText {number : Nat} (h : number ≤ Text.maxCount) :
    IsCountText (.ofList (Nat.toDigits 10 number)) number := by
  have hnumeral := isNumeral_countText number
  refine ⟨String.toList_ofList, fun f position => ?_, fun f position modulus hmodulus => ?_⟩
  · rw [count_of_isNumeral hnumeral, Text.cappedValue_eq_min, numeralValue_countText,
      Nat.min_eq_left h]
  · rw [digits_of_isNumeral hnumeral, Except.map, Text.residue_eq_mod hmodulus,
      numeralValue_countText]

/-! ### Before a place and from it on -/

theorem substring_zero_eq (hn : Text.isNumeral n.toList) (hs : s.length ≤ Text.maxCount) :
    substring.apply [s, "0", n] =
      .ok (.ofList (s.toList.take (Text.numeralValue n.toList))) := by
  have hzero : Text.isNumeral "0".toList := by decide +kernel
  rw [substring_eq hzero hn hs]
  exact congrArg (fun chars => Except.ok (String.ofList chars)) (List.drop_zero)

theorem shiftLeft_eq_drop (hn : Text.isNumeral n.toList) (hs : s.length ≤ Text.maxCount) :
    shiftLeft.apply [s, n] = .ok (.ofList (s.toList.drop (Text.numeralValue n.toList))) := by
  have hdrop : s.toList.drop (min (Text.numeralValue n.toList) s.length) =
      s.toList.drop (Text.numeralValue n.toList) := by
    rw [List.drop_eq_drop_iff, String.length_toList]
    omega
  rw [shiftLeft_eq hn hs, hdrop]

theorem shiftRight_eq_take (hn : Text.isNumeral n.toList) (hs : s.length ≤ Text.maxCount) :
    shiftRight.apply [s, n] =
      .ok (.ofList (s.toList.take (s.length - Text.numeralValue n.toList))) := by
  have hleft : s.length - min (Text.numeralValue n.toList) s.length =
      s.length - Text.numeralValue n.toList := by
    omega
  rw [shiftRight_eq hn hs, hleft]

/-! ### Mirror images -/

theorem reverse_eq (s : String) : reverse.apply [s] = .ok (.ofList s.toList.reverse) := rfl

theorem reverse_rotated (s : List Char) (k : Nat) :
    (rotated s (s.length - k)).reverse = rotated s.reverse k := by
  rw [rotated, rotated, List.reverse_append, List.drop_reverse, List.take_reverse]

theorem shiftLeft_mirrored (hn : Text.isNumeral n.toList) (hs : s.length ≤ Text.maxCount) :
    shiftLeft.apply [.ofList s.toList.reverse, n] =
      .ok (.ofList (s.toList.take (s.length - Text.numeralValue n.toList)).reverse) := by
  have hlength : (String.ofList s.toList.reverse).length ≤ Text.maxCount := by
    rw [String.length_ofList, List.length_reverse, String.length_toList]
    exact hs
  rw [shiftLeft_eq_drop hn hlength, String.toList_ofList, List.drop_reverse, String.length_toList]

theorem rotateLeft_mirrored (hn : Text.isNumeral n.toList) :
    rotateLeft.apply [.ofList s.toList.reverse, n] = .ok (.ofList
      (rotated s.toList (s.length - Text.numeralValue n.toList % s.length)).reverse) := by
  rw [rotateLeft_eq hn, String.toList_ofList, String.length_ofList, List.length_reverse,
    ← String.length_toList, reverse_rotated]

/-- **The parts of a text fit together.** What comes before a place and from it on is the text, and
each of the two is had in two ways. At the right end of a text its mirror image is cut and rotated
at the left end. The length is a numeral that is read back as it is. -/
theorem slices_fit_together (hs : s.length < Text.lengthBound) (hn : Text.isNumeral n.toList) :
    (do concat.apply [← substring.apply [s, "0", n], ← shiftLeft.apply [s, n]]) = .ok s ∧
    (do shiftRight.apply [s, ← length.apply [← shiftLeft.apply [s, n]]]) =
      substring.apply [s, "0", n] ∧
    (do substring.apply [s, n, ← length.apply [s]]) = shiftLeft.apply [s, n] ∧
    (∃ t, (do shiftLeft.apply [← reverse.apply [s], n]) = .ok t ∧
      (do reverse.apply [← shiftRight.apply [s, n]]) = .ok t) ∧
    (∃ t, (do rotateLeft.apply [← reverse.apply [s], n]) = .ok t ∧
      (do reverse.apply [← rotateRight.apply [s, n]]) = .ok t) ∧
    ∃ size, length.apply [s] = .ok size ∧ IsCountText size s.length := by
  have hmax := Text.le_maxCount_of_lt_lengthBound hs
  have hfront := substring_zero_eq hn hmax
  have hrest := shiftLeft_eq_drop hn hmax
  refine ⟨?_, ?_, ?_, ⟨_, shiftLeft_mirrored hn hmax, ?_⟩, ⟨_, rotateLeft_mirrored hn, ?_⟩,
    _, length_eq s, isCountText hmax⟩
  · rw [hfront, hrest]
    dsimp only [bind, Except.bind]
    rw [apply, ← String.ofList_append, List.take_append_drop, String.ofList_toList]
  · have hback : s.toList.take (s.length - (s.length - Text.numeralValue n.toList)) =
        s.toList.take (Text.numeralValue n.toList) := by
      rw [List.take_eq_take_iff, String.length_toList]
      omega
    rw [hrest, hfront]
    dsimp only [bind, Except.bind]
    rw [length_eq]
    dsimp only
    rw [shiftRight_eq_take (isNumeral_countText _) hmax, numeralValue_countText,
      String.length_ofList, List.length_drop, String.length_toList, hback]
  · rw [hrest, length_eq]
    dsimp only [bind, Except.bind]
    rw [substring_eq hn (isNumeral_countText _) hmax, numeralValue_countText, slice,
      ← String.length_toList, List.take_length]
  · rw [shiftRight_eq_take hn hmax]
    dsimp only [bind, Except.bind]
    rw [reverse_eq, String.toList_ofList]
  · rw [rotateRight_eq hn]
    dsimp only [bind, Except.bind]
    rw [reverse_eq, String.toList_ofList]

/-- The place lies behind the text, and beyond the counts. -/
theorem slices_fit_together_behind :
    let s := "a\u00f1b"
    let n := "0018446744073709551617"
    s.length < Text.lengthBound ∧ Text.isNumeral n.toList ∧
      (do concat.apply [← substring.apply [s, "0", n], ← shiftLeft.apply [s, n]]) = .ok s ∧
      (do shiftRight.apply [s, ← length.apply [← shiftLeft.apply [s, n]]]) =
        substring.apply [s, "0", n] ∧
      (do substring.apply [s, n, ← length.apply [s]]) = shiftLeft.apply [s, n] ∧
      (∃ t, (do rotateLeft.apply [← reverse.apply [s], n]) = .ok t ∧
        (do reverse.apply [← rotateRight.apply [s, n]]) = .ok t) ∧
      ∃ size, length.apply [s] = .ok size ∧ size.toList = ['3'] := by
  intro s n
  have hs : s.length < Text.lengthBound := by decide
  have hn : Text.isNumeral n.toList := by decide +kernel
  obtain ⟨hwhole, hfront, hrest, -, hturn, size, hsize, htext⟩ := slices_fit_together hs hn
  have hdigits : Nat.toDigits 10 s.length = ['3'] := by decide +kernel
  exact ⟨hs, hn, hwhole, hfront, hrest, hturn, size, hsize, htext.toList_eq.trans hdigits⟩

end Builtin

end StringScript
