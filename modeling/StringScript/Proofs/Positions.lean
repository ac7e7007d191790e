import StringScript.Proofs.Intact
import StringScript.Proofs.Ranges

/-!
# Positions and counts of any size

Numerals stand for exact natural numbers wherever a function takes one. Counts stop at the largest
64-bit number, but no text has so many characters or items that this could be told; and rotations
see a numeral only by its remainder.
-/

namespace StringScript

/-- Each text that fits into memory has fewer characters. -/
def Text.lengthBound : Nat := Nat.pow 2 63

theorem Text.lengthBound_lt_maxCount : Text.lengthBound < Text.maxCount := by decide

theorem Text.le_maxCount_of_lt_lengthBound {length : Nat} (h : length < Text.lengthBound) :
    length ≤ Text.maxCount :=
  Nat.le_of_lt (Nat.lt_trans h Text.lengthBound_lt_maxCount)

namespace ArrayText

theorem length_decode_le (text : String) : (decode text).length ≤ text.length + 1 := by
  unfold decode
  cases hitems : items? text with
  | none => simp
  | some items =>
      obtain ⟨header, -, -, htext⟩ := items?_eq_some_iff.mp hitems
      cases items with
      | nil => exact Nat.zero_le _
      | cons first others =>
          have hcount := Text.count_intercalate separator first.toList (others.map String.toList)
          have hle := List.count_le_length (a := separator)
            (l := [separator].intercalate (first.toList :: others.map String.toList))
          rw [← String.length_toList, htext, List.length_append, List.length_cons, List.map_cons]
          rw [List.length_map] at hcount
          change others.length + 1 ≤ _
          omega

theorem length_decode_le_maxCount {text : String} (h : text.length < Text.lengthBound) :
    (decode text).length ≤ Text.maxCount :=
  Nat.le_trans (length_decode_le text) (Nat.lt_trans h Text.lengthBound_lt_maxCount)

end ArrayText

namespace Builtin

/-- A slice is the characters at the places from `start` on and before `stop`. -/
theorem slice_eq_filter_zipIdx (s : List Char) (start stop : Nat) :
    slice s start stop =
      (s.zipIdx.filter fun place => start ≤ place.2 ∧ place.2 < stop).map Prod.fst := by
  have hfrom : ∀ k, (s.take (stop - k)).drop (start - k) =
      ((s.zipIdx k).filter fun place => start ≤ place.2 ∧ place.2 < stop).map Prod.fst := by
    induction s with
    | nil => simp
    | cons c rest ih =>
        intro k
        have hnext := ih (k + 1)
        rw [List.zipIdx_cons, List.filter_cons]
        by_cases hstop : k < stop
        · have htake : (c :: rest).take (stop - k) = c :: rest.take (stop - (k + 1)) := by
            rw [← Nat.sub_add_cancel (Nat.sub_pos_of_lt hstop), List.take_succ_cons, Nat.sub_sub]
          rw [htake]
          by_cases hstart : start ≤ k
          · have hsub : start - k = 0 := Nat.sub_eq_zero_of_le hstart
            have hsub' : start - (k + 1) = 0 := by omega
            rw [hsub', List.drop_zero] at hnext
            rw [hsub, List.drop_zero, if_pos (by simp [hstart, hstop]), List.map_cons, hnext]
          · have hsub : start - k = start - (k + 1) + 1 := by omega
            rw [hsub, List.drop_succ_cons, if_neg (by simp [hstart]), hnext]
        · have hsub : stop - k = 0 := by omega
          have hsub' : stop - (k + 1) = 0 := by omega
          rw [hsub', List.take_zero, List.drop_nil] at hnext
          rw [hsub, List.take_zero, List.drop_nil, if_neg (by simp [hstop]), hnext]
  exact hfrom 0

variable {s n m : String}

/-! Counts that stop at the largest one make no difference to a text of fewer characters. -/

theorem shiftLeft_eq (hn : Text.isNumeral n.toList) (hs : s.length ≤ Text.maxCount) :
    shiftLeft.apply [s, n] =
      .ok (.ofList (s.toList.drop (min (Text.numeralValue n.toList) s.length))) := by
  have hdrop : s.toList.drop (Text.cappedValue n.toList) =
      s.toList.drop (min (Text.numeralValue n.toList) s.length) := by
    rw [Text.cappedValue_eq_min, List.drop_eq_drop_iff, String.length_toList]
    omega
  rw [apply, count_of_isNumeral hn, ← hdrop]
  rfl

theorem shiftRight_eq (hn : Text.isNumeral n.toList) (hs : s.length ≤ Text.maxCount) :
    shiftRight.apply [s, n] = .ok (.ofList
      (s.toList.take (s.length - min (Text.numeralValue n.toList) s.length))) := by
  have hleft : s.length - Text.cappedValue n.toList =
      s.length - min (Text.numeralValue n.toList) s.length := by
    rw [Text.cappedValue_eq_min]
    omega
  rw [apply, count_of_isNumeral hn, ← hleft]
  rfl

theorem substring_eq (hn : Text.isNumeral n.toList) (hm : Text.isNumeral m.toList)
    (hs : s.length ≤ Text.maxCount) :
    substring.apply [s, n, m] = .ok (.ofList
      (slice s.toList (Text.numeralValue n.toList) (Text.numeralValue m.toList))) := by
  have hslice : slice s.toList (Text.cappedValue n.toList) (Text.cappedValue m.toList) =
      slice s.toList (Text.numeralValue n.toList) (Text.numeralValue m.toList) := by
    have hlength : s.toList.length ≤ Text.maxCount := hs
    have htake : s.toList.take (min (Text.numeralValue m.toList) Text.maxCount) =
        s.toList.take (Text.numeralValue m.toList) := by
      rw [List.take_eq_take_iff]
      omega
    rw [Text.cappedValue_eq_min, Text.cappedValue_eq_min, slice, slice, htake,
      List.drop_eq_drop_iff, List.length_take]
    omega
  rw [apply, count_of_isNumeral hn, count_of_isNumeral hm, ← hslice]
  rfl

theorem getElem?_cappedValue {items : List String} (hitems : items.length ≤ Text.maxCount) :
    items[Text.cappedValue n.toList]? = items[Text.numeralValue n.toList]? := by
  rw [Text.cappedValue_eq_min]
  obtain hlt | hle := Nat.lt_or_ge Text.maxCount (Text.numeralValue n.toList)
  · rw [List.getElem?_eq_none (by omega), List.getElem?_eq_none (by omega)]
  · rw [Nat.min_eq_left hle]

theorem get_eq_ok {item : String} (hn : Text.isNumeral n.toList)
    (hitems : (ArrayText.decode s).length ≤ Text.maxCount)
    (h : (ArrayText.decode s)[Text.numeralValue n.toList]? = some item) :
    get.apply [s, n] = .ok item := by
  rw [← getElem?_cappedValue hitems] at h
  rw [apply, count_of_isNumeral hn]
  dsimp only [bind, Except.bind]
  rw [h]

theorem get_eq_error (hn : Text.isNumeral n.toList)
    (hitems : (ArrayText.decode s).length ≤ Text.maxCount)
    (h : (ArrayText.decode s).length ≤ Text.numeralValue n.toList) :
    get.apply [s, n] = .error (.indexOutOfBounds n (ArrayText.decode s).length) := by
  have hnone : (ArrayText.decode s)[Text.cappedValue n.toList]? = none := by
    rw [getElem?_cappedValue hitems, List.getElem?_eq_none h]
  rw [apply, count_of_isNumeral hn]
  dsimp only [bind, Except.bind]
  rw [hnone]

theorem rotated_nil (k : Nat) : rotated [] k = [] := by
  rw [rotated, List.drop_nil, List.take_nil, List.append_nil]

/-- A place that is found with the residue is found with the remainder as well: an empty text, which
has no remainders, is rotated to itself by any place. -/
theorem rotated_residue (s : String) (digits : List Char) (place : Nat → Nat) :
    rotated s.toList (place (Text.residue s.length digits)) =
      rotated s.toList (place (Text.numeralValue digits % s.length)) := by
  by_cases hempty : s.toList = []
  · rw [hempty, rotated_nil, rotated_nil]
  · have hlength : s.length ≠ 0 := by
      rwa [← String.length_toList, Ne, List.length_eq_zero_iff]
    rw [Text.residue_eq_mod hlength]

theorem rotateLeft_eq (hn : Text.isNumeral n.toList) :
    rotateLeft.apply [s, n] =
      .ok (.ofList (rotated s.toList (Text.numeralValue n.toList % s.length))) := by
  rw [apply, digits_of_isNumeral hn, ← rotated_residue s n.toList fun k => k]
  rfl

theorem rotateRight_eq (hn : Text.isNumeral n.toList) :
    rotateRight.apply [s, n] = .ok (.ofList
      (rotated s.toList (s.length - Text.numeralValue n.toList % s.length))) := by
  rw [apply, digits_of_isNumeral hn, ← rotated_residue s n.toList fun k => s.length - k]
  rfl

/-- **Positions are exact numbers, however large.** Each of these functions computes what its
numerals say, for any text that fits into memory, and no step of it leaves its range. -/
theorem positions_exact (hs : s.length < Text.lengthBound) (hn : Text.isNumeral n.toList)
    (hm : Text.isNumeral m.toList) :
    let N := Text.numeralValue n.toList
    let M := Text.numeralValue m.toList
    let items := ArrayText.decode s
    shiftLeft.apply [s, n] = .ok (.ofList (s.toList.drop (min N s.length))) ∧
    shiftRight.apply [s, n] = .ok (.ofList (s.toList.take (s.length - min N s.length))) ∧
    substring.apply [s, n, m] = .ok (.ofList
      ((s.toList.zipIdx.filter fun place => N ≤ place.2 ∧ place.2 < M).map Prod.fst)) ∧
    (∀ h : N < items.length, get.apply [s, n] = .ok items[N]) ∧
    (items.length ≤ N → get.apply [s, n] = .error (.indexOutOfBounds n items.length)) ∧
    (s = "" → rotateLeft.apply [s, n] = .ok "" ∧ rotateRight.apply [s, n] = .ok "") ∧
    rotateLeft.apply [s, n] =
      .ok (.ofList (s.toList.drop (N % s.length) ++ s.toList.take (N % s.length))) ∧
    rotateRight.apply [s, n] = .ok (.ofList (s.toList.drop (s.length - N % s.length) ++
      s.toList.take (s.length - N % s.length))) ∧
    (∀ f ∈ [shiftLeft, shiftRight, get, rotateLeft, rotateRight],
      f.checked? [s, n] = some (f.apply [s, n])) ∧
    substring.checked? [s, n, m] = some (substring.apply [s, n, m]) := by
  intro N M items
  have hmax : s.length < Text.maxCount := Nat.lt_trans hs Text.lengthBound_lt_maxCount
  have hbound : s.length < Text.countBound := Nat.lt_of_lt_of_le hmax (Nat.sub_le _ 1)
  have hitems : items.length ≤ Text.maxCount := Nat.le_trans (ArrayText.length_decode_le s) hmax
  refine ⟨shiftLeft_eq hn (Nat.le_of_lt hmax), shiftRight_eq hn (Nat.le_of_lt hmax), ?_,
    fun hlt => get_eq_ok hn hitems (List.getElem?_eq_getElem hlt), get_eq_error hn hitems,
    ?_, rotateLeft_eq hn, rotateRight_eq hn, fun f hf => ?_, checked?_substring hn hm⟩
  · rw [substring_eq hn hm (Nat.le_of_lt hmax), slice_eq_filter_zipIdx]
  · rintro rfl
    rw [rotateLeft_eq hn, rotateRight_eq hn, String.toList_empty, rotated_nil, rotated_nil]
    exact ⟨rfl, rfl⟩
  · simp only [List.mem_cons, List.not_mem_nil, or_false] at hf
    obtain rfl | rfl | rfl | rfl | rfl := hf
    · exact checked?_shiftLeft hn
    · exact checked?_shiftRight hn
    · exact checked?_get hn
    · exact checked?_rotateLeft hbound hn
    · exact checked?_rotateRight hbound hn

/-- The number is one more than the bound of counts. -/
theorem positions_exact_beyond_counts :
    let s := "a\u00f1b"
    let n := "0018446744073709551617"
    s.length < Text.lengthBound ∧ Text.isNumeral n.toList ∧ Text.isNumeral "1".toList ∧
      Text.numeralValue n.toList = Text.countBound + 1 ∧
      shiftLeft.apply [s, n] = .ok "" ∧ substring.apply [s, "1", n] = .ok "\u00f1b" ∧
      get.apply [s, n] = .error (.indexOutOfBounds n 1) ∧
      rotateLeft.apply [s, n] = .ok "ba\u00f1" ∧ rotateRight.apply [s, n] = .ok "\u00f1ba" := by
  intro s n
  have hs : s.length < Text.lengthBound := by decide
  have hn : Text.isNumeral n.toList := by decide +kernel
  have hone : Text.isNumeral "1".toList := by decide +kernel
  obtain ⟨hshift, -, -, -, hget, -, hleft, hright, -⟩ := positions_exact hs hn hone
  obtain ⟨-, -, hsubstring, -⟩ := positions_exact hs hone hn
  refine ⟨hs, hn, hone, by decide +kernel, ?_, ?_, ?_, ?_, ?_⟩
  · rw [hshift]
    exact congrArg Except.ok (by decide +kernel)
  · rw [hsubstring]
    exact congrArg Except.ok (by decide +kernel)
  · have hitems : (ArrayText.decode s).length = 1 := by decide +kernel
    rw [hget (by decide +kernel), hitems]
  · rw [hleft]
    exact congrArg Except.ok (by decide +kernel)
  · rw [hright]
    exact congrArg Except.ok (by decide +kernel)

end Builtin

end StringScript
