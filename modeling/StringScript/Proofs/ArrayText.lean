import StringScript.ArrayText
import StringScript.Proofs.Fields

/-!
# Arrays read back

The fields between separators are one more than the separators. So an array text has as many fields
as its header says exactly if its items bring no separators of their own.
-/

namespace StringScript

namespace Text

theorem isNumeral_toDigits (n : Nat) : isNumeral (Nat.toDigits 10 n) := by
  have hdigits : (Nat.toDigits 10 n).all Char.isDigit := List.all_eq_true.mpr fun c hc =>
    Nat.isDigit_of_mem_toDigits (by decide) (by decide) hc
  have hne : (Nat.toDigits 10 n).isEmpty = false :=
    List.isEmpty_eq_false_iff.mpr Nat.toDigits_ne_nil
  rw [isNumeral, hne, hdigits]
  rfl

/-- A count that is in range is read back from its digits. -/
theorem count?_toDigits {n : Nat} (h : n < countBound) : count? (Nat.toDigits 10 n) = some n := by
  have hvalue : numeralValue (Nat.toDigits 10 n) = n := Nat.ofDigitChars_ten_toDigits
  unfold count?
  rw [hvalue, isNumeral_toDigits, if_pos (by simpa using h)]

end Text

namespace ArrayText

variable {items : List String}

theorem separator_notMem_toDigits (n : Nat) : separator ∉ Nat.toDigits 10 n := fun h => by
  have hdigit : separator.isDigit := Nat.isDigit_of_mem_toDigits (by decide) (by decide) h
  exact absurd hdigit (by decide)

/-- The items of an array text are its fields, if they are as many as the header says. -/
theorem items?_encode (hne : items ≠ []) (hlength : items.length < Text.countBound) :
    items? (encode items) =
      let fields := ([separator].intercalate (items.map String.toList)).splitOn separator
      if fields.length = items.length then some (fields.map String.ofList) else none := by
  obtain ⟨first, others, rfl⟩ := List.exists_cons_of_ne_nil hne
  unfold items? encode
  rw [String.toList_ofList, Text.cutAt?_append_cons (separator_notMem_toDigits _)]
  dsimp only
  rw [Text.count?_toDigits hlength]
  rfl

theorem items?_encode_of_free (hlength : items.length < Text.countBound)
    (hfree : ∀ item ∈ items, separator ∉ item.toList) : items? (encode items) = some items := by
  by_cases hne : items = []
  · rw [hne]
    rfl
  · have htexts : items.map String.toList ≠ [] := by simpa using hne
    have hfields : ([separator].intercalate (items.map String.toList)).splitOn separator =
        items.map String.toList :=
      List.splitOn_intercalate separator (by simpa using hfree) htexts
    rw [items?_encode hne hlength, hfields]
    simp

theorem items?_encode_of_mem (hlength : items.length < Text.countBound) {item : String}
    (hmem : item ∈ items) (hitem : separator ∈ item.toList) : items? (encode items) = none := by
  have hne : items ≠ [] := List.ne_nil_of_mem hmem
  have htexts : items.map String.toList ≠ [] := by simpa using hne
  have hfields := Text.length_splitOn_intercalate_eq_iff (x := separator) htexts
  rw [List.length_map] at hfields
  rw [items?_encode hne hlength]
  refine if_neg fun hcount => ?_
  exact hfields.mp hcount item.toList (List.mem_map_of_mem hmem) hitem

/-- No text is its own array of one: the header makes it longer. -/
theorem singleton_encode_ne (items : List String) : [encode items] ≠ items := by
  intro h
  have hself : encode [encode items] = encode items := congrArg encode h
  have hlength := congrArg (fun text : String => text.toList.length) hself
  simp only [encode, String.toList_ofList, List.map_cons, List.map_nil,
    List.intercalate_singleton, List.length_append, List.length_cons] at hlength
  omega

/-- **Encoding loses nothing exactly if no item holds the separator.** Then the text counts as an
array, and its items are those that were encoded. Otherwise it counts as a plain text, an array of
just itself. -/
theorem decode_encode_eq_iff (hlength : items.length < Text.countBound) :
    (decode (encode items) = items ↔ ∀ item ∈ items, separator ∉ item.toList) ∧
    ((∀ item ∈ items, separator ∉ item.toList) → isEncoded (encode items)) ∧
    ((∃ item ∈ items, separator ∈ item.toList) →
      ¬ isEncoded (encode items) ∧ decode (encode items) = [encode items]) := by
  have hplain : (∃ item ∈ items, separator ∈ item.toList) →
      ¬ isEncoded (encode items) ∧ decode (encode items) = [encode items] := by
    rintro ⟨item, hmem, hitem⟩
    rw [isEncoded, decode, items?_encode_of_mem hlength hmem hitem]
    exact ⟨Bool.false_ne_true, rfl⟩
  refine ⟨⟨fun hback item hmem hitem => ?_, fun hfree => ?_⟩, fun hfree => ?_, hplain⟩
  · have hself := (hplain ⟨item, hmem, hitem⟩).2
    exact singleton_encode_ne items (hself.symm.trans hback)
  · rw [decode, items?_encode_of_free hlength hfree]
    rfl
  · rw [isEncoded, items?_encode_of_free hlength hfree]
    rfl

theorem decode_encode_eq_iff_headers :
    (["2", "", "0"].length < Text.countBound ∧
      (∀ item ∈ ["2", "", "0"], separator ∉ item.toList) ∧
      decode (encode ["2", "", "0"]) = ["2", "", "0"] ∧ isEncoded (encode ["2", "", "0"])) ∧
    (["1\x00a", ""].length < Text.countBound ∧
      (∃ item ∈ ["1\x00a", ""], separator ∈ item.toList) ∧
      ¬ isEncoded (encode ["1\x00a", ""]) ∧
      decode (encode ["1\x00a", ""]) = [encode ["1\x00a", ""]]) := by
  have hfree : ∀ item ∈ ["2", "", "0"], separator ∉ item.toList := by decide
  have hmem : ∃ item ∈ ["1\x00a", ""], separator ∈ item.toList := by decide
  have hback := @decode_encode_eq_iff ["2", "", "0"] (by decide)
  have hplain := @decode_encode_eq_iff ["1\x00a", ""] (by decide)
  exact ⟨⟨by decide, hfree, hback.1.mpr hfree, hback.2.1 hfree⟩,
    ⟨by decide, hmem, hplain.2.2 hmem⟩⟩

end ArrayText

end StringScript
