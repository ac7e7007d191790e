import StringScript.Proofs.Occurrence
import StringScript.Proofs.Positions

/-!
# Splitting and replacing

A text without separators is split into the fields between leftmost occurrences, and each of them is
found again at its number. Replacing is joining the same fields, though it goes over the text on its
own.
-/

namespace StringScript.Builtin

open ArrayText (separator)

variable {s : String}

/-- The text is an array of the items, and each numeral finds the item with its number, if there is
one. -/
structure IsArrayOf (text : String) (items : List String) : Prop where
  isEncoded : ArrayText.isEncoded text
  decode_eq : ArrayText.decode text = items
  get_of_lt : ∀ index, Text.isNumeral index.toList →
    ∀ h : Text.numeralValue index.toList < items.length,
      get.apply [text, index] = .ok items[Text.numeralValue index.toList]
  get_of_le : ∀ index, Text.isNumeral index.toList →
    items.length ≤ Text.numeralValue index.toList →
      get.apply [text, index] = .error (.indexOutOfBounds index items.length)

theorem isArrayOf_encode {items : List String} (hlength : items.length ≤ Text.maxCount)
    (hfree : ∀ item ∈ items, separator ∉ item.toList) :
    IsArrayOf (ArrayText.encode items) items := by
  have hmax : Text.maxCount = Text.countBound - 1 := rfl
  have hbound : Text.countBound = 18446744073709551616 := rfl
  have hitems := ArrayText.items?_encode_of_free (by omega) hfree
  have hdecode : ArrayText.decode (ArrayText.encode items) = items := by
    rw [ArrayText.decode, hitems]
    rfl
  refine ⟨ArrayText.isEncoded_encode (by omega) hfree, hdecode, fun index hindex hlt => ?_,
    fun index hindex hle => ?_⟩
  · refine get_eq_ok hindex (by rwa [hdecode]) ?_
    rw [hdecode, List.getElem?_eq_getElem hlt]
  · rw [get_eq_error hindex (by rwa [hdecode]) (by rwa [hdecode]), hdecode]

theorem isArrayOf_split (hfree : separator ∉ s.toList) (hs : s.length < Text.maxCount)
    (sep : String) :
    ∃ text, split.apply [s, sep] = .ok text ∧
      IsArrayOf text ((Text.fields sep.toList s.toList).map String.ofList) := by
  refine ⟨_, rfl, isArrayOf_encode ?_ ?_⟩
  · rw [List.length_map]
    have hlength : s.toList.length < Text.maxCount := hs
    exact Nat.le_trans (Text.length_fields_le _ _) hlength
  · intro item hitem hmem
    obtain ⟨field, hfield, rfl⟩ := List.mem_map.mp hitem
    rw [String.toList_ofList] at hmem
    exact hfree (Text.subset_of_mem_fields hfield hmem)

/-- **A text is split into its leftmost fields.** For a separator that is not empty there is one
list of fields with it between them that it cuts as early as it can. The text that is split is an
array of them, and of its single characters for the empty separator. -/
theorem split_gives_fields (hfree : separator ∉ s.toList) (hs : s.length < Text.lengthBound) :
    (∀ sep, sep ≠ "" → (∃! fields, Text.IsCut sep.toList s.toList fields) ∧
      ∀ fields, Text.IsCut sep.toList s.toList fields →
        ∃ text, split.apply [s, sep] = .ok text ∧ IsArrayOf text (fields.map String.ofList)) ∧
    ∃ text, split.apply [s, ""] = .ok text ∧ IsArrayOf text (s.toList.map String.singleton) := by
  have hmax : s.length < Text.maxCount := Nat.lt_trans hs Text.lengthBound_lt_maxCount
  constructor
  · intro sep hne
    have hcut : ∀ {fields}, Text.IsCut sep.toList s.toList fields ↔
        fields = Text.fields sep.toList s.toList :=
      Text.isCut_iff_eq_fields (by simpa using hne)
    refine ⟨⟨_, hcut.mpr rfl, fun _ => hcut.mp⟩, fun fields hfields => ?_⟩
    rw [hcut.mp hfields]
    exact isArrayOf_split hfree hmax _
  · have hcharacters : (Text.fields "".toList s.toList).map String.ofList =
        s.toList.map String.singleton := by
      rw [String.toList_empty, Text.fields, List.isEmpty_nil, if_pos rfl, List.map_map]
      rfl
    rw [← hcharacters]
    exact isArrayOf_split hfree hmax _

/-- The separator overlaps itself, and the second index has no 64-bit count. -/
theorem split_gives_fields_overlapping :
    let s := "xaaay"
    separator ∉ s.toList ∧ s.length < Text.lengthBound ∧ "aa" ≠ "" ∧
      Text.IsCut "aa".toList s.toList [['x'], ['a', 'y']] ∧
      ∃ text, split.apply [s, "aa"] = .ok text ∧ ArrayText.decode text = ["x", "ay"] ∧
        get.apply [text, "01"] = .ok "ay" ∧
        get.apply [text, "18446744073709551616"] =
          .error (.indexOutOfBounds "18446744073709551616" 2) := by
  intro s
  have hfree : separator ∉ s.toList := by decide +kernel
  have hs : s.length < Text.lengthBound := by decide
  have hcut : Text.IsCut "aa".toList s.toList [['x'], ['a', 'y']] :=
    (Text.isCut_iff_eq_fields (by decide +kernel)).mpr (by decide +kernel)
  obtain ⟨text, hsplit, harray⟩ := ((split_gives_fields hfree hs).1 "aa" (by decide)).2 _ hcut
  exact ⟨hfree, hs, by decide, hcut, text, hsplit, harray.decode_eq,
    harray.get_of_lt "01" (by decide +kernel) (by decide +kernel),
    harray.get_of_le _ (by decide +kernel) (by decide +kernel)⟩

/-! ### Replacing -/

/-- **Replacing is splitting and joining.** The fields are joined with the new text. Where the old
text is empty, the new one comes before each character and at the end, and a text that is replaced
by itself changes nothing. -/
theorem replace_joins_fields :
    (∀ s old new : String, separator ∉ s.toList → s.length < Text.lengthBound → old ≠ "" →
      ∃ text, split.apply [s, old] = .ok text ∧
        replace.apply [s, old, new] = .ok (new.intercalate (ArrayText.decode text))) ∧
    (∀ s new : String,
      replace.apply [s, "", new] = .ok (String.join (s.toList.map new.push) ++ new)) ∧
    ∀ s x : String, replace.apply [s, x, x] = .ok s := by
  refine ⟨fun s old new hfree hs hne => ?_, fun s new => ?_, fun s x => ?_⟩
  · have hmax : s.length < Text.maxCount := Nat.lt_trans hs Text.lengthBound_lt_maxCount
    obtain ⟨text, hsplit, harray⟩ := isArrayOf_split hfree hmax old
    have hjoined : String.ofList (new.toList.intercalate (Text.fields old.toList s.toList)) =
        new.intercalate (ArrayText.decode text) := by
      rw [harray.decode_eq, ← String.toList_inj, String.toList_intercalate]
      simp [Function.comp_def]
    refine ⟨text, hsplit, ?_⟩
    rw [apply, Text.replaceAll_eq_intercalate (by simpa using hne), hjoined]
  · rw [apply, Except.ok.injEq, ← String.toList_inj]
    simp [Text.replaceAll, List.flatMap_map]
  · rw [apply, Text.replaceAll_self, String.ofList_toList]

/-- With the new text the old one occurs again. -/
theorem replace_joins_fields_overlapping :
    let s := "xaaay"
    separator ∉ s.toList ∧ s.length < Text.lengthBound ∧ "aa" ≠ "" ∧
      (∃ text, split.apply [s, "aa"] = .ok text ∧
        replace.apply [s, "aa", "a"] = .ok ("a".intercalate (ArrayText.decode text))) ∧
      replace.apply [s, "aa", "a"] = .ok "xaay" := by
  intro s
  have hfree : separator ∉ s.toList := by decide +kernel
  have hs : s.length < Text.lengthBound := by decide
  exact ⟨hfree, hs, by decide, replace_joins_fields.1 s "aa" "a" hfree hs (by decide),
    congrArg Except.ok (by decide +kernel)⟩

end StringScript.Builtin
