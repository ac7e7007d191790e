import StringScript.Proofs.ArrayText

/-!
# Headers of arrays

A text counts as an array exactly if it has a numeral in front that counts its items. The numeral
may have leading zeros, and these are all that is lost when the items of an array are read and
written again.
-/

namespace StringScript

namespace Text

theorem exists_digitChar_of_isDigit {c : Char} (h : c.isDigit) : ∃ d < 10, c = Nat.digitChar d := by
  have hbounds : 48 ≤ c.toNat ∧ c.toNat ≤ 57 := by
    simpa [Char.isDigit, UInt32.le_iff_toNat_le] using h
  refine ⟨c.toNat - 48, by omega, Char.toNat_inj.mp ?_⟩
  rw [Nat.toNat_digitChar_of_lt_ten (by omega)]
  omega

/-- Digits after those of a positive number are digits of a number that begins with it. -/
theorem toDigits_append {n : Nat} (hn : 0 < n) {s : List Char} (hs : ∀ c ∈ s, c.isDigit) :
    Nat.toDigits 10 n ++ s = Nat.toDigits 10 (Nat.ofDigitChars 10 s n) := by
  induction s generalizing n with
  | nil => rw [List.append_nil, Nat.ofDigitChars_nil]
  | cons c rest ih =>
      obtain ⟨hc, hrest⟩ := List.forall_mem_cons.mp hs
      obtain ⟨d, hd, rfl⟩ := exists_digitChar_of_isDigit hc
      calc Nat.toDigits 10 n ++ Nat.digitChar d :: rest
        _ = (Nat.toDigits 10 n ++ Nat.toDigits 10 d) ++ rest := by
            rw [Nat.toDigits_of_lt_base hd, List.append_assoc, List.singleton_append]
        _ = Nat.toDigits 10 (10 * n + d) ++ rest := by
            rw [Nat.toDigits_append_toDigits (by decide) hn hd]
        _ = Nat.toDigits 10 (Nat.ofDigitChars 10 rest (10 * n + d)) := ih (by omega) hrest
        _ = Nat.toDigits 10 (Nat.ofDigitChars 10 (Nat.digitChar d :: rest) n) := by
            rw [Nat.ofDigitChars_cons_digitChar_of_lt_ten hd]

theorem isNumeral_iff {s : List Char} : isNumeral s ↔ s ≠ [] ∧ ∀ c ∈ s, c.isDigit := by
  simp [isNumeral]

/-- A numeral is its number in digits, with zeros in front. -/
theorem exists_zeros_of_isNumeral {s : List Char} (h : isNumeral s) :
    ∃ zeros, s = List.replicate zeros '0' ++ Nat.toDigits 10 (numeralValue s) := by
  obtain ⟨hne, hdigits⟩ := isNumeral_iff.mp h
  induction s with
  | nil => exact absurd rfl hne
  | cons c rest ih =>
      obtain ⟨hc, hrest⟩ := List.forall_mem_cons.mp hdigits
      obtain ⟨d, hd, rfl⟩ := exists_digitChar_of_isDigit hc
      have hvalue : numeralValue (Nat.digitChar d :: rest) = Nat.ofDigitChars 10 rest d := by
        rw [numeralValue, Nat.ofDigitChars_cons_digitChar_of_lt_ten hd, Nat.mul_zero, Nat.zero_add]
      by_cases hzero : d = 0
      · subst hzero
        by_cases hlast : rest = []
        · exact ⟨0, by rw [hvalue, hlast]; rfl⟩
        · obtain ⟨zeros, hzeros⟩ := ih (isNumeral_iff.mpr ⟨hlast, hrest⟩) hlast hrest
          refine ⟨zeros + 1, ?_⟩
          rw [hvalue, List.replicate_succ, List.cons_append]
          exact congrArg (List.cons '0') hzeros
      · refine ⟨0, ?_⟩
        rw [hvalue, ← toDigits_append (Nat.pos_of_ne_zero hzero) hrest, Nat.toDigits_of_lt_base hd]
        rfl

/-- No number but zero has a zero for its first digit. -/
theorem eq_zero_of_toDigits_eq_cons {n : Nat} {rest : List Char}
    (h : Nat.toDigits 10 n = '0' :: rest) : n = 0 := by
  have hn : n = Nat.ofDigitChars 10 rest 0 := by
    rw [← Nat.ofDigitChars_ten_toDigits (n := n), h]
    rfl
  by_cases hlast : rest = []
  · rw [hn, hlast]
    rfl
  · have hdigits : isNumeral rest := by
      refine isNumeral_iff.mpr ⟨hlast, fun c hc => ?_⟩
      refine Nat.isDigit_of_mem_toDigits (b := 10) (n := n) (by decide) (by decide) ?_
      rw [h]
      exact List.mem_cons_of_mem _ hc
    obtain ⟨zeros, hzeros⟩ := exists_zeros_of_isNumeral hdigits
    have hlength := congrArg List.length h
    rw [hzeros, numeralValue, ← hn, List.length_cons, List.length_append] at hlength
    omega

theorem count?_eq_some_iff {s : List Char} {n : Nat} :
    count? s = some n ↔ isNumeral s ∧ numeralValue s = n ∧ n < countBound := by
  unfold count?
  rw [Option.ite_none_right_eq_some, Option.some.injEq, Bool.and_eq_true, decide_eq_true_iff]
  constructor
  · rintro ⟨⟨hnumeral, hbound⟩, rfl⟩
    exact ⟨hnumeral, rfl, hbound⟩
  · rintro ⟨hnumeral, rfl, hbound⟩
    exact ⟨⟨hnumeral, hbound⟩, rfl⟩

theorem separator_notMem_of_isNumeral {s : List Char} (h : isNumeral s) :
    ArrayText.separator ∉ s := fun hmem =>
  absurd ((isNumeral_iff.mp h).2 _ hmem) (by decide)

end Text

namespace ArrayText

variable {text : String} {items : List String}

/-- **Arrays by their form.** A text has items exactly if it is a numeral that counts them, a
separator, and the items with separators between them and none inside. -/
theorem items?_eq_some_iff :
    items? text = some items ↔
      ∃ header, Text.count? header = some items.length ∧
        (∀ item ∈ items, separator ∉ item.toList) ∧
        text.toList = header ++ separator :: [separator].intercalate (items.map String.toList) := by
  constructor
  · intro h
    unfold items? at h
    split at h
    · cases h
    · next header body hcut =>
        have htext := (Text.cutAt?_eq_some_iff.mp hcut).1
        split at h
        · cases h
        · next hcount =>
            obtain ⟨hbody, hitems⟩ := Option.ite_none_right_eq_some.mp h
            cases hitems
            exact ⟨header, hcount, by simp, by rw [htext, List.isEmpty_iff.mp hbody]; rfl⟩
        · next count hcount =>
            obtain ⟨hlength, hitems⟩ := Option.ite_none_right_eq_some.mp h
            cases hitems
            refine ⟨header, ?_, ?_, ?_⟩
            · rw [hcount, List.length_map, hlength]
            · intro item hitem
              obtain ⟨field, hfield, rfl⟩ := List.mem_map.mp hitem
              rw [String.toList_ofList]
              exact Text.notMem_of_mem_splitOn hfield
            · rw [htext, List.map_map]
              simp [Function.comp_def, List.intercalate_splitOn]
  · rintro ⟨header, hcount, hfree, htext⟩
    have hnumeral := (Text.count?_eq_some_iff.mp hcount).1
    unfold items?
    rw [htext, Text.cutAt?_append_cons (Text.separator_notMem_of_isNumeral hnumeral)]
    dsimp only
    rw [hcount]
    cases items with
    | nil => rfl
    | cons first others =>
        have hfields : ([separator].intercalate ((first :: others).map String.toList)).splitOn
            separator = (first :: others).map String.toList :=
          List.splitOn_intercalate separator (by simpa using hfree) (by simp)
        dsimp only [List.length_cons]
        rw [hfields]
        simp

theorem separator_mem_of_isEncoded (h : isEncoded text) : separator ∈ text.toList := by
  obtain ⟨items, hitems⟩ := Option.isSome_iff_exists.mp h
  obtain ⟨header, -, -, htext⟩ := items?_eq_some_iff.mp hitems
  rw [htext]
  exact List.mem_append_right header List.mem_cons_self

theorem exists_zeros_of_isEncoded (h : isEncoded text) :
    ∃ zeros, text.toList = List.replicate zeros '0' ++ (encode (decode text)).toList := by
  obtain ⟨items, hitems⟩ := Option.isSome_iff_exists.mp h
  obtain ⟨header, hcount, -, htext⟩ := items?_eq_some_iff.mp hitems
  obtain ⟨hnumeral, hvalue, -⟩ := Text.count?_eq_some_iff.mp hcount
  obtain ⟨zeros, hzeros⟩ := Text.exists_zeros_of_isNumeral hnumeral
  have hdecode : decode text = items := by
    rw [decode, hitems]
    rfl
  rw [hvalue] at hzeros
  refine ⟨zeros, ?_⟩
  rw [hdecode, encode, String.toList_ofList, htext, hzeros, List.append_assoc]

theorem eq_nil_of_head?_toList_encode (h : (encode items).toList.head? = some '0') :
    items = [] := by
  obtain ⟨first, rest, hdigits⟩ :=
    List.exists_cons_of_ne_nil (Nat.toDigits_ne_nil (n := items.length) (b := 10))
  rw [encode, String.toList_ofList, hdigits] at h
  have hfirst : first = '0' := Option.some.inj h
  rw [hfirst] at hdigits
  exact List.length_eq_zero_iff.mp (Text.eq_zero_of_toDigits_eq_cons hdigits)

/-- **Leading zeros are all that is lost.** When the items of an array are written again, the text
comes back without the leading zeros of its header. So it comes back as it was exactly if there are
none: if only the header of the empty array begins with a zero. -/
theorem encode_decode_eq_iff (h : isEncoded text) :
    (∃ zeros, text.toList = List.replicate zeros '0' ++ (encode (decode text)).toList) ∧
      (encode (decode text) = text ↔ (text.toList.head? = some '0' → text = encode [])) := by
  obtain ⟨zeros, hzeros⟩ := exists_zeros_of_isEncoded h
  refine ⟨⟨zeros, hzeros⟩, fun hback hhead => ?_, fun hheader => ?_⟩
  · rw [← hback] at hhead ⊢
    rw [eq_nil_of_head?_toList_encode hhead]
  · cases zeros with
    | zero => exact (String.toList_inj.mp hzeros).symm
    | succ zeros =>
        have hempty : text = encode [] := hheader (by rw [hzeros]; rfl)
        rw [hempty]
        rfl

theorem encode_decode_eq_iff_two_items :
    isEncoded "002\x00a\x00" ∧ encode (decode "002\x00a\x00") ≠ "002\x00a\x00" ∧
      isEncoded "2\x00a\x00" ∧ encode (decode "2\x00a\x00") = "2\x00a\x00" := by
  have hzeros : isEncoded "002\x00a\x00" := rfl
  have hnone : isEncoded "2\x00a\x00" := rfl
  refine ⟨hzeros, fun hback => ?_, hnone, (encode_decode_eq_iff hnone).2.mpr (by decide)⟩
  have hempty := (encode_decode_eq_iff hzeros).2.mp hback rfl
  exact absurd hempty (by decide)

theorem not_encode_decode_eq : ¬ ∀ text, isEncoded text → encode (decode text) = text := by
  intro h
  have hback : encode (decode "01\x00a") = "01\x00a" := h "01\x00a" rfl
  have hshorter : encode (decode "01\x00a") = "1\x00a" := rfl
  rw [hshorter] at hback
  exact absurd hback (by decide)

end ArrayText

end StringScript
