import StringScript.Builtin.Apply
import StringScript.Proofs.ArrayHeader
import StringScript.Proofs.CaseMapping

/-!
# Intact texts

A text is intact if it has no separators, or if it is an array. A function gives an intact text back
as long as it takes no array apart character by character: arrays can be cut into items, measured
and put in another case, and everything else may be done to texts without separators.
-/

namespace StringScript

open ArrayText (separator)

/-! ### Characters of what is made from texts -/

namespace Text

theorem subset_of_mem_fieldsFrom {sep : List Char} {skip : Nat} {s field : List Char}
    (h : field ∈ fieldsFrom sep skip s) : field ⊆ s := by
  induction s generalizing skip field with
  | nil =>
      rw [fieldsFrom, List.mem_singleton] at h
      rw [h]
      exact List.nil_subset []
  | cons c rest ih =>
      cases skip with
      | succ skip =>
          rw [fieldsFrom] at h
          exact List.subset_cons_of_subset c (ih h)
      | zero =>
          rw [fieldsFrom] at h
          split at h
          · rcases List.mem_cons.mp h with rfl | hrest
            · exact List.nil_subset _
            · exact List.subset_cons_of_subset c (ih hrest)
          · cases hfields : fieldsFrom sep 0 rest with
            | nil =>
                rw [hfields] at h
                cases h
            | cons first others =>
                rw [hfields] at h
                rcases List.mem_cons.mp h with rfl | hothers
                · exact List.cons_subset_cons c (ih (hfields ▸ List.mem_cons_self))
                · exact List.subset_cons_of_subset c
                    (ih (hfields ▸ List.mem_cons_of_mem first hothers))

theorem length_fieldsFrom_le (sep : List Char) (skip : Nat) (s : List Char) :
    (fieldsFrom sep skip s).length ≤ s.length + 1 := by
  induction s generalizing skip with
  | nil => exact Nat.le_refl 1
  | cons c rest ih =>
      cases skip with
      | succ skip =>
          rw [fieldsFrom, List.length_cons]
          exact Nat.le_trans (ih skip) (Nat.le_succ _)
      | zero =>
          rw [fieldsFrom, List.length_cons]
          split
          · exact Nat.succ_le_succ (ih _)
          · rw [List.length_modifyHead]
            exact Nat.le_trans (ih 0) (Nat.le_succ _)

theorem subset_of_mem_fields {sep s field : List Char} (h : field ∈ fields sep s) : field ⊆ s := by
  unfold fields at h
  split at h
  · obtain ⟨c, hc, rfl⟩ := List.mem_map.mp h
    exact List.cons_subset.mpr ⟨hc, List.nil_subset s⟩
  · exact subset_of_mem_fieldsFrom h

theorem length_fields_le (sep s : List Char) : (fields sep s).length ≤ s.length + 1 := by
  unfold fields
  split
  · rw [List.length_map]
    exact Nat.le_succ _
  · exact length_fieldsFrom_le sep 0 s

theorem mem_of_mem_replaceFrom {old new : List Char} {skip : Nat} {s : List Char} {c : Char}
    (h : c ∈ replaceFrom old new skip s) : c ∈ new ∨ c ∈ s := by
  induction s generalizing skip with
  | nil =>
      rw [replaceFrom] at h
      cases h
  | cons first rest ih =>
      cases skip with
      | succ skip =>
          rw [replaceFrom] at h
          exact (ih h).imp_right (List.mem_cons_of_mem first)
      | zero =>
          rw [replaceFrom] at h
          split at h
          · rcases List.mem_append.mp h with hnew | hrest
            · exact .inl hnew
            · exact (ih hrest).imp_right (List.mem_cons_of_mem first)
          · rcases List.mem_cons.mp h with rfl | hrest
            · exact .inr List.mem_cons_self
            · exact (ih hrest).imp_right (List.mem_cons_of_mem first)

theorem mem_of_mem_replaceAll {old new s : List Char} {c : Char}
    (h : c ∈ replaceAll old new s) : c ∈ new ∨ c ∈ s := by
  unfold replaceAll at h
  split at h
  · rcases List.mem_append.mp h with hbefore | hend
    · obtain ⟨first, hfirst, hc⟩ := List.mem_flatMap.mp hbefore
      rcases List.mem_append.mp hc with hnew | hself
      · exact .inl hnew
      · exact .inr (List.mem_singleton.mp hself ▸ hfirst)
    · exact .inl hend
  · exact mem_of_mem_replaceFrom h

end Text

theorem Pattern.subset_of_find {pattern text : String} {found : Option String}
    (h : find pattern text = .ok found) : (found.getD "").toList ⊆ text.toList := by
  unfold find at h
  cases hmachine : compile pattern with
  | error e =>
      rw [hmachine] at h
      cases h
  | ok m =>
      rw [hmachine] at h
      cases h
      unfold Machine.find
      dsimp only
      cases m.search m.bound none 0 none ⟨#[], Array.replicate m.states.size 0⟩ text.toList with
      | none => exact List.nil_subset _
      | some place =>
          rw [Option.map_some, Option.map_some, Option.getD_some, String.toList_ofList]
          exact List.Subset.trans (List.take_subset _ _) (List.drop_subset _ _)

/-! ### Arrays -/

namespace ArrayText

/-- A text without separators, or an array. -/
def IsIntact (text : String) : Prop := separator ∉ text.toList ∨ isEncoded text

instance (text : String) : Decidable (IsIntact text) := inferInstanceAs (Decidable (_ ∨ _))

variable {text : String} {items : List String}

/-- A text counts as an array by its header and the number of its separators. -/
theorem isEncoded_iff :
    isEncoded text ↔
      ∃ header body count, text.toList = header ++ separator :: body ∧
        Text.count? header = some count ∧
        if count = 0 then body = [] else body.count separator + 1 = count := by
  constructor
  · intro h
    obtain ⟨items, hitems⟩ := Option.isSome_iff_exists.mp h
    obtain ⟨header, hcount, hfree, htext⟩ := items?_eq_some_iff.mp hitems
    refine ⟨header, _, items.length, htext, hcount, ?_⟩
    split
    · next hnone =>
        rw [List.length_eq_zero_iff.mp hnone]
        rfl
    · next hsome =>
        have hne : items.map String.toList ≠ [] := by simpa using hsome
        rw [← Text.length_splitOn, List.splitOn_intercalate separator (by simpa using hfree) hne,
          List.length_map]
  · rintro ⟨header, body, count, htext, hcount, hbody⟩
    refine Option.isSome_iff_exists.mpr ?_
    split at hbody
    · next hnone =>
        subst hnone hbody
        exact ⟨[], items?_eq_some_iff.mpr ⟨header, hcount, by simp, htext⟩⟩
    · refine ⟨(body.splitOn separator).map String.ofList,
        items?_eq_some_iff.mpr ⟨header, ?_, ?_, ?_⟩⟩
      · rw [List.length_map, Text.length_splitOn, hbody, hcount]
      · intro item hitem
        obtain ⟨field, hfield, rfl⟩ := List.mem_map.mp hitem
        rw [String.toList_ofList]
        exact Text.notMem_of_mem_splitOn hfield
      · rw [htext, List.map_map]
        simp [Function.comp_def, List.intercalate_splitOn]

theorem isIntact_of_subset {s : String} {chars : List Char} (hs : separator ∉ s.toList)
    (hsub : chars ⊆ s.toList) : IsIntact (.ofList chars) :=
  .inl fun h => hs (hsub (by rwa [String.toList_ofList] at h))

theorem isEncoded_encode (hlength : items.length < Text.countBound)
    (hfree : ∀ item ∈ items, separator ∉ item.toList) : isEncoded (encode items) := by
  rw [isEncoded, items?_encode_of_free hlength hfree]
  rfl

/-- The items of an intact text have no separators. -/
theorem IsIntact.separator_notMem_item (h : IsIntact text) {item : String}
    (hitem : item ∈ decode text) : separator ∉ item.toList := by
  unfold decode at hitem
  cases hitems : items? text with
  | some items =>
      rw [hitems] at hitem
      obtain ⟨-, -, hfree, -⟩ := items?_eq_some_iff.mp hitems
      exact hfree item hitem
  | none =>
      rw [hitems] at hitem
      rw [List.mem_singleton.mp hitem]
      refine h.resolve_right ?_
      rw [isEncoded, hitems]
      exact Bool.false_ne_true

theorem isBeforeLetters_of_isNumeral {header : List Char} (h : Text.isNumeral header) :
    Text.IsBeforeLetters header := by
  intro c hc
  obtain ⟨d, hd, rfl⟩ := Text.exists_digitChar_of_isDigit ((Text.isNumeral_iff.mp h).2 c hc)
  rw [Nat.toNat_digitChar_of_lt_ten hd]
  change 48 + d ≤ 57
  omega

/-- An array stays one if its header is kept, and the number of separators after it. -/
theorem isEncoded_of_same_front (h : isEncoded text) {mapped : List Char}
    (hmapped : ∀ front body, Text.IsBeforeLetters front → text.toList = front ++ body →
      ∃ body', mapped = front ++ body' ∧ body'.count separator = body.count separator ∧
        (body = [] → body' = [])) : isEncoded (.ofList mapped) := by
  obtain ⟨header, body, count, htext, hcount, hbody⟩ := isEncoded_iff.mp h
  have hfront : Text.IsBeforeLetters (header ++ [separator]) := by
    have hheader := isBeforeLetters_of_isNumeral (Text.count?_eq_some_iff.mp hcount).1
    refine List.forall_mem_append.mpr ⟨hheader, List.forall_mem_singleton.mpr (by decide)⟩
  obtain ⟨body', hbody', hsame, hnil⟩ :=
    hmapped (header ++ [separator]) body hfront (by simp [htext])
  refine isEncoded_iff.mpr ⟨header, body', count, by simp [hbody'], hcount, ?_⟩
  rw [hsame]
  split at hbody
  · next hzero =>
      rw [if_pos hzero]
      exact hnil hbody
  · next hne =>
      rw [if_neg hne]
      exact hbody

theorem IsIntact.upper (h : IsIntact text) : IsIntact (.ofList (Text.upper text.toList)) := by
  refine h.imp (fun hnone => ?_) fun harray =>
    isEncoded_of_same_front harray fun front body hfront htext => ?_
  · rw [String.toList_ofList, ← List.count_eq_zero, Text.count_separator_upper]
    exact List.count_eq_zero.mpr hnone
  · refine ⟨Text.upper body, ?_, Text.count_separator_upper body, fun hnil => ?_⟩
    · rw [htext, Text.upper_append hfront]
    · rw [hnil]
      rfl

theorem IsIntact.lower (h : IsIntact text) : IsIntact (.ofList (Text.lower text.toList)) := by
  refine h.imp (fun hnone => ?_) fun harray =>
    isEncoded_of_same_front harray fun front body hfront htext => ?_
  · rw [String.toList_ofList, ← List.count_eq_zero, Text.lower, Text.count_separator_lowerFrom]
    exact List.count_eq_zero.mpr hnone
  · obtain ⟨earlier, hlower⟩ := Text.lowerFrom_append hfront [] body
    refine ⟨Text.lowerFrom earlier body, ?_, Text.count_separator_lowerFrom earlier body,
      fun hnil => ?_⟩
    · rw [htext, Text.lower, hlower]
    · rw [hnil]
      rfl

end ArrayText

/-! ### Functions -/

namespace Builtin

open ArrayText

/-- Whether a call leaves arrays whole: no text that it cuts, joins or puts in another order has a
separator. A text that is split also has fewer characters than the largest count, as any text has
that fits into memory. -/
def sparesArrays : Builtin → List String → Bool
  | uppercase, _ | lowercase, _ | length, _ | get, _ => true
  | concat, [s, t] => separator ∉ s.toList && separator ∉ t.toList
  | replace, [s, _, new] => separator ∉ s.toList && separator ∉ new.toList
  | split, [s, _] => separator ∉ s.toList && s.length < Text.maxCount
  | _, s :: _ => separator ∉ s.toList
  | _, [] => true

theorem bind_eq_ok_iff {α β : Type} {x : Except Failure α} {f : α → Except Failure β} {value : β} :
    x >>= f = .ok value ↔ ∃ found, x = .ok found ∧ f found = .ok value := by
  cases x with
  | ok found => simp [bind, Except.bind]
  | error failure => simp [bind, Except.bind]

/-- A function that cuts a text or puts it in another order takes characters of that text only. -/
theorem subset_of_apply {f : Builtin} {s value : String} {others : List String}
    (hf : f ∈ [reverse, substring, «match», shiftLeft, shiftRight, rotateLeft, rotateRight])
    (hlength : (s :: others).length = f.arity) (h : f.apply (s :: others) = .ok value) :
    value.toList ⊆ s.toList := by
  have hrest : others.length + 1 = f.arity := hlength
  cases f with
  | concat | uppercase | lowercase | length | replace | split | get =>
      exact absurd hf (by decide)
  | reverse =>
      obtain rfl := List.length_eq_zero_iff.mp (Nat.succ.inj hrest)
      cases h
      rw [String.toList_ofList]
      exact List.reverse_subset.mpr (List.Subset.refl _)
  | substring =>
      obtain ⟨start, stop, rfl⟩ := List.length_eq_two.mp (Nat.succ.inj hrest)
      obtain ⟨first, -, h⟩ := bind_eq_ok_iff.mp h
      obtain ⟨last, -, h⟩ := bind_eq_ok_iff.mp h
      cases h
      rw [String.toList_ofList]
      exact List.Subset.trans (List.drop_subset _ _) (List.take_subset _ _)
  | «match» =>
      obtain ⟨pattern, rfl⟩ := List.length_eq_one_iff.mp (Nat.succ.inj hrest)
      rw [apply] at h
      split at h
      · next found hfound =>
          cases h
          exact Pattern.subset_of_find hfound
      · cases h
  | shiftLeft =>
      obtain ⟨n, rfl⟩ := List.length_eq_one_iff.mp (Nat.succ.inj hrest)
      obtain ⟨count, -, h⟩ := bind_eq_ok_iff.mp h
      cases h
      rw [String.toList_ofList]
      exact List.drop_subset _ _
  | shiftRight =>
      obtain ⟨n, rfl⟩ := List.length_eq_one_iff.mp (Nat.succ.inj hrest)
      obtain ⟨count, -, h⟩ := bind_eq_ok_iff.mp h
      cases h
      rw [String.toList_ofList]
      exact List.take_subset _ _
  | rotateLeft | rotateRight =>
      obtain ⟨n, rfl⟩ := List.length_eq_one_iff.mp (Nat.succ.inj hrest)
      obtain ⟨digits, -, h⟩ := bind_eq_ok_iff.mp h
      cases h
      rw [String.toList_ofList]
      exact List.append_subset.mpr ⟨List.drop_subset _ _, List.take_subset _ _⟩

theorem isIntact_of_apply {f : Builtin} {args : List String} {value : String}
    (hlength : args.length = f.arity) (hspares : f.sparesArrays args)
    (hargs : ∀ arg ∈ args, IsIntact arg) (h : f.apply args = .ok value) : IsIntact value := by
  cases f with
  | concat =>
      obtain ⟨s, t, rfl⟩ := List.length_eq_two.mp hlength
      cases h
      simp only [sparesArrays, Bool.and_eq_true, decide_eq_true_eq] at hspares
      left
      rw [String.toList_append, List.mem_append, not_or]
      exact hspares
  | uppercase =>
      obtain ⟨s, rfl⟩ := List.length_eq_one_iff.mp hlength
      cases h
      exact (hargs s List.mem_cons_self).upper
  | lowercase =>
      obtain ⟨s, rfl⟩ := List.length_eq_one_iff.mp hlength
      cases h
      exact (hargs s List.mem_cons_self).lower
  | length =>
      obtain ⟨s, rfl⟩ := List.length_eq_one_iff.mp hlength
      cases h
      left
      rw [Nat.toString_eq_ofList_toDigits, String.toList_ofList]
      exact separator_notMem_toDigits _
  | replace =>
      obtain ⟨s, old, new, rfl⟩ := List.length_eq_three.mp hlength
      cases h
      simp only [sparesArrays, Bool.and_eq_true, decide_eq_true_eq] at hspares
      left
      rw [String.toList_ofList]
      exact fun hmem => (Text.mem_of_mem_replaceAll hmem).elim hspares.2 hspares.1
  | split =>
      obtain ⟨s, sep, rfl⟩ := List.length_eq_two.mp hlength
      cases h
      simp only [sparesArrays, Bool.and_eq_true, decide_eq_true_eq] at hspares
      refine .inr (isEncoded_encode ?_ fun item hitem => ?_)
      · rw [List.length_map]
        have hfields := Text.length_fields_le sep.toList s.toList
        have hbound : s.toList.length < Text.maxCount := hspares.2
        have hmax : Text.maxCount = Text.countBound - 1 := rfl
        omega
      · obtain ⟨field, hfield, rfl⟩ := List.mem_map.mp hitem
        rw [String.toList_ofList]
        exact fun hmem => hspares.1 (Text.subset_of_mem_fields hfield hmem)
  | get =>
      obtain ⟨s, index, rfl⟩ := List.length_eq_two.mp hlength
      obtain ⟨place, -, h⟩ := bind_eq_ok_iff.mp h
      split at h
      · next item hitem =>
          cases h
          have hintact := hargs s List.mem_cons_self
          exact .inl (hintact.separator_notMem_item (List.mem_of_getElem? hitem))
      · cases h
  | reverse | substring | «match» | shiftLeft | shiftRight | rotateLeft | rotateRight =>
      cases args with
      | nil => cases hlength
      | cons s others =>
          have hsub := subset_of_apply (by decide) hlength h
          exact .inl fun hmem => of_decide_eq_true hspares (hsub hmem)

/-- Four functions keep intact whatever intact texts they get. Every other one has arguments, with
an array among them, of which it makes a malformed text. -/
theorem keeps_intact_iff (f : Builtin) :
    (∀ args value, args.length = f.arity → (∀ arg ∈ args, IsIntact arg) →
      f.apply args = .ok value → IsIntact value) ↔ f ∈ [uppercase, lowercase, length, get] := by
  constructor
  · intro h
    have hbreaks (args : List String) (value : String) : (args.length = f.arity ∧
        (∀ arg ∈ args, IsIntact arg) ∧ (f.apply args).toOption = some value ∧
          ¬ IsIntact value) → f ∈ [uppercase, lowercase, length, get] := by
      rintro ⟨hlength, hargs, happly, hvalue⟩
      refine absurd (h args value hlength hargs ?_) hvalue
      cases hresult : f.apply args with
      | ok found =>
          rw [hresult] at happly
          exact congrArg Except.ok (Option.some.inj happly)
      | error failure =>
          rw [hresult] at happly
          cases happly
    cases f with
    | uppercase | lowercase | length | get => decide
    | concat => exact hbreaks ["x", "1\x00a"] "x1\x00a" (by decide +kernel)
    | reverse => exact hbreaks ["1\x00a"] "a\x001" (by decide +kernel)
    | replace => exact hbreaks ["1\x00a", "1", "x"] "x\x00a" (by decide +kernel)
    | substring => exact hbreaks ["1\x00a", "1", "2"] "\x00" (by decide +kernel)
    | «match» => exact hbreaks ["1\x00a", "\\x00"] "\x00" (by decide +kernel)
    | split => exact hbreaks ["1\x00a", ","] "1\x001\x00a" (by decide +kernel)
    | shiftLeft => exact hbreaks ["1\x00a", "1"] "\x00a" (by decide +kernel)
    | shiftRight => exact hbreaks ["2\x00a\x00b", "2"] "2\x00a" (by decide +kernel)
    | rotateLeft => exact hbreaks ["1\x00a", "1"] "\x00a1" (by decide +kernel)
    | rotateRight => exact hbreaks ["1\x00a", "1"] "a1\x00" (by decide +kernel)
  · intro hf args value hlength hargs h
    refine isIntact_of_apply hlength ?_ hargs h
    simp only [List.mem_cons, List.not_mem_nil, or_false] at hf
    rcases hf with rfl | rfl | rfl | rfl <;> rfl

end Builtin

end StringScript
