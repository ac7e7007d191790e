import StringScript.Proofs.Fields

/-!
# Texts cut at leftmost occurrences

A non-empty text cuts another at its occurrences, each the first one after the one before it. There
is one way to do so, and it is found character by character. Putting another text in place of the
occurrences is joining the fields between them with it. Both tell whether there is any occurrence.
-/

namespace StringScript.Text

variable {sep s : List Char} {parts : List (List Char)}

/-- The first occurrence of `sep` in `field ++ sep` is the one at the end. -/
def EndsAtFirst (sep field : List Char) : Prop :=
  ∀ before after, field ++ sep = before ++ sep ++ after → field.length ≤ before.length

/-- The fields are what the leftmost occurrences of `sep` in `s` leave between them. -/
structure IsCut (sep s : List Char) (fields : List (List Char)) : Prop where
  joined : sep.intercalate fields = s
  leftmost : ∀ field ∈ fields.dropLast, EndsAtFirst sep field
  last : ∃ field ∈ fields.getLast?, ¬ sep <:+: field

/-! ### First occurrences -/

theorem endsAtFirst_nil (sep : List Char) : EndsAtFirst sep [] := fun _ _ _ => Nat.zero_le _

theorem endsAtFirst_cons_iff {c : Char} {field : List Char} :
    EndsAtFirst sep (c :: field) ↔ ¬ sep <+: c :: field ++ sep ∧ EndsAtFirst sep field := by
  constructor
  · refine fun h => ⟨?_, fun before after heq => ?_⟩
    · rintro ⟨after, heq⟩
      exact absurd (h [] after heq.symm) (Nat.not_succ_le_zero _)
    · have hcons : c :: field ++ sep = (c :: before) ++ sep ++ after := by
        rw [List.cons_append, heq]
        rfl
      exact Nat.le_of_succ_le_succ (h _ after hcons)
  · rintro ⟨hstarts, hfield⟩ before after heq
    cases before with
    | nil => exact absurd ⟨after, heq.symm⟩ hstarts
    | cons d before =>
        obtain ⟨-, hrest⟩ := List.cons.inj heq
        exact Nat.succ_le_succ (hfield before after hrest)

theorem exists_endsAtFirst (h : sep <:+: s) :
    ∃ field rest, s = field ++ sep ++ rest ∧ EndsAtFirst sep field := by
  induction s with
  | nil =>
      rw [List.infix_nil] at h
      exact ⟨[], [], by simp [h], endsAtFirst_nil sep⟩
  | cons c s ih =>
      by_cases hstarts : sep <+: c :: s
      · obtain ⟨rest, hrest⟩ := hstarts
        exact ⟨[], rest, hrest.symm, endsAtFirst_nil sep⟩
      · obtain ⟨field, rest, rfl, hfield⟩ := ih ((List.infix_cons_iff.mp h).resolve_left hstarts)
        refine ⟨c :: field, rest, rfl, endsAtFirst_cons_iff.mpr ⟨fun hfront => hstarts ?_, hfield⟩⟩
        exact hfront.trans (List.prefix_append (c :: field ++ sep) rest)

/-! ### One way to cut -/

theorem isCut_singleton_iff {field : List Char} :
    IsCut sep s [field] ↔ field = s ∧ ¬ sep <:+: s := by
  constructor
  · rintro ⟨rfl, -, last, hlast, hfree⟩
    cases hlast
    exact ⟨List.intercalate_singleton.symm, by rwa [List.intercalate_singleton]⟩
  · rintro ⟨rfl, hfree⟩
    exact ⟨List.intercalate_singleton, by simp, field, rfl, hfree⟩

theorem isCut_cons_cons_iff {field next : List Char} {others : List (List Char)} :
    IsCut sep s (field :: next :: others) ↔ EndsAtFirst sep field ∧
      ∃ rest, s = field ++ sep ++ rest ∧ IsCut sep rest (next :: others) := by
  constructor
  · rintro ⟨rfl, hleftmost, hlast⟩
    rw [List.dropLast_cons_cons, List.forall_mem_cons] at hleftmost
    rw [List.getLast?_cons_cons] at hlast
    exact ⟨hleftmost.1, _, List.intercalate_cons_cons, rfl, hleftmost.2, hlast⟩
  · rintro ⟨hfield, rest, rfl, hjoined, hleftmost, hlast⟩
    refine ⟨by rw [List.intercalate_cons_cons, hjoined], ?_, ?_⟩
    · rw [List.dropLast_cons_cons]
      exact List.forall_mem_cons.mpr ⟨hfield, hleftmost⟩
    · rwa [List.getLast?_cons_cons]

/-! ### Cutting character by character -/

theorem fieldsFrom_skip (sep : List Char) (skip : Nat) (s : List Char) :
    fieldsFrom sep skip s = fieldsFrom sep 0 (s.drop skip) := by
  induction s generalizing skip with
  | nil => rw [List.drop_nil, fieldsFrom, fieldsFrom]
  | cons c s ih =>
      cases skip with
      | zero => rfl
      | succ skip => rw [fieldsFrom, ih, List.drop_succ_cons]

theorem fieldsFrom_of_not_occurs (h : ¬ sep <:+: s) : fieldsFrom sep 0 s = [s] := by
  induction s with
  | nil => rfl
  | cons c s ih =>
      rw [List.infix_cons_iff, not_or] at h
      have hstarts : ¬ sep.isPrefixOf (c :: s) := by
        rw [List.isPrefixOf_iff_prefix]
        exact h.1
      rw [fieldsFrom, if_neg hstarts, ih h.2]
      rfl

theorem fieldsFrom_append (hsep : sep ≠ []) {field : List Char} (h : EndsAtFirst sep field)
    (rest : List Char) :
    fieldsFrom sep 0 (field ++ sep ++ rest) = field :: fieldsFrom sep 0 rest := by
  induction field with
  | nil =>
      obtain ⟨c, more, rfl⟩ := List.exists_cons_of_ne_nil hsep
      have hstarts : (c :: more).isPrefixOf (c :: (more ++ rest)) := by
        rw [List.isPrefixOf_iff_prefix]
        exact List.prefix_append (c :: more) rest
      rw [List.nil_append, List.cons_append, fieldsFrom, if_pos hstarts, fieldsFrom_skip]
      simp
  | cons c field ih =>
      obtain ⟨hfirst, hfield⟩ := endsAtFirst_cons_iff.mp h
      have hstarts : ¬ sep.isPrefixOf (c :: (field ++ sep ++ rest)) := by
        rw [List.isPrefixOf_iff_prefix]
        intro hfront
        have hlength : sep.length ≤ (c :: field ++ sep).length := by
          rw [List.length_append]
          exact Nat.le_add_left _ _
        exact hfirst (List.prefix_of_prefix_length_le hfront
          (List.prefix_append (c :: field ++ sep) rest) hlength)
      rw [List.cons_append, List.cons_append, fieldsFrom, if_neg hstarts, ih hfield]
      rfl

theorem fieldsFrom_ne_nil (sep : List Char) (skip : Nat) (s : List Char) :
    fieldsFrom sep skip s ≠ [] := by
  induction s generalizing skip with
  | nil =>
      rw [fieldsFrom]
      exact List.cons_ne_nil _ _
  | cons c s ih =>
      cases skip with
      | succ skip =>
          rw [fieldsFrom]
          exact ih skip
      | zero =>
          rw [fieldsFrom]
          split
          · exact List.cons_ne_nil _ _
          · simpa using ih 0

theorem isCut_fieldsFrom (hsep : sep ≠ []) (s : List Char) : IsCut sep s (fieldsFrom sep 0 s) := by
  by_cases hoccurs : sep <:+: s
  · obtain ⟨field, rest, hs, hfield⟩ := exists_endsAtFirst hoccurs
    have hshorter : rest.length < s.length := by
      have hpos := List.length_pos_iff.mpr hsep
      rw [hs, List.length_append, List.length_append]
      omega
    have hrest := isCut_fieldsFrom hsep rest
    obtain ⟨next, others, heq⟩ := List.exists_cons_of_ne_nil (fieldsFrom_ne_nil sep 0 rest)
    rw [hs, fieldsFrom_append hsep hfield, heq]
    exact isCut_cons_cons_iff.mpr ⟨hfield, rest, rfl, heq ▸ hrest⟩
  · rw [fieldsFrom_of_not_occurs hoccurs]
    exact isCut_singleton_iff.mpr ⟨rfl, hoccurs⟩
termination_by s.length

theorem IsCut.eq_fieldsFrom (hsep : sep ≠ []) (h : IsCut sep s parts) :
    parts = fieldsFrom sep 0 s := by
  induction parts generalizing s with
  | nil =>
      obtain ⟨-, -, last, hlast, -⟩ := h
      cases hlast
  | cons field others ih =>
      cases others with
      | nil =>
          obtain ⟨rfl, hfree⟩ := isCut_singleton_iff.mp h
          rw [fieldsFrom_of_not_occurs hfree]
      | cons next others =>
          obtain ⟨hfield, rest, rfl, hrest⟩ := isCut_cons_cons_iff.mp h
          rw [fieldsFrom_append hsep hfield, ← ih hrest]

theorem isCut_iff_eq_fields (hsep : sep ≠ []) : IsCut sep s parts ↔ parts = fields sep s := by
  rw [fields, if_neg (by simpa using hsep)]
  constructor
  · intro h
    exact h.eq_fieldsFrom hsep
  · rintro rfl
    exact isCut_fieldsFrom hsep s

/-! ### Putting another text in place of the occurrences -/

theorem intercalate_modifyHead_cons {new : List Char} (c : Char) (hne : parts ≠ []) :
    new.intercalate (parts.modifyHead (c :: ·)) = c :: new.intercalate parts := by
  obtain ⟨first, others, rfl⟩ := List.exists_cons_of_ne_nil hne
  cases others with
  | nil => rw [List.modifyHead_cons, List.intercalate_singleton, List.intercalate_singleton]
  | cons next others =>
      rw [List.modifyHead_cons, List.intercalate_cons_cons, List.intercalate_cons_cons]
      rfl

theorem replaceFrom_eq_intercalate (old new : List Char) (skip : Nat) (s : List Char) :
    replaceFrom old new skip s = new.intercalate (fieldsFrom old skip s) := by
  induction s generalizing skip with
  | nil => rw [replaceFrom, fieldsFrom, List.intercalate_singleton]
  | cons c s ih =>
      cases skip with
      | succ skip => rw [replaceFrom, fieldsFrom, ih]
      | zero =>
          rw [replaceFrom, fieldsFrom]
          split
          · rw [ih, List.intercalate_cons_of_ne_nil (fieldsFrom_ne_nil _ _ _), List.nil_append]
          · rw [ih, intercalate_modifyHead_cons c (fieldsFrom_ne_nil _ _ _)]

theorem replaceAll_eq_intercalate {old : List Char} (hold : old ≠ []) (new s : List Char) :
    replaceAll old new s = new.intercalate (fields old s) := by
  have hempty : ¬ old.isEmpty := by simpa using hold
  rw [replaceAll, fields, if_neg hempty, if_neg hempty, replaceFrom_eq_intercalate]

theorem replaceAll_self (x s : List Char) : replaceAll x x s = s := by
  by_cases hempty : x = []
  · simp [replaceAll, hempty]
  · rw [replaceAll_eq_intercalate hempty]
    exact ((isCut_iff_eq_fields hempty).mpr rfl).joined

/-! ### Whether there is an occurrence -/

theorem hasInfix_iff {t : List Char} : hasInfix t s ↔ t <:+: s := by
  induction s with
  | nil => rw [hasInfix, List.isEmpty_iff, List.infix_nil]
  | cons c s ih =>
      rw [hasInfix, Bool.or_eq_true, List.isPrefixOf_iff_prefix, ih, List.infix_cons_iff]

theorem infix_iff_exists_prefix_drop {t : List Char} :
    t <:+: s ↔ ∃ n ≤ s.length, t <+: s.drop n := by
  constructor
  · rintro ⟨before, after, rfl⟩
    refine ⟨before.length, ?_, after, ?_⟩
    · rw [List.append_assoc, List.length_append]
      exact Nat.le_add_right _ _
    · rw [List.append_assoc, List.drop_left]
  · rintro ⟨n, -, hstarts⟩
    exact hstarts.isInfix.trans (List.drop_suffix n s).isInfix

/-- There are two fields or more exactly if there is an occurrence to cut at. -/
theorem two_le_length_fields_iff (hsep : sep ≠ []) :
    2 ≤ (fields sep s).length ↔ sep <:+: s := by
  rw [fields, if_neg (by simpa using hsep)]
  constructor
  · intro htwo
    by_contra hoccurs
    rw [fieldsFrom_of_not_occurs hoccurs, List.length_singleton] at htwo
    omega
  · intro hoccurs
    obtain ⟨field, rest, rfl, hfield⟩ := exists_endsAtFirst hoccurs
    have hrest := List.length_pos_iff.mpr (fieldsFrom_ne_nil sep 0 rest)
    rw [fieldsFrom_append hsep hfield, List.length_cons]
    omega

/-- Replacing by nothing takes away the occurrences, so that it shows whether there are any. -/
theorem exists_replaceAll_ne_iff {old : List Char} (hold : old ≠ []) :
    (∃ new, replaceAll old new s ≠ s) ↔ old <:+: s := by
  constructor
  · rintro ⟨new, hne⟩
    by_contra hoccurs
    have hempty : ¬ old.isEmpty := by simpa using hold
    rw [replaceAll_eq_intercalate hold, fields, if_neg hempty, fieldsFrom_of_not_occurs hoccurs,
      List.intercalate_singleton] at hne
    exact hne rfl
  · intro hoccurs
    -- What is left is shorter by the length of `old` for each occurrence, of which there is one.
    refine ⟨[], fun heq => ?_⟩
    have htwo := (two_le_length_fields_iff hold).mpr hoccurs
    have hjoined := ((isCut_iff_eq_fields (s := s) hold).mpr rfl).joined
    have hpos := List.length_pos_iff.mpr hold
    rw [replaceAll_eq_intercalate hold] at heq
    have hlengths := congrArg List.length (heq.trans hjoined.symm)
    obtain ⟨first, others, hfields⟩ := List.exists_cons_of_ne_nil
      (List.ne_nil_of_length_pos (Nat.lt_of_lt_of_le Nat.zero_lt_two htwo))
    rw [hfields, length_intercalate, length_intercalate, List.length_nil,
      Nat.mul_zero] at hlengths
    rw [hfields, List.length_cons] at htwo
    have hmore := Nat.mul_pos (Nat.le_of_succ_le_succ htwo) hpos
    omega

end StringScript.Text
