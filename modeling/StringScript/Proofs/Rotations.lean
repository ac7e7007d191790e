import Mathlib.Data.Int.ModEq
import Mathlib.Data.List.Rotate
import Mathlib.Tactic.Ring
import StringScript.Proofs.Positions

/-!
# Rotations

A text is turned to the left by a number of places, or to the right by a negative number of them.
Turns add up, and a turn by all characters is none, so that the integers modulo the length act on
the text. Both rotations are such turns, one by the value of its numeral and the other by the
negative value; whatever holds of rotations, for numerals of any size, follows from this.
-/

namespace StringScript

namespace Text

variable {s : List Char} {j k : Int}

/-- `s` turned to the left by `k` places. -/
def turned (s : List Char) (k : Int) : List Char := s.rotate (k % s.length).toNat

theorem turned_congr (h : j ≡ k [ZMOD s.length]) : turned s j = turned s k := by
  rw [turned, turned, h]

theorem turned_natCast (s : List Char) (n : Nat) : turned s n = s.rotate n := by
  rw [turned, ← Int.natCast_mod, Int.toNat_natCast, List.rotate_mod]

theorem turned_nil (k : Int) : turned [] k = [] := List.rotate_nil _

theorem turned_zero (s : List Char) : turned s 0 = s := by
  have hzero := turned_natCast s 0
  rwa [List.rotate_zero] at hzero

/-- Unless the text is empty, each turn is one to the left. -/
theorem exists_turned_eq_rotate (hne : s ≠ []) (k : Int) :
    ∃ n : Nat, n ≡ k [ZMOD s.length] ∧ turned s k = s.rotate n := by
  have hlength : (s.length : Int) ≠ 0 := by simpa using hne
  have hcast : ((k % s.length).toNat : Int) = k % s.length :=
    Int.toNat_of_nonneg (Int.emod_nonneg k hlength)
  exact ⟨(k % s.length).toNat, by rw [hcast]; exact Int.mod_modEq k _, rfl⟩

theorem turned_turned (s : List Char) (j k : Int) : turned (turned s j) k = turned s (j + k) := by
  by_cases hempty : s = []
  · rw [hempty, turned_nil, turned_nil, turned_nil]
  · obtain ⟨m, hm, hfirst⟩ := exists_turned_eq_rotate hempty j
    have hne : s.rotate m ≠ [] := by rwa [Ne, List.rotate_eq_nil_iff]
    obtain ⟨n, hn, hsecond⟩ := exists_turned_eq_rotate hne k
    rw [List.length_rotate] at hn
    calc turned (turned s j) k
      _ = (s.rotate m).rotate n := by rw [hfirst, hsecond]
      _ = turned s (m + n : Nat) := by rw [List.rotate_rotate, turned_natCast]
      _ = turned s (j + k) := turned_congr (by rw [Int.natCast_add]; exact hm.add hn)

/-- A rotation by what a remainder leaves of the length is a turn to the right. -/
theorem rotated_sub_mod (s : List Char) (n : Nat) :
    Builtin.rotated s (s.length - n % s.length) = turned s (-n) := by
  by_cases hempty : s = []
  · rw [hempty, turned_nil, Builtin.rotated_nil]
  · have hpos : 0 < s.length := List.length_pos_iff.mpr hempty
    have hle : n % s.length ≤ s.length := Nat.le_of_lt (Nat.mod_lt n hpos)
    -- The two differ by whole turns: one, and those that `n` makes before its remainder.
    have hcongr : ((s.length - n % s.length : Nat) : Int) ≡ -n [ZMOD s.length] := by
      refine Int.modEq_iff_dvd.mpr ⟨-(n / s.length + 1), ?_⟩
      have hdiv : (s.length * (n / s.length : Nat) + (n % s.length : Nat) : Int) = n := by
        exact_mod_cast Nat.div_add_mod n s.length
      rw [Int.natCast_sub hle, ← Int.natCast_ediv]
      conv_lhs => rw [← hdiv]
      ring
    calc Builtin.rotated s (s.length - n % s.length)
      _ = s.rotate (s.length - n % s.length) :=
          (List.rotate_eq_drop_append_take (Nat.sub_le _ _)).symm
      _ = turned s (s.length - n % s.length : Nat) := (turned_natCast s _).symm
      _ = turned s (-n) := turned_congr hcongr

end Text

namespace Builtin

/-- The function turns a text to the left by the value of a numeral times `sign`. -/
def Turns (f : Builtin) (sign : Int) : Prop :=
  ∀ s n : String, Text.isNumeral n.toList →
    f.apply [s, n] = .ok (.ofList (Text.turned s.toList (sign * Text.numeralValue n.toList)))

theorem turns_rotateLeft : Turns rotateLeft 1 := by
  intro s n hn
  rw [rotateLeft_eq hn, one_mul, Text.turned_natCast, List.rotate_eq_drop_append_take_mod]
  rfl

theorem turns_rotateRight : Turns rotateRight (-1) := by
  intro s n hn
  rw [rotateRight_eq hn, neg_one_mul, ← Text.rotated_sub_mod, String.length_toList]

variable {f g : Builtin} {i j : Int} {s a b c : String}

theorem Turns.apply_bind (hf : Turns f i) (hg : Turns g j) (ha : Text.isNumeral a.toList)
    (hb : Text.isNumeral b.toList) :
    (do g.apply [← f.apply [s, a], b]) = .ok (.ofList (Text.turned s.toList
      (i * Text.numeralValue a.toList + j * Text.numeralValue b.toList))) := by
  rw [hf s a ha]
  dsimp only [bind, Except.bind]
  rw [hg _ b hb, String.toList_ofList, Text.turned_turned]

theorem Turns.apply_eq_self (hf : Turns f i) (ha : Text.isNumeral a.toList)
    (h : i * Text.numeralValue a.toList ≡ 0 [ZMOD s.length]) : f.apply [s, a] = .ok s := by
  rw [← String.length_toList] at h
  rw [hf s a ha, Text.turned_congr h, Text.turned_zero, String.ofList_toList]

theorem Turns.apply_empty (hf : Turns f i) (ha : Text.isNumeral a.toList) :
    f.apply ["", a] = .ok "" := by
  rw [hf "" a ha, String.toList_empty, Text.turned_nil]

theorem Turns.apply_twice (hf : Turns f i) (ha : Text.isNumeral a.toList)
    (hb : Text.isNumeral b.toList) (hc : Text.isNumeral c.toList)
    (h : Text.numeralValue c.toList ≡
      Text.numeralValue a.toList + Text.numeralValue b.toList [MOD s.length]) :
    ∃ t, (do f.apply [← f.apply [s, a], b]) = .ok t ∧ f.apply [s, c] = .ok t := by
  have hsum : i * Text.numeralValue c.toList ≡
      i * Text.numeralValue a.toList + i * Text.numeralValue b.toList [ZMOD s.toList.length] := by
    rw [← mul_add, ← Int.natCast_add, String.length_toList]
    exact (Int.natCast_modEq_iff.mpr h).mul_left i
  exact ⟨_, hf.apply_bind hf ha hb, by rw [hf s c hc, Text.turned_congr hsum]⟩

theorem Turns.apply_bind_eq_self (hf : Turns f i) (hg : Turns g j) (hopposite : i + j = 0)
    (ha : Text.isNumeral a.toList) : (do g.apply [← f.apply [s, a], a]) = .ok s := by
  rw [hf.apply_bind hg ha ha, ← add_mul, hopposite, zero_mul, Text.turned_zero,
    String.ofList_toList]

/-- **Rotations act as the integers modulo the length.** Two in one direction are one by the sum,
those in opposite directions cancel, and a rotation by a multiple of the length does nothing. The
empty text is not changed by any. -/
theorem rotations_act (ha : Text.isNumeral a.toList) (hb : Text.isNumeral b.toList)
    (hc : Text.isNumeral c.toList) :
    let A := Text.numeralValue a.toList
    let B := Text.numeralValue b.toList
    let C := Text.numeralValue c.toList
    (C ≡ A + B [MOD s.length] → ∀ f ∈ [rotateLeft, rotateRight],
      ∃ t, (do f.apply [← f.apply [s, a], b]) = .ok t ∧ f.apply [s, c] = .ok t) ∧
    (do rotateRight.apply [← rotateLeft.apply [s, a], a]) = .ok s ∧
    (do rotateLeft.apply [← rotateRight.apply [s, a], a]) = .ok s ∧
    (s.length ∣ A → rotateLeft.apply [s, a] = .ok s ∧ rotateRight.apply [s, a] = .ok s) ∧
    (s.length ∣ A + B →
      ∃ t, rotateLeft.apply [s, a] = .ok t ∧ rotateRight.apply [s, b] = .ok t) ∧
    (s = "" → rotateLeft.apply [s, a] = .ok s ∧ rotateRight.apply [s, a] = .ok s) := by
  intro A B C
  have hleft := turns_rotateLeft
  have hright := turns_rotateRight
  refine ⟨fun hsum f hf => ?_, hleft.apply_bind_eq_self hright (add_neg_cancel 1) ha,
    hright.apply_bind_eq_self hleft (neg_add_cancel 1) ha, fun hmultiple => ?_,
    fun hmultiple => ?_, ?_⟩
  · simp only [List.mem_cons, List.not_mem_nil, or_false] at hf
    obtain rfl | rfl := hf
    · exact hleft.apply_twice ha hb hc hsum
    · exact hright.apply_twice ha hb hc hsum
  · have hzero : (A : Int) ≡ 0 [ZMOD s.length] :=
      Int.modEq_zero_iff_dvd.mpr (Int.natCast_dvd_natCast.mpr hmultiple)
    exact ⟨hleft.apply_eq_self ha (hzero.mul_left 1), hright.apply_eq_self ha (hzero.mul_left (-1))⟩
  · have hopposite : (1 * A : Int) ≡ -1 * B [ZMOD s.toList.length] := by
      refine (Int.modEq_iff_dvd.mpr ?_).symm
      have hdvd : (s.length : Int) ∣ (A + B : Nat) := Int.natCast_dvd_natCast.mpr hmultiple
      have hdifference : (1 * A - -1 * B : Int) = (A + B : Nat) := by
        push_cast
        ring
      rwa [hdifference, String.length_toList]
    exact ⟨_, hleft s a ha, by rw [hright s b hb, Text.turned_congr hopposite]⟩
  · rintro rfl
    exact ⟨hleft.apply_empty ha, hright.apply_empty ha⟩

/-- The first number is beyond the counts, and the sum with the second wraps around. -/
theorem rotations_act_wrapping :
    let s := "a\u00f1b"
    let a := "0018446744073709551617"
    let A := Text.numeralValue a.toList
    Text.isNumeral a.toList ∧ Text.isNumeral "4".toList ∧ Text.isNumeral "9".toList ∧
      Text.numeralValue "9".toList ≡ A + Text.numeralValue "4".toList [MOD s.length] ∧
      s.length ∣ A + Text.numeralValue "4".toList ∧ s.length ∣ Text.numeralValue "9".toList ∧
      (∃ t, (do rotateRight.apply [← rotateRight.apply [s, a], "4"]) = .ok t ∧
        rotateRight.apply [s, "9"] = .ok t) ∧
      (∃ t, rotateLeft.apply [s, a] = .ok t ∧ rotateRight.apply [s, "4"] = .ok t) ∧
      rotateLeft.apply [s, "9"] = .ok s := by
  intro s a A
  have ha : Text.isNumeral a.toList := by decide +kernel
  have hfour : Text.isNumeral "4".toList := by decide +kernel
  have hnine : Text.isNumeral "9".toList := by decide +kernel
  have hsum : Text.numeralValue "9".toList ≡ A + Text.numeralValue "4".toList [MOD s.length] := by
    decide +kernel
  have hmultiple : s.length ∣ A + Text.numeralValue "4".toList := by decide +kernel
  have hwhole : s.length ∣ Text.numeralValue "9".toList := by decide +kernel
  obtain ⟨htwice, -, -, -, hopposite, -⟩ := rotations_act ha hfour hnine
  obtain ⟨-, -, -, hself, -⟩ := rotations_act hnine hnine hnine
  exact ⟨ha, hfour, hnine, hsum, hmultiple, hwhole, htwice hsum rotateRight (by decide),
    hopposite hmultiple, (hself hwhole).1⟩

end Builtin

end StringScript
