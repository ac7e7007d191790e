import Mathlib.Data.List.Basic
import StringScript.Builtin.Apply
import StringScript.Proofs.ArrayHeader

/-!
# Values of numerals

The two readings that go digit by digit, against the number that all digits spell: the count is the
smaller of it and the largest count, and the residue is its remainder.
-/

namespace StringScript

namespace Text

theorem digitValue_lt {c : Char} (h : c.isDigit) : digitValue c < 10 := by
  obtain ⟨d, hd, rfl⟩ := exists_digitChar_of_isDigit h
  have hvalue : digitValue (Nat.digitChar d) = d := Nat.toNat_digitChar_sub_48_of_lt_ten hd
  rw [hvalue]
  exact hd

theorem cappedValue_eq_min (s : List Char) : cappedValue s = min (numeralValue s) maxCount := by
  have hfrom : ∀ n, s.foldl (fun n c => min (min (10 * n) maxCount + digitValue c) maxCount)
      (min n maxCount) = min (Nat.ofDigitChars 10 s n) maxCount := by
    induction s with
    | nil => exact fun n => by rw [List.foldl_nil, Nat.ofDigitChars_nil]
    | cons c rest ih =>
        intro n
        have hstep : min (min (10 * min n maxCount) maxCount + digitValue c) maxCount =
            min (10 * n + digitValue c) maxCount := by
          omega
        rw [List.foldl_cons, hstep, ih, Nat.ofDigitChars_cons]
        rfl
  exact hfrom 0

theorem residue_eq_mod {modulus : Nat} (hmodulus : modulus ≠ 0) (s : List Char) :
    residue modulus s = numeralValue s % modulus := by
  have hfrom : ∀ n, s.foldl (fun r c => (10 * r + digitValue c) % modulus) (n % modulus) =
      Nat.ofDigitChars 10 s n % modulus := by
    induction s with
    | nil => exact fun n => by rw [List.foldl_nil, Nat.ofDigitChars_nil]
    | cons c rest ih =>
        intro n
        have hstep : (10 * (n % modulus) + digitValue c) % modulus =
            (10 * n + digitValue c) % modulus := by
          rw [Nat.add_mod, Nat.mul_mod_mod, ← Nat.add_mod]
        rw [List.foldl_cons, hstep, ih, Nat.ofDigitChars_cons]
        rfl
  have hzero := hfrom 0
  rw [Nat.zero_mod] at hzero
  rw [residue, if_neg hmodulus, hzero]
  rfl

theorem residue_le (modulus : Nat) (s : List Char) : residue modulus s ≤ modulus := by
  by_cases hmodulus : modulus = 0
  · rw [hmodulus]
    exact Nat.le_refl 0
  · rw [residue_eq_mod hmodulus]
    exact Nat.le_of_lt (Nat.mod_lt _ (Nat.pos_of_ne_zero hmodulus))

end Text

namespace Builtin

variable {n : String} {f : Builtin} {position : Nat}

theorem digits_of_isNumeral (hn : Text.isNumeral n.toList) :
    f.digits position n = .ok n.toList := if_pos hn

theorem count_of_isNumeral (hn : Text.isNumeral n.toList) :
    f.count position n = .ok (Text.cappedValue n.toList) := by
  rw [count, digits_of_isNumeral hn]
  rfl

end Builtin

end StringScript
