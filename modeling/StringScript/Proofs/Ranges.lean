import StringScript.Proofs.Numerals

/-!
# Steps that stay in range

The functions that take positions, computed once more with each step checked that could leave its
range: products and sums of 128 bits, differences, remainders, and the bounds of a part of a text.
None of them does, so that the checked functions give the same results.
-/

namespace StringScript

/-! ### Arithmetic that checks its range -/

namespace Text

/-- A number of 128 bits, the largest there are. -/
def wide? (n : Nat) : Option Nat := if n < Nat.pow 2 128 then some n else none

/-- A number of 64 bits. -/
def narrow? (n : Nat) : Option Nat := if n < countBound then some n else none

def difference? (m n : Nat) : Option Nat := if n ≤ m then some (m - n) else none

def remainder? (m n : Nat) : Option Nat := if n = 0 then none else some (m % n)

/-- The characters of `s` from the place `start` up to the place `stop`. -/
def part? (s : List Char) (start stop : Nat) : Option (List Char) :=
  if start ≤ stop ∧ stop ≤ s.length then some ((s.take stop).drop start) else none

def digit? (c : Char) : Option Nat := difference? c.toNat '0'.toNat

/-- `cappedValue`, whose product and sum stop at the largest count. -/
def cappedValue? (s : List Char) : Option Nat :=
  s.foldlM (fun n c => do return min (min (10 * n) maxCount + (← digit? c)) maxCount) 0

def residueStep? (modulus r : Nat) (c : Char) : Option Nat := do
  remainder? (← wide? ((← wide? (10 * r)) + (← digit? c))) modulus

/-- `residue`, with products and sums of 128 bits and a result of 64 bits. -/
def residue? (modulus : Nat) (s : List Char) : Option Nat :=
  if modulus = 0 then some 0 else do narrow? (← s.foldlM (residueStep? modulus) 0)

def rotated? (s : List Char) (k : Nat) : Option (List Char) := do
  return (← part? s k s.length) ++ (← part? s 0 k)

theorem digit?_eq_some {c : Char} (h : c.isDigit) : digit? c = some (digitValue c) := by
  obtain ⟨d, hd, rfl⟩ := exists_digitChar_of_isDigit h
  have hle : '0'.toNat ≤ (Nat.digitChar d).toNat := by
    rw [Nat.toNat_digitChar_of_lt_ten hd]
    exact Nat.le_add_right 48 d
  rw [digit?, difference?, if_pos hle, digitValue]

/-- A loop whose steps are all in range, by an invariant, gives what it gives unchecked. -/
theorem foldlM_eq_some {f : Nat → Char → Option Nat} {g : Nat → Char → Nat} (inv : Nat → Prop)
    {s : List Char} (hstep : ∀ n, inv n → ∀ c ∈ s, f n c = some (g n c) ∧ inv (g n c)) {n : Nat}
    (hn : inv n) : s.foldlM f n = some (s.foldl g n) := by
  induction s generalizing n with
  | nil => rfl
  | cons c rest ih =>
      obtain ⟨hfirst, hnext⟩ := hstep n hn c List.mem_cons_self
      rw [List.foldlM_cons, hfirst, List.foldl_cons]
      exact ih (fun m hm d hd => hstep m hm d (List.mem_cons_of_mem c hd)) hnext

variable {s : List Char}

theorem cappedValue?_eq_some (hs : ∀ c ∈ s, c.isDigit) :
    cappedValue? s = some (cappedValue s) := by
  refine foldlM_eq_some (fun _ => True) (fun n _ c hc => ⟨?_, trivial⟩) trivial
  rw [digit?_eq_some (hs c hc)]
  rfl

/-- The remainder so far is below the modulus, so ten times it and a digit have far less than 128
bits. -/
theorem residueStep?_eq_some {modulus r : Nat} {c : Char} (hmodulus : modulus < countBound)
    (hr : r < modulus) (hc : c.isDigit) :
    residueStep? modulus r c = some ((10 * r + digitValue c) % modulus) := by
  have hdigit := digitValue_lt hc
  have hbound : countBound = 18446744073709551616 := rfl
  have hwide : Nat.pow 2 128 = 340282366920938463463374607431768211456 := rfl
  have hproduct : wide? (10 * r) = some (10 * r) := if_pos (by omega)
  have hsum : wide? (10 * r + digitValue c) = some (10 * r + digitValue c) := if_pos (by omega)
  have hremainder : remainder? (10 * r + digitValue c) modulus =
      some ((10 * r + digitValue c) % modulus) := if_neg (by omega)
  rw [residueStep?, hproduct, digit?_eq_some hc]
  dsimp only [Option.bind_eq_bind, Option.bind_some]
  rw [hsum, Option.bind_some, hremainder]

theorem residue?_eq_some {modulus : Nat} (hmodulus : modulus < countBound)
    (hs : ∀ c ∈ s, c.isDigit) : residue? modulus s = some (residue modulus s) := by
  by_cases hzero : modulus = 0
  · rw [residue?, residue, if_pos hzero, if_pos hzero]
  · have hpos : 0 < modulus := Nat.pos_of_ne_zero hzero
    have hfold : s.foldlM (residueStep? modulus) 0 = some (residue modulus s) := by
      rw [residue, if_neg hzero]
      exact foldlM_eq_some (· < modulus)
        (fun r hr c hc => ⟨residueStep?_eq_some hmodulus hr (hs c hc), Nat.mod_lt _ hpos⟩) hpos
    have hnarrow : narrow? (residue modulus s) = some (residue modulus s) :=
      if_pos (Nat.lt_of_le_of_lt (residue_le modulus s) hmodulus)
    rw [residue?, if_neg hzero, hfold]
    exact hnarrow

theorem rotated?_eq_some {k : Nat} (hk : k ≤ s.length) :
    rotated? s k = some (Builtin.rotated s k) := by
  have hback : part? s k s.length = some (s.drop k) := by
    rw [part?, if_pos ⟨hk, Nat.le_refl _⟩, List.take_length]
  have hfront : part? s 0 k = some (s.take k) := by
    rw [part?, if_pos ⟨Nat.zero_le k, hk⟩, List.drop_zero]
  rw [rotated?, hback, hfront]
  rfl

theorem part?_min_eq_some {start stop : Nat} (h : min start s.length < min stop s.length) :
    part? s (min start s.length) (min stop s.length) = some (Builtin.slice s start stop) := by
  have hstart : min start s.length = start := by omega
  have htake : s.take (min stop s.length) = s.take stop := by
    rw [← List.take_take, List.take_length]
  rw [part?, if_pos ⟨Nat.le_of_lt h, Nat.min_le_right _ _⟩, htake, hstart, Builtin.slice]

end Text

/-! ### Functions that check their steps -/

namespace Builtin

/-- A rotation by all characters is one by none. -/
theorem rotated_mod_max {s : List Char} {k : Nat} (hk : k ≤ s.length) :
    rotated s (k % max s.length 1) = rotated s k := by
  obtain hlt | rfl := Nat.lt_or_eq_of_le hk
  · rw [Nat.mod_eq_of_lt (Nat.lt_of_lt_of_le hlt (Nat.le_max_left _ _))]
  · cases s with
    | nil => rfl
    | cons c rest =>
        have hmax : max (c :: rest).length 1 = (c :: rest).length := Nat.max_eq_left (by simp)
        rw [hmax, Nat.mod_self]
        simp [rotated]

theorem slice_eq_nil {s : List Char} {start stop : Nat} (h : min stop s.length ≤ start) :
    slice s start stop = [] := by
  rw [slice, List.drop_eq_nil_iff, List.length_take]
  exact h

/-- The functions that take positions, if these are numerals, with every step checked that could
leave its range. -/
def checked? : Builtin → List String → Option (Except Failure String)
  | substring, [s, start, stop] => do
    let first := min (← Text.cappedValue? start.toList) s.length
    let last := min (← Text.cappedValue? stop.toList) s.length
    if last ≤ first then return .ok "" else return .ok (.ofList (← Text.part? s.toList first last))
  | get, [s, index] => do
    let items := ArrayText.decode s
    let place ← Text.cappedValue? index.toList
    return match items[place]? with
    | some item => .ok item
    | none => .error (.indexOutOfBounds index items.length)
  | shiftLeft, [s, n] => do return .ok (.ofList (s.toList.drop (← Text.cappedValue? n.toList)))
  -- This difference is meant to stop at zero.
  | shiftRight, [s, n] => do
    return .ok (.ofList (s.toList.take (s.length - (← Text.cappedValue? n.toList))))
  | rotateLeft, [s, n] => do
    let k ← Text.residue? s.length n.toList
    return .ok (.ofList (← Text.rotated? s.toList k))
  | rotateRight, [s, n] => do
    let k ← Text.residue? s.length n.toList
    let left ← Text.remainder? (← Text.difference? s.length k) (max s.length 1)
    return .ok (.ofList (← Text.rotated? s.toList left))
  | _, _ => none

variable {s n m : String}

theorem checked?_substring (hn : Text.isNumeral n.toList) (hm : Text.isNumeral m.toList) :
    substring.checked? [s, n, m] = some (substring.apply [s, n, m]) := by
  rw [checked?, apply, Text.cappedValue?_eq_some (Text.isNumeral_iff.mp hn).2,
    Text.cappedValue?_eq_some (Text.isNumeral_iff.mp hm).2, count_of_isNumeral hn,
    count_of_isNumeral hm]
  dsimp only [Option.bind_eq_bind, Option.bind_some]
  split
  · next hle =>
      have hnil := slice_eq_nil (s := s.toList) (Nat.le_trans hle (Nat.min_le_left _ _))
      exact congrArg (fun chars => some (Except.ok (String.ofList chars))) hnil.symm
  · next hlt =>
      rw [← String.length_toList, Text.part?_min_eq_some (Nat.lt_of_not_le hlt)]
      rfl

theorem checked?_get (hn : Text.isNumeral n.toList) :
    get.checked? [s, n] = some (get.apply [s, n]) := by
  rw [checked?, apply, Text.cappedValue?_eq_some (Text.isNumeral_iff.mp hn).2,
    count_of_isNumeral hn]
  rfl

theorem checked?_shiftLeft (hn : Text.isNumeral n.toList) :
    shiftLeft.checked? [s, n] = some (shiftLeft.apply [s, n]) := by
  rw [checked?, apply, Text.cappedValue?_eq_some (Text.isNumeral_iff.mp hn).2,
    count_of_isNumeral hn]
  rfl

theorem checked?_shiftRight (hn : Text.isNumeral n.toList) :
    shiftRight.checked? [s, n] = some (shiftRight.apply [s, n]) := by
  rw [checked?, apply, Text.cappedValue?_eq_some (Text.isNumeral_iff.mp hn).2,
    count_of_isNumeral hn]
  rfl

theorem checked?_rotateLeft (hs : s.length < Text.countBound) (hn : Text.isNumeral n.toList) :
    rotateLeft.checked? [s, n] = some (rotateLeft.apply [s, n]) := by
  have hle : Text.residue s.length n.toList ≤ s.toList.length := Text.residue_le _ _
  rw [checked?, apply, Text.residue?_eq_some hs (Text.isNumeral_iff.mp hn).2,
    digits_of_isNumeral hn]
  dsimp only [Option.bind_eq_bind, Option.bind_some]
  rw [Text.rotated?_eq_some hle]
  rfl

theorem checked?_rotateRight (hs : s.length < Text.countBound) (hn : Text.isNumeral n.toList) :
    rotateRight.checked? [s, n] = some (rotateRight.apply [s, n]) := by
  have hle : Text.residue s.length n.toList ≤ s.length := Text.residue_le _ _
  have hback : Text.difference? s.length (Text.residue s.length n.toList) =
      some (s.length - Text.residue s.length n.toList) := if_pos hle
  have hturn : Text.remainder? (s.length - Text.residue s.length n.toList) (max s.length 1) =
      some ((s.length - Text.residue s.length n.toList) % max s.length 1) :=
    if_neg (by omega)
  have hrotated : Text.rotated? s.toList
      ((s.length - Text.residue s.length n.toList) % max s.length 1) =
      some (rotated s.toList (s.length - Text.residue s.length n.toList)) := by
    have hfits : s.length - Text.residue s.length n.toList ≤ s.toList.length := Nat.sub_le _ _
    rw [Text.rotated?_eq_some (Nat.le_trans (Nat.mod_le _ _) hfits)]
    exact congrArg some (rotated_mod_max hfits)
  rw [checked?, apply, Text.residue?_eq_some hs (Text.isNumeral_iff.mp hn).2,
    digits_of_isNumeral hn]
  dsimp only [Option.bind_eq_bind, Option.bind_some]
  rw [hback, Option.bind_some, hturn, Option.bind_some, hrotated]
  rfl

end Builtin

end StringScript
