import StringScript.Proofs.Positions

/-!
# When a call fails

A call fails for its number of arguments, for a position that is no numeral, for a pattern that does
not compile, or for an index behind the last item; and where several of these hold, the first of
them is told. Nothing else makes a call fail, and no look-up of an argument and no step of a
computation leaves its range.
-/

namespace StringScript.Builtin

/-- The arguments that have to be positions, by number from 1. -/
def positions : Builtin → List Nat
  | substring => [2, 3]
  | get | shiftLeft | shiftRight | rotateLeft | rotateRight => [2]
  | _ => []

/-- The argument with this number is the first one that has to be a position and is no numeral. -/
structure IsFirstBadPosition (f : Builtin) (args : List String) (number : Nat) (arg : String) :
    Prop where
  isPosition : number ∈ f.positions
  found : args[number - 1]? = some arg
  isBad : ¬ Text.isNumeral arg.toList
  earlier : ∀ other ∈ f.positions, other < number →
    ∀ text ∈ args[other - 1]?, Text.isNumeral text.toList

/-- A call fails with the first of these that holds: its arguments are too few or too many, a
position is bad, a pattern does not compile, or there is no item with the index. -/
inductive Fails (f : Builtin) (args : List String) : Failure → Prop
  | arity (h : args.length ≠ f.arity) : Fails f args (.arityMismatch f args.length)
  | position {number : Nat} {arg : String} (harity : args.length = f.arity)
      (h : f.IsFirstBadPosition args number arg) :
      Fails f args (.invalidArgument f (.notCount number arg))
  | pattern {s pattern : String} {error : Pattern.PatternError} (hf : f = «match»)
      (hargs : args = [s, pattern]) (h : Pattern.compile pattern = .error error) :
      Fails f args (.invalidArgument f (.badPattern pattern))
  | index {s index : String} (hf : f = get) (hargs : args = [s, index])
      (hindex : Text.isNumeral index.toList)
      (h : (ArrayText.decode s).length ≤ Text.numeralValue index.toList) :
      Fails f args (.indexOutOfBounds index (ArrayText.decode s).length)

/-- A call with every argument looked up by its place, and every step checked that could leave its
range. Positions are refused before the text is looked at. -/
def call? (f : Builtin) (args : List String) : Option (Except Failure String) :=
  if args.length ≠ f.arity then some (.error (.arityMismatch f args.length))
  else
    match f with
    | uppercase | lowercase | reverse | length => do return f.apply [← args[0]?]
    | concat | «match» | split => do return f.apply [← args[0]?, ← args[1]?]
    | replace => do return f.apply [← args[0]?, ← args[1]?, ← args[2]?]
    | substring => do
      let start ← args[1]?
      let stop ← args[2]?
      match f.digits 2 start, f.digits 3 stop with
      | .error failure, _ | .ok _, .error failure => return .error failure
      | .ok _, .ok _ => f.checked? [← args[0]?, start, stop]
    | get | shiftLeft | shiftRight | rotateLeft | rotateRight => do
      let position ← args[1]?
      match f.digits 2 position with
      | .error failure => return .error failure
      | .ok _ => f.checked? [← args[0]?, position]

variable {f : Builtin} {args : List String} {s n m arg : String} {number : Nat}

/-! ### Bad positions -/

theorem digits_of_not_isNumeral (hn : ¬ Text.isNumeral n.toList) (position : Nat) :
    f.digits position n = .error (.invalidArgument f (.notCount position n)) := if_neg hn

theorem count_of_not_isNumeral (hn : ¬ Text.isNumeral n.toList) (position : Nat) :
    f.count position n = .error (.invalidArgument f (.notCount position n)) := by
  rw [count, digits_of_not_isNumeral hn]
  rfl

theorem isFirstBadPosition_iff (hf : f.positions = [2]) :
    f.IsFirstBadPosition [s, n] number arg ↔
      number = 2 ∧ arg = n ∧ ¬ Text.isNumeral n.toList := by
  constructor
  · rintro ⟨hposition, hfound, hbad, -⟩
    rw [hf, List.mem_singleton] at hposition
    subst hposition
    cases hfound
    exact ⟨rfl, rfl, hbad⟩
  · rintro ⟨rfl, rfl, hbad⟩
    refine ⟨by simp [hf], rfl, hbad, fun other hother hlt => ?_⟩
    rw [hf, List.mem_singleton] at hother
    omega

theorem isFirstBadPosition_substring_iff :
    substring.IsFirstBadPosition [s, n, m] number arg ↔
      (number = 2 ∧ arg = n ∧ ¬ Text.isNumeral n.toList) ∨
      (number = 3 ∧ arg = m ∧ Text.isNumeral n.toList ∧ ¬ Text.isNumeral m.toList) := by
  constructor
  · rintro ⟨hposition, hfound, hbad, hearlier⟩
    simp only [positions, List.mem_cons, List.not_mem_nil, or_false] at hposition
    obtain rfl | rfl := hposition
    · cases hfound
      exact .inl ⟨rfl, rfl, hbad⟩
    · cases hfound
      exact .inr ⟨rfl, rfl, hearlier 2 (by decide) (by decide) n rfl, hbad⟩
  · rintro (⟨rfl, rfl, hbad⟩ | ⟨rfl, rfl, hfirst, hbad⟩)
    · refine ⟨by decide, rfl, hbad, fun other hother hlt => ?_⟩
      simp only [positions, List.mem_cons, List.not_mem_nil, or_false] at hother
      omega
    · refine ⟨by decide, rfl, hbad, fun other hother hlt text htext => ?_⟩
      simp only [positions, List.mem_cons, List.not_mem_nil, or_false] at hother
      obtain rfl : other = 2 := by omega
      cases htext
      exact hfirst

theorem apply_of_bad_position (hf : f.positions = [2]) (hn : ¬ Text.isNumeral n.toList) :
    f.apply [s, n] = .error (.invalidArgument f (.notCount 2 n)) := by
  cases f with
  | get | shiftLeft | shiftRight =>
      rw [apply, count_of_not_isNumeral hn]
      rfl
  | rotateLeft | rotateRight =>
      rw [apply, digits_of_not_isNumeral hn]
      rfl
  | _ => cases hf

/-! ### Each failure -/

theorem apply_of_length_ne (h : args.length ≠ f.arity) :
    f.apply args = .error (.arityMismatch f args.length) := by
  unfold apply
  split
  case h_15 => rfl
  all_goals exact absurd rfl h

theorem apply_of_isFirstBadPosition (harity : args.length = f.arity)
    (h : f.IsFirstBadPosition args number arg) :
    f.apply args = .error (.invalidArgument f (.notCount number arg)) := by
  cases f with
  | get | shiftLeft | shiftRight | rotateLeft | rotateRight =>
      obtain ⟨s, n, rfl⟩ := List.length_eq_two.mp harity
      obtain ⟨rfl, rfl, hbad⟩ := (isFirstBadPosition_iff rfl).mp h
      exact apply_of_bad_position rfl hbad
  | substring =>
      obtain ⟨s, n, m, rfl⟩ := List.length_eq_three.mp harity
      obtain ⟨rfl, rfl, hbad⟩ | ⟨rfl, rfl, hfirst, hbad⟩ := isFirstBadPosition_substring_iff.mp h
      · rw [apply, count_of_not_isNumeral hbad]
        rfl
      · rw [apply, count_of_isNumeral hfirst, count_of_not_isNumeral hbad]
        rfl
  | _ => exact absurd h.isPosition List.not_mem_nil

theorem Fails.apply_eq {failure : Failure} (hargs : ∀ arg ∈ args, arg.length < Text.lengthBound)
    (h : f.Fails args failure) : f.apply args = .error failure := by
  cases h with
  | arity h => exact apply_of_length_ne h
  | position harity h => exact apply_of_isFirstBadPosition harity h
  | pattern hf hsame h =>
      subst hf hsame
      rw [apply, Pattern.find, h]
      rfl
  | index hf hsame hindex h =>
      subst hf hsame
      have hitems := ArrayText.length_decode_le_maxCount (hargs _ List.mem_cons_self)
      exact get_eq_error hindex hitems h

/-! ### Nothing else fails -/

theorem arity_eq_two (hf : f.positions = [2]) : f.arity = 2 := by
  cases f with
  | get | shiftLeft | shiftRight | rotateLeft | rotateRight => rfl
  | _ => cases hf

theorem fails_or_ok_of_position (hf : f.positions = [2]) (hs : s.length < Text.lengthBound) :
    (∃ failure, f.Fails [s, n] failure) ∨ ∃ result, f.apply [s, n] = .ok result := by
  by_cases hn : Text.isNumeral n.toList
  · have hmax := Text.le_maxCount_of_lt_lengthBound hs
    cases f with
    | get =>
        obtain hlt | hle := Nat.lt_or_ge (Text.numeralValue n.toList) (ArrayText.decode s).length
        · have hitem := List.getElem?_eq_getElem hlt
          exact .inr ⟨_, get_eq_ok hn (ArrayText.length_decode_le_maxCount hs) hitem⟩
        · exact .inl ⟨_, .index rfl rfl hn hle⟩
    | shiftLeft => exact .inr ⟨_, shiftLeft_eq hn hmax⟩
    | shiftRight => exact .inr ⟨_, shiftRight_eq hn hmax⟩
    | rotateLeft => exact .inr ⟨_, rotateLeft_eq hn⟩
    | rotateRight => exact .inr ⟨_, rotateRight_eq hn⟩
    | _ => cases hf
  · have hbad : f.IsFirstBadPosition [s, n] 2 n := (isFirstBadPosition_iff hf).mpr ⟨rfl, rfl, hn⟩
    exact .inl ⟨_, .position (arity_eq_two hf).symm hbad⟩

theorem fails_or_ok_substring (hs : s.length < Text.lengthBound) :
    (∃ failure, substring.Fails [s, n, m] failure) ∨
      ∃ result, substring.apply [s, n, m] = .ok result := by
  by_cases hn : Text.isNumeral n.toList
  · by_cases hm : Text.isNumeral m.toList
    · exact .inr ⟨_, substring_eq hn hm (Text.le_maxCount_of_lt_lengthBound hs)⟩
    · exact .inl ⟨_, .position rfl (isFirstBadPosition_substring_iff.mpr
        (.inr ⟨rfl, rfl, hn, hm⟩))⟩
  · exact .inl ⟨_, .position rfl (isFirstBadPosition_substring_iff.mpr (.inl ⟨rfl, rfl, hn⟩))⟩

theorem fails_or_ok (hargs : ∀ arg ∈ args, arg.length < Text.lengthBound) :
    (∃ failure, f.Fails args failure) ∨ ∃ result, f.apply args = .ok result := by
  by_cases harity : args.length = f.arity
  · cases f with
    | uppercase | lowercase | reverse | length =>
        obtain ⟨s, rfl⟩ := List.length_eq_one_iff.mp harity
        exact .inr ⟨_, rfl⟩
    | concat | split =>
        obtain ⟨s, t, rfl⟩ := List.length_eq_two.mp harity
        exact .inr ⟨_, rfl⟩
    | replace =>
        obtain ⟨s, old, new, rfl⟩ := List.length_eq_three.mp harity
        exact .inr ⟨_, rfl⟩
    | «match» =>
        obtain ⟨s, pattern, rfl⟩ := List.length_eq_two.mp harity
        cases hcompile : Pattern.compile pattern with
        | error error => exact .inl ⟨_, .pattern rfl rfl hcompile⟩
        | ok machine =>
            refine .inr ⟨((machine.find s.toList).map String.ofList).getD "", ?_⟩
            rw [apply, Pattern.find, hcompile]
            rfl
    | substring =>
        obtain ⟨s, n, m, rfl⟩ := List.length_eq_three.mp harity
        exact fails_or_ok_substring (hargs s List.mem_cons_self)
    | get | shiftLeft | shiftRight | rotateLeft | rotateRight =>
        obtain ⟨s, n, rfl⟩ := List.length_eq_two.mp harity
        exact fails_or_ok_of_position rfl (hargs s List.mem_cons_self)
  · exact .inl ⟨_, .arity harity⟩

/-! ### Every step is in range -/

theorem checked?_of_position (hf : f.positions = [2]) (hs : s.length < Text.lengthBound)
    (hn : Text.isNumeral n.toList) : f.checked? [s, n] = some (f.apply [s, n]) := by
  have hbound : s.length < Text.countBound := Nat.lt_trans hs (by decide)
  cases f with
  | get => exact checked?_get hn
  | shiftLeft => exact checked?_shiftLeft hn
  | shiftRight => exact checked?_shiftRight hn
  | rotateLeft => exact checked?_rotateLeft hbound hn
  | rotateRight => exact checked?_rotateRight hbound hn
  | _ => cases hf

theorem call?_of_position (hf : f.positions = [2]) (hs : s.length < Text.lengthBound) :
    f.call? [s, n] = some (f.apply [s, n]) := by
  have hopened : f.call? [s, n] = match f.digits 2 n with
      | .error failure => some (.error failure)
      | .ok _ => f.checked? [s, n] := by
    cases f with
    | get | shiftLeft | shiftRight | rotateLeft | rotateRight => rfl
    | _ => cases hf
  rw [hopened]
  by_cases hn : Text.isNumeral n.toList
  · rw [digits_of_isNumeral hn]
    exact checked?_of_position hf hs hn
  · rw [digits_of_not_isNumeral hn, apply_of_bad_position hf hn]

theorem call?_substring : substring.call? [s, n, m] = some (substring.apply [s, n, m]) := by
  have hopened : substring.call? [s, n, m] = match digits substring 2 n, digits substring 3 m with
      | .error failure, _ | .ok _, .error failure => some (.error failure)
      | .ok _, .ok _ => substring.checked? [s, n, m] := rfl
  rw [hopened]
  by_cases hn : Text.isNumeral n.toList
  · rw [digits_of_isNumeral hn]
    by_cases hm : Text.isNumeral m.toList
    · rw [digits_of_isNumeral hm]
      exact checked?_substring hn hm
    · rw [digits_of_not_isNumeral hm, apply, count_of_isNumeral hn, count_of_not_isNumeral hm]
      rfl
  · rw [digits_of_not_isNumeral hn, apply, count_of_not_isNumeral hn]
    rfl

theorem call?_eq (hargs : ∀ arg ∈ args, arg.length < Text.lengthBound) :
    f.call? args = some (f.apply args) := by
  by_cases harity : args.length = f.arity
  · cases f with
    | uppercase | lowercase | reverse | length =>
        obtain ⟨s, rfl⟩ := List.length_eq_one_iff.mp harity
        rfl
    | concat | «match» | split =>
        obtain ⟨s, t, rfl⟩ := List.length_eq_two.mp harity
        rfl
    | replace =>
        obtain ⟨s, old, new, rfl⟩ := List.length_eq_three.mp harity
        rfl
    | substring =>
        obtain ⟨s, n, m, rfl⟩ := List.length_eq_three.mp harity
        exact call?_substring
    | get | shiftLeft | shiftRight | rotateLeft | rotateRight =>
        obtain ⟨s, n, rfl⟩ := List.length_eq_two.mp harity
        exact call?_of_position rfl (hargs s List.mem_cons_self)
  · rw [call?.eq_def, if_pos harity, apply_of_length_ne harity]

end StringScript.Builtin
