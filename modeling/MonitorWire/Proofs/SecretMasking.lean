import Mathlib
import MonitorWire.Redact.Mask

namespace MonitorWire

/-- For widths whose double does not wrap, the mask hides all of a secret of at most twice the
width, and otherwise keeps its first and last `v` characters around the mark. -/
theorem maskSecret_of_double_lt (s : String) (v : Nat) (hv : 2 * v < wordModulus) :
    maskSecret s v =
      if v = 0 ∨ s.length ≤ 2 * v then hidingMask
      else String.ofList (s.toList.take v) ++ hidingMask ++ String.ofList (s.toList.rtake v) := by
  simp only [maskSecret, Nat.mod_eq_of_lt hv, String.length_toList]
  by_cases hshort : v = 0 ∨ s.length ≤ 2 * v
  · have hcond : (v == 0 || s.length ≤ 2 * v) = true := by simpa using hshort
    rw [if_pos hcond, if_pos hshort]
  · have hcond : (v == 0 || s.length ≤ 2 * v) = false := by simpa using hshort
    -- a secret longer than twice the width has a whole suffix of `v` characters
    have hle : v ≤ s.length := by omega
    rw [if_neg (by simp [hcond]), if_neg hshort, if_pos hle, List.rtake, String.length_toList]

theorem maskSecret_nine_characters :
    2 * 4 < wordModulus ∧ maskSecret "abcdefghi" 4 = "abcd********fghi" := by
  have hv : 2 * 4 < wordModulus := by decide
  refine ⟨hv, ?_⟩
  rw [maskSecret_of_double_lt "abcdefghi" 4 hv]
  decide

theorem maskSecret_of_wrapped {s : String} {v : Nat} (hlong : 2 * v % wordModulus < s.length)
    (hshort : s.length < v) : maskSecret s v = s ++ hidingMask := by
  simp only [maskSecret, String.length_toList]
  have hcond : (v == 0 || s.length ≤ 2 * v % wordModulus) = false := by
    simp only [Bool.or_eq_false_iff, beq_eq_false_iff_ne, decide_eq_false_iff_not, not_le]
    omega
  have hpast : ¬v ≤ s.length := by omega
  rw [if_neg (by simp [hcond]), if_neg hpast,
    List.take_of_length_le (by simp only [String.length_toList]; omega)]
  simp

/-- A width of 2^63 doubles to zero in a machine word: the three-character secret, which the
law hides entirely, is shown whole. -/
theorem maskSecret_shows_secret_at_wrapped_width :
    "abc".length ≤ 2 * 9223372036854775808 ∧
      maskSecret "abc" 9223372036854775808 = "abc" ++ hidingMask :=
  ⟨by decide, maskSecret_of_wrapped (by decide) (by decide)⟩

end MonitorWire
