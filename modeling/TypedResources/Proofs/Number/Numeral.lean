import Mathlib.Data.List.Basic
import Mathlib.Data.List.TakeWhile
import TypedResources.Number.Numeral

-- A natural number that is written in decimal digits is read back as it was, unless it has more
-- digits than are read (`readInteger_toDigits`).

namespace TypedResources.Numeral

variable {c : Char} {n : Nat} {digits : List Char}

theorem toNat_of_isDigit (h : c.isDigit) : 48 ≤ c.toNat ∧ c.toNat ≤ 57 := by
  simpa [Char.isDigit, UInt32.le_iff_toNat_le] using h

theorem digitValue?_of_isDigit (h : c.isDigit) : digitValue? c = some (c.toNat - 48) := by
  have ⟨h₁, h₂⟩ := toNat_of_isDigit h
  have hl : ¬ 'a' ≤ c := fun hc => absurd (show 97 ≤ c.toNat from hc) (by omega)
  have hu : ¬ 'A' ≤ c := fun hc => absurd (show 65 ≤ c.toNat from hc) (by omega)
  have hf : Text.decimalRanges.find? (fun r => r.1 ≤ c.toNat && c.toNat ≤ r.2) = some (0x30, 0x39) :=
    List.find?_cons_of_pos (by simpa using ⟨h₁, h₂⟩)
  rw [digitValue?, if_neg (by simp [hl]), if_neg (by simp [hu]), Text.decimalValue?, hf]
  exact congrArg some (Nat.mod_eq_of_lt (by omega))

theorem isDigitOf_of_isDigit (h : c.isDigit) : isDigitOf 10 c := by
  have ⟨h₁, h₂⟩ := toNat_of_isDigit h
  rw [isDigitOf, digitValue?_of_isDigit h]
  exact decide_eq_true (by omega)

theorem isBlank_of_isDigit (h : c.isDigit) : Text.isBlank c = false := by
  have ⟨h₁, h₂⟩ := toNat_of_isDigit h
  simp only [Text.isBlank, Text.blankRanges, Text.Ranges.has]
  grind

theorem valueOf_eq_ofDigitChars (h : ∀ c ∈ digits, c.isDigit) :
    valueOf 10 digits = Nat.ofDigitChars 10 digits 0 := by
  rw [Nat.ofDigitChars_eq_foldl]
  refine List.foldl_ext _ _ _ fun n c hc => ?_
  rw [digitValue?_of_isDigit (h c hc), Nat.mul_comm]
  rfl

theorem isDigit_of_mem_decimal (h : c ∈ Nat.toDigits 10 n) : c.isDigit :=
  Nat.isDigit_of_mem_toDigits (by decide) (by decide) h

-- Zero alone is written with a leading zero.
theorem head?_toDigits (h : n ≠ 0) : (Nat.toDigits 10 n).head? ≠ some '0' := by
  induction n using Nat.base_induction 10 (by decide)
  case single m hm =>
    rw [Nat.toDigits_of_lt_base hm]
    have : m.digitChar ≠ '0' := by
      have : ∀ m < 10, m ≠ 0 → m.digitChar ≠ '0' := by decide
      exact this m hm h
    simpa using this
  case digit m k hk hm ih =>
    rw [← Nat.toDigits_append_toDigits (by decide) hm hk, List.head?_append_of_ne_nil _ Nat.toDigits_ne_nil]
    exact ih (by omega)

theorem trim_of_no_blank {s : List Char} (h : ∀ c ∈ s, Text.isBlank c = false) : Text.trim s = s := by
  have hs : s.dropWhile Text.isBlank = s := List.dropWhile_eq_self_iff.mpr fun hl => by simp [h]
  have hr : s.reverse.dropWhile Text.isBlank = s.reverse :=
    List.dropWhile_eq_self_iff.mpr fun hl => by simp [h]
  rw [Text.trim, Text.trimEnd, Text.trimStart, hs, hr, List.reverse_reverse]

theorem sign_of_isDigit (h : ∀ c ∈ digits, c.isDigit) : sign digits = (false, digits) := by
  unfold sign
  split
  case h_1 => exact absurd (h '-' List.mem_cons_self) (by decide)
  case h_2 => exact absurd (h '+' List.mem_cons_self) (by decide)
  case h_3 => rfl

theorem dropBaseMark_ten : dropBaseMark 10 digits = digits := by
  unfold dropBaseMark
  split <;> simp [baseMark?]

theorem length_toDigits_le_iff : (Nat.toDigits 10 n).length ≤ digitLimit ↔ n < integerLimit := by
  have h {k : Nat} (hk : 0 < k) : (Nat.toDigits 10 n).length ≤ k ↔ n < Nat.pow 10 k :=
    Nat.length_toDigits_le_iff (by decide) hk
  unfold integerLimit
  exact h (by decide)

theorem integerLimit_pos : 0 < integerLimit :=
  length_toDigits_le_iff.mp (by decide)

theorem readInteger_of_isDigit (h : ∀ c ∈ digits, c.isDigit) (hn : digits ≠ []) : readInteger 10 digits =
    if digitLimit < digits.length then .error (.tooLong digits.length) else .ok (valueOf 10 digits) := by
  have ht : Text.trim digits = digits := trim_of_no_blank fun c hc => isBlank_of_isDigit (h c hc)
  have hw : digits.takeWhile (isDigitOf 10) = digits :=
    List.takeWhile_eq_self_iff.mpr fun c hc => isDigitOf_of_isDigit (h c hc)
  simp only [readInteger, ht, sign_of_isDigit h, dropBaseMark_ten, hw]
  by_cases hl : digitLimit < digits.length
  case pos => simp [hl, baseMark?]
  case neg => simp [hl, hn, signed]

theorem readInteger_toDigits (h : n < integerLimit) : readInteger 10 (Nat.toDigits 10 n) = .ok n := by
  have hd : ∀ c ∈ Nat.toDigits 10 n, c.isDigit := fun _ => isDigit_of_mem_decimal
  have hl : (Nat.toDigits 10 n).length ≤ digitLimit := length_toDigits_le_iff.mpr h
  rw [readInteger_of_isDigit hd Nat.toDigits_ne_nil, if_neg (by omega), valueOf_eq_ofDigitChars hd,
    Nat.ofDigitChars_ten_toDigits]

end TypedResources.Numeral
