import Mathlib.Data.List.Induction
import Mathlib.Tactic.IntervalCases
import Mathlib.Tactic.Ring
import WorkloadAuth.Text.Hex

/-!
# Digits

The digits of a number are read back as the number.

* `forall_isDigit`: what each of the ten digits has, every digit has.
* `decimalValue_decimal`: decimal digits; `head?_decimal_ne_zero`: they have no zero in front.
* `decimalValue_append`, `decimalValue_lt`: the value of a run of digits.
* `decimalValue_decimalPadded`: digits with zeros in front of them.
* `mapM_hexValue?_hexOfNat`: lower case hexadecimal digits.
-/

namespace WorkloadAuth.Text

/-! ## Decimal digits -/

/-- The ten digits. -/
def digits : List Char := ['0', '1', '2', '3', '4', '5', '6', '7', '8', '9']

theorem mem_digits {d : Char} (h : isDigit d = true) : d ∈ digits := by
  simp only [isDigit, Bool.and_eq_true, decide_eq_true_eq] at h
  obtain ⟨hlow, hhigh⟩ := h
  rw [← Char.ofNat_toNat d]
  interval_cases d.toNat <;> decide

theorem forall_isDigit {p : Char → Bool} (h : digits.all p = true) {d : Char}
    (hd : isDigit d = true) : p d = true := List.all_eq_true.1 h d (mem_digits hd)

theorem decimalValue_decimal (n : Nat) : decimalValue (decimal n) = n := by
  have hstep : (fun n (c : Char) => n * 10 + (c.toNat - 0x30)) =
      fun n c => 10 * n + (c.toNat - '0'.toNat) := by
    funext n c
    rw [Nat.mul_comm]
    rfl
  rw [decimalValue, hstep, ← Nat.ofDigitChars_eq_foldl]
  exact Nat.ofDigitChars_ten_toDigits

theorem isDigit_of_mem_decimal {n : Nat} {c : Char} (h : c ∈ decimal n) : isDigit c := by
  have hc := Nat.isDigit_of_mem_toDigits (by omega) (by omega) h
  simp only [Char.isDigit, Bool.and_eq_true, decide_eq_true_eq] at hc
  simp only [isDigit, Bool.and_eq_true, decide_eq_true_eq]
  exact hc

theorem length_decimal_pos (n : Nat) : 0 < (decimal n).length := Nat.length_toDigits_pos

theorem decimal_of_lt_ten {n : Nat} (h : n < 10) : decimal n = [n.digitChar] :=
  Nat.toDigits_of_lt_base h

theorem decimal_of_ten_le {n : Nat} (h : 10 ≤ n) :
    decimal n = decimal (n / 10) ++ [(n % 10).digitChar] :=
  Nat.toDigits_of_base_le (by omega) h

/-- The digits of a number have a zero in front only if it is zero. -/
theorem head?_decimal_ne_zero {n : Nat} (h : 0 < n) : (decimal n).head? ≠ some '0' := by
  induction n using Nat.strongRecOn with
  | ind n ih =>
    by_cases hn : n < 10
    · rw [decimal_of_lt_ten hn]
      simp
      omega
    · have hne : decimal (n / 10) ≠ [] := List.ne_nil_of_length_pos (length_decimal_pos _)
      rw [decimal_of_ten_le (by omega), List.head?_append, List.head?_eq_some_head hne,
        Option.some_or, ← List.head?_eq_some_head hne]
      exact ih (n / 10) (by omega) (by omega)

/-! ## Runs of digits -/

theorem decimalValue_concat (cs : List Char) (c : Char) :
    decimalValue (cs ++ [c]) = decimalValue cs * 10 + (c.toNat - 0x30) := by
  simp [decimalValue]

theorem decimalValue_append (xs ys : List Char) :
    decimalValue (xs ++ ys) = decimalValue xs * 10 ^ ys.length + decimalValue ys := by
  induction ys using List.reverseRecOn with
  | nil => simp [decimalValue]
  | append_singleton ys c ih =>
    rw [← List.append_assoc, decimalValue_concat, ih, decimalValue_concat, List.length_append,
      List.length_singleton, Nat.pow_succ]
    ring

theorem decimalValue_lt {cs : List Char} (h : ∀ c ∈ cs, isDigit c = true) :
    decimalValue cs < 10 ^ cs.length := by
  induction cs using List.reverseRecOn with
  | nil => simp [decimalValue]
  | append_singleton cs c ih =>
    have hcs : decimalValue cs < 10 ^ cs.length := ih fun d hd => h d (List.mem_append_left _ hd)
    have hc : isDigit c = true := h c (by simp)
    simp only [isDigit, Bool.and_eq_true, decide_eq_true_eq] at hc
    rw [decimalValue_concat, List.length_append, List.length_singleton, Nat.pow_succ]
    omega

theorem decimalValue_zeros (k : Nat) : decimalValue (List.replicate k '0') = 0 := by
  induction k with
  | zero => rfl
  | succ k ih => rw [List.replicate_succ', decimalValue_concat, ih]; rfl

theorem decimalValue_decimalPadded (width n : Nat) : decimalValue (decimalPadded width n) = n := by
  rw [decimalPadded, decimalValue_append, decimalValue_zeros, decimalValue_decimal, Nat.zero_mul,
    Nat.zero_add]

theorem isDigit_of_mem_decimalPadded {width n : Nat} {c : Char} (h : c ∈ decimalPadded width n) :
    isDigit c = true := by
  rcases List.mem_append.1 h with h | h
  · rw [List.eq_of_mem_replicate h]
    decide
  · exact isDigit_of_mem_decimal h

theorem length_decimalPadded {width n : Nat} (hwidth : 0 < width) (h : n < 10 ^ width) :
    (decimalPadded width n).length = width := by
  have hle : (decimal n).length ≤ width := (Nat.length_toDigits_le_iff (by decide) hwidth).2 h
  rw [decimalPadded, List.length_append, List.length_replicate]
  omega

/-! ## Letters -/

/-- The ASCII letters by their numbers. -/
theorem isAlpha_iff {c : Char} :
    c.isAlpha = true ↔ 65 ≤ c.toNat ∧ c.toNat ≤ 90 ∨ 97 ≤ c.toNat ∧ c.toNat ≤ 122 := by
  have hupper : c.isUpper = true ↔ 65 ≤ c.toNat ∧ c.toNat ≤ 90 := decide_eq_true_iff
  have hlower : c.isLower = true ↔ 97 ≤ c.toNat ∧ c.toNat ≤ 122 :=
    Bool.and_eq_true_iff.trans (and_congr decide_eq_true_iff decide_eq_true_iff)
  exact Bool.or_eq_true_iff.trans (or_congr hupper hlower)

/-! ## Hexadecimal digits -/

theorem hexValue?_digitChar : ∀ n < 16, hexValue? n.digitChar = some n := by
  decide

theorem hexOfNat_of_lt {n : Nat} (h : n < 16) : hexOfNat n = [n.digitChar] :=
  Nat.toDigits_of_lt_base h

theorem hexOfNat_of_le {n : Nat} (h : 16 ≤ n) :
    hexOfNat n = hexOfNat (n / 16) ++ [(n % 16).digitChar] :=
  Nat.toDigits_of_base_le (by omega) h

theorem length_hexOfNat_pos (n : Nat) : 0 < (hexOfNat n).length := Nat.length_toDigits_pos

/-- Digits can be read only if each of them is one. -/
theorem hexValue?_ne_none_of_mem {cs : List Char} {digits : List Nat}
    (h : cs.mapM hexValue? = some digits) {c : Char} (hc : c ∈ cs) : hexValue? c ≠ none := by
  induction cs generalizing digits with
  | nil => exact absurd hc List.not_mem_nil
  | cons first rest ih =>
    simp only [List.mapM_cons, Option.bind_eq_bind, Option.bind_eq_some_iff] at h
    obtain ⟨d, hfirst, ds, hrest, -⟩ := h
    rcases List.mem_cons.1 hc with rfl | hc
    · simp [hfirst]
    · exact ih hrest hc

/-- The digits of a number are read back as its digits in base sixteen. -/
theorem mapM_hexValue?_hexOfNat (n : Nat) :
    ∃ digits, (hexOfNat n).mapM hexValue? = some digits ∧
      digits.foldl (fun n d => n * 16 + d) 0 = n := by
  induction n using Nat.strongRecOn with
  | ind n ih =>
    by_cases hn : n < 16
    · refine ⟨[n], ?_, by simp⟩
      rw [hexOfNat_of_lt hn]
      simp [hexValue?_digitChar n hn]
    · obtain ⟨digits, hread, hvalue⟩ := ih (n / 16) (by omega)
      refine ⟨digits ++ [n % 16], ?_, ?_⟩
      · rw [hexOfNat_of_le (by omega), List.mapM_append, hread]
        simp [hexValue?_digitChar (n % 16) (by omega)]
      · rw [List.foldl_append, hvalue]
        simp only [List.foldl_cons, List.foldl_nil]
        omega

end WorkloadAuth.Text
