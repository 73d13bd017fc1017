import Mathlib.Tactic.SplitIfs
import WorkloadAuth.Dictionary
import WorkloadAuth.Text.Utf8

/-!
# Keys of dictionaries

* `Text.Utf8.digits_lt`: numbers are in the order of their digits.
* `Text.Utf8.encode_lt_encode`: texts are in the order of their bytes.
* `Dictionary.mem_keys_iff`: the keys are those under which a value is found.
* `Dictionary.keys_ascend`: each key comes before the next one in the order of their bytes.
-/

namespace WorkloadAuth

/-! ## The order of bytes -/

namespace Text.Utf8

theorem encodeChar_ne_nil (c : Char) : encodeChar c ≠ [] := by
  unfold encodeChar
  simp only
  split_ifs
  all_goals exact List.cons_ne_nil _ _

/-- The smaller of two numbers has the smaller quotient, or the same one and the smaller
remainder. -/
theorem div_lt_or_mod_lt {m n : Nat} (h : m < n) (k : Nat) :
    m / k < n / k ∨ m / k = n / k ∧ m % k < n % k := by
  rcases Nat.lt_or_ge (m / k) (n / k) with hlt | hge
  · exact .inl hlt
  · have heq : m / k = n / k := Nat.le_antisymm (Nat.div_le_div_right (Nat.le_of_lt h)) hge
    have hm := Nat.div_add_mod m k
    have hn := Nat.div_add_mod n k
    rw [heq] at hm
    exact .inr ⟨heq, by omega⟩

/-- The digits of two numbers to the base 64 differ first where the smaller number has the smaller
digit. -/
theorem digits_lt {m n : Nat} (h : m < n) :
    m / 262144 < n / 262144 ∨ m / 262144 = n / 262144 ∧
      (m / 4096 % 64 < n / 4096 % 64 ∨ m / 4096 % 64 = n / 4096 % 64 ∧
        (m / 64 % 64 < n / 64 % 64 ∨ m / 64 % 64 = n / 64 % 64 ∧ m % 64 < n % 64)) := by
  have hdiv (k : Nat) : k / 4096 = k / 64 / 64 ∧ k / 262144 = k / 64 / 64 / 64 := by
    simp only [Nat.div_div_eq_div_mul, and_self]
  simp only [hdiv]
  rcases div_lt_or_mod_lt h 64 with h₁ | ⟨e₁, h₁⟩
  · rcases div_lt_or_mod_lt h₁ 64 with h₂ | ⟨e₂, h₂⟩
    · rcases div_lt_or_mod_lt h₂ 64 with h₃ | ⟨e₃, h₃⟩
      · exact .inl h₃
      · exact .inr ⟨e₃, .inl h₃⟩
    · rw [e₂]
      exact .inr ⟨rfl, .inr ⟨rfl, .inl h₂⟩⟩
  · rw [e₁]
    exact .inr ⟨rfl, .inr ⟨rfl, .inr ⟨rfl, h₁⟩⟩⟩

/-- The bytes of two characters differ before one of them ends, and the smaller character has the
smaller byte there. -/
theorem encodeChar_append_lt {c d : Char} (h : c < d) (xs ys : List UInt8) :
    encodeChar c ++ xs < encodeChar d ++ ys := by
  have hlt : c.toNat < d.toNat := h
  have hmax : d.toNat < 0x110000 := by
    have hvalid : d.toNat.isValidChar := d.valid
    unfold Nat.isValidChar at hvalid
    omega
  unfold encodeChar
  generalize c.toNat = m at hlt
  generalize d.toNat = n at hlt hmax
  simp only [Nat.shiftRight_eq_div_pow]
  by_cases hlong : 0x10000 ≤ m
  · -- Both encodings have all of their digits.
    have hdigits := digits_lt hlt
    rw [if_neg (by omega), if_neg (by omega), if_neg (by omega), if_neg (by omega),
      if_neg (by omega), if_neg (by omega)]
    simp only [List.cons_append, List.nil_append, List.cons_lt_cons_iff, UInt8.lt_iff_toNat_lt,
      ← UInt8.toNat_inj, UInt8.toNat_ofNat', Nat.pow_zero, Nat.div_one]
    simp (disch := omega) only [Nat.mod_eq_of_lt]
    rcases hdigits with h₁ | ⟨h₁, h₂ | ⟨h₂, h₃ | ⟨h₃, h₄⟩⟩⟩
    · exact .inl (Nat.add_lt_add_left h₁ _)
    · exact .inr ⟨congrArg _ h₁, .inl (Nat.add_lt_add_left h₂ _)⟩
    · exact .inr ⟨congrArg _ h₁, .inr ⟨congrArg _ h₂, .inl (Nat.add_lt_add_left h₃ _)⟩⟩
    · exact .inr ⟨congrArg _ h₁, .inr ⟨congrArg _ h₂, .inr ⟨congrArg _ h₃,
        .inl (Nat.add_lt_add_left h₄ _)⟩⟩⟩
  · -- Of two encodings of the same length the digits are compared, else the first bytes decide.
    split_ifs
    all_goals
      simp only [List.cons_append, List.nil_append, List.cons_lt_cons_iff, UInt8.lt_iff_toNat_lt,
        ← UInt8.toNat_inj, UInt8.toNat_ofNat']
      simp (disch := omega) only [Nat.mod_eq_of_lt]
      omega

/-- Texts are in the order of their bytes. -/
theorem encode_lt_encode {cs ds : List Char} (h : cs < ds) : encode cs < encode ds := by
  induction cs generalizing ds with
  | nil =>
    cases ds with
    | nil => exact absurd h (List.not_lt_nil _)
    | cons d ds =>
      have hne : encode (d :: ds) ≠ [] := fun hnil =>
        encodeChar_ne_nil d (List.append_eq_nil_iff.1 hnil).1
      obtain ⟨b, rest, hcons⟩ := List.exists_cons_of_ne_nil hne
      rw [hcons]
      exact List.nil_lt_cons b rest
  | cons c cs ih =>
    cases ds with
    | nil => exact absurd h (List.not_lt_nil _)
    | cons d ds =>
      obtain hlt | ⟨rfl, hlt⟩ := List.cons_lt_cons_iff.1 h
      · exact encodeChar_append_lt hlt _ _
      · exact List.append_left_lt (ih hlt)

end Text.Utf8

/-! ## Keys -/

namespace Dictionary

universe u

variable {α : Type u}

theorem lookup_eq_some_iff {entries : List (String × α)} (h : Ascending entries) {key : String}
    {value : α} : lookup key entries = some value ↔ (key, value) ∈ entries := by
  induction entries with
  | nil => simp [lookup]
  | cons e rest ih =>
    obtain ⟨k, v⟩ := e
    obtain ⟨hk, hrest⟩ := List.pairwise_cons.1 h
    by_cases heq : k = key
    · subst heq
      have hnew : (k, value) ∉ rest := fun hmem => String.lt_irrefl k (hk _ hmem)
      simp [lookup, hnew, eq_comm]
    · simp [lookup, heq, ih hrest, Ne.symm heq]

/-- A key is listed if and only if it has a value. -/
theorem mem_keys_iff {d : Dictionary α} {key : String} :
    key ∈ d.keys ↔ ∃ value, d.get? key = some value := by
  simp only [keys, get?, lookup_eq_some_iff d.ascending, List.mem_map, Prod.exists,
    exists_and_right, exists_eq_right]

/-- Keys are listed in the order of their bytes, each of them once. -/
theorem keys_ascend (d : Dictionary α) :
    d.keys.Pairwise fun a b => Text.Utf8.encode a.toList < Text.Utf8.encode b.toList := by
  refine List.pairwise_map.2 (d.ascending.imp ?_)
  intro e e' hlt
  exact Text.Utf8.encode_lt_encode (String.lt_iff.1 hlt)

end Dictionary

end WorkloadAuth
