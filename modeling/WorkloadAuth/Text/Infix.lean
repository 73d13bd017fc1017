/-!
# Texts inside of texts

* `occursIn`: whether a text occurs in another one.
-/

namespace WorkloadAuth.Text

/-- Whether the first text occurs in the second one, without gaps. -/
def occursIn (part : List Char) : List Char → Bool
  | [] => part.isEmpty
  | c :: rest => part.isPrefixOf (c :: rest) || occursIn part rest

theorem occursIn_iff {part whole : List Char} :
    occursIn part whole = true ↔ part <:+: whole := by
  induction whole with
  | nil => simp [occursIn, List.infix_nil]
  | cons c rest ih =>
    rw [occursIn, Bool.or_eq_true, List.isPrefixOf_iff_prefix, ih, List.infix_cons_iff]

end WorkloadAuth.Text
