import Mathlib.Data.List.TakeWhile
import WorkloadAuth.Text.Blank

/-!
# Texts cut at marks and blanks

* `takeWhile_append_cons`, `dropWhile_append_cons`: a text is cut at its first mark, whatever
  follows.
* `trim_of_blanks`: blanks at the ends of a text are trimmed, and no more.
* `words_eq_iff`: the words of a text are those that it spaces out.
-/

namespace WorkloadAuth.Text

/-! ## Lists in front of a mark -/

section Lists

variable {α : Type} {p : α → Bool} {c : α}

theorem takeWhile_append_cons (h : p c = false) (xs ys : List α) :
    (xs ++ c :: ys).takeWhile p = xs.takeWhile p := by
  induction xs with
  | nil => simp [h]
  | cons x xs ih => cases hx : p x <;> simp [hx, ih]

theorem dropWhile_append_cons (h : p c = false) (xs ys : List α) :
    (xs ++ c :: ys).dropWhile p = xs.dropWhile p ++ c :: ys := by
  induction xs with
  | nil => simp [h]
  | cons x xs ih => cases hx : p x <;> simp [hx, ih]

end Lists

/-! ## Blanks at the ends -/

/-- No character of a text is blank. -/
def Unblank (cs : List Char) : Prop := ∀ c ∈ cs, isBlank c = false

theorem dropWhile_blanks {before : List Char} (h : before.all isBlank = true) (cs : List Char) :
    (before ++ cs).dropWhile isBlank = cs.dropWhile isBlank :=
  List.dropWhile_append_of_pos (List.all_eq_true.1 h)

theorem dropWhile_unblank {cs : List Char} (h : Unblank cs) (hne : cs ≠ []) (rest : List Char) :
    (cs ++ rest).dropWhile isBlank = cs ++ rest := by
  obtain ⟨c, cs, rfl⟩ := List.exists_cons_of_ne_nil hne
  rw [List.cons_append, List.dropWhile_cons_of_neg]
  simp [h c List.mem_cons_self]

/-- The blanks at the two ends of a text are trimmed, and no more. -/
theorem trim_of_blanks {before cs after : List Char} (hbefore : before.all isBlank = true)
    (hafter : after.all isBlank = true) (hcs : Unblank cs) (hne : cs ≠ []) :
    trim (before ++ cs ++ after) = cs := by
  have hreverse : Unblank cs.reverse := fun c hc => hcs c (List.mem_reverse.1 hc)
  have hend : after.reverse.all isBlank = true := by rwa [List.all_reverse]
  have hdropped : (cs.reverse ++ []).dropWhile isBlank = cs.reverse ++ [] :=
    dropWhile_unblank hreverse (mt List.reverse_eq_nil_iff.1 hne) []
  rw [trim, trimStart, List.append_assoc, dropWhile_blanks hbefore, dropWhile_unblank hcs hne,
    trimEnd, List.reverse_append, dropWhile_blanks hend, ← List.append_nil cs.reverse, hdropped,
    List.append_nil, List.reverse_reverse]

/-! ## Blanks between words -/

/-- A text spaces out some words: blanks may stand in front of each word and behind the last one,
and between two words they have to. -/
inductive Spaced : List (List Char) → List Char → Prop where
  | nil : Spaced [] []
  | blank {ws : List (List Char)} {c : Char} {cs : List Char} (hc : isBlank c = true)
      (h : Spaced ws cs) : Spaced ws (c :: cs)
  | word {ws : List (List Char)} {w cs : List Char} (hne : w ≠ []) (hw : Unblank w)
      (hend : ∀ c ∈ cs.head?, isBlank c = true) (h : Spaced ws cs) : Spaced (w :: ws) (w ++ cs)

theorem words_nil : words [] = [] := by
  simp [words]

theorem words_cons_of_blank {c : Char} (hc : isBlank c = true) (cs : List Char) :
    words (c :: cs) = words cs := by
  rw [words, ← List.nil_append (c :: cs), List.splitOnP_append_cons _ _ hc]
  simp [words]

theorem words_append {w : List Char} (hne : w ≠ []) (hw : Unblank w) {cs : List Char}
    (hend : ∀ c ∈ cs.head?, isBlank c = true) : words (w ++ cs) = w :: words cs := by
  cases cs with
  | nil =>
    rw [List.append_nil, words, List.splitOnP_eq_singleton hw, words_nil]
    simp [hne]
  | cons c cs =>
    have hc : isBlank c = true := hend c rfl
    rw [words_cons_of_blank hc, words, List.splitOnP_append_cons_of_forall_mem hw c hc]
    simp [words, hne]

/-- A text spaces out its words. -/
theorem spaced_words (cs : List Char) : Spaced (words cs) cs := by
  -- On the length, since a word is taken off in one step.
  induction hlength : cs.length using Nat.strongRecOn generalizing cs with
  | ind n ih =>
    subst hlength
    cases cs with
    | nil => rw [words_nil]; exact .nil
    | cons c cs =>
      by_cases hc : isBlank c = true
      · rw [words_cons_of_blank hc]
        exact .blank hc (ih cs.length (by simp) cs rfl)
      · have hcut : c :: cs.takeWhile (!isBlank ·) ++ cs.dropWhile (!isBlank ·) = c :: cs := by
          rw [List.cons_append, List.takeWhile_append_dropWhile]
        have hw : Unblank (c :: cs.takeWhile (!isBlank ·)) := by
          intro d hd
          rcases List.mem_cons.1 hd with rfl | hd
          · simpa using hc
          · simpa using List.mem_takeWhile_imp hd
        have hend : ∀ d ∈ (cs.dropWhile (!isBlank ·)).head?, isBlank d = true := by
          intro d hd
          have := List.head?_dropWhile_not (!isBlank ·) cs
          rw [Option.mem_def.1 hd] at this
          simpa using this
        have hshorter : (cs.dropWhile (!isBlank ·)).length < (c :: cs).length :=
          Nat.lt_succ_of_le (List.dropWhile_suffix _).length_le
        rw [← hcut, words_append (List.cons_ne_nil _ _) hw hend]
        exact .word (List.cons_ne_nil _ _) hw hend (ih _ hshorter _ rfl)

/-- The words of a text are those that it spaces out. -/
theorem words_eq_iff {cs : List Char} {ws : List (List Char)} : words cs = ws ↔ Spaced ws cs := by
  constructor
  · rintro rfl
    exact spaced_words cs
  · intro h
    induction h with
    | nil => exact words_nil
    | blank hc _ ih => rw [words_cons_of_blank hc, ih]
    | word hne hw hend _ ih => rw [words_append hne hw hend, ih]

/-- Words with single blanks between them. -/
theorem spaced_intercalate {ws : List (List Char)} (h : ∀ w ∈ ws, w ≠ [] ∧ Unblank w) :
    Spaced ws (List.intercalate [' '] ws) := by
  induction ws with
  | nil => exact .nil
  | cons w ws ih =>
    obtain ⟨hne, hw⟩ := h w List.mem_cons_self
    have hspaced : Spaced ws (List.intercalate [' '] ws) := ih fun v hv => h v (.tail w hv)
    cases ws with
    | nil =>
      rw [List.intercalate_singleton]
      have hlast : Spaced [w] (w ++ []) := .word hne hw (by simp) .nil
      rwa [List.append_nil] at hlast
    | cons v ws =>
      rw [List.intercalate_cons_cons, List.append_assoc]
      exact .word hne hw (by simp [isBlank]) (.blank (by decide) hspaced)

end WorkloadAuth.Text
