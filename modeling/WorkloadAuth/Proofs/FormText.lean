import WorkloadAuth.Http.Form
import WorkloadAuth.Proofs.RecordAddress
import WorkloadAuth.Proofs.Utf8

/-!
# Texts of forms

The fields of a form are read back from its text. So the text that is posted for some fields tells
these, whatever characters they have, and nothing else.

* `Form.decode?`: the fields that the text of a form tells.
* `Form.unescape?_escape`: a name or a value is read back.
* `Form.decode?_encode`: the fields of a form are read back.
-/

namespace WorkloadAuth.Http.Form

open Text (Utf8.decode? Utf8.encode Utf8.encodeChar)

/-! ## Readers -/

/-- The character that one of a form stands for, where nothing is escaped. -/
def spaced (c : Char) : Char := if c = '+' then ' ' else c

/-- The name or the value that a piece of a form stands for, if it is text. -/
def unescape? (piece : List Char) : Option String :=
  (Utf8.decode? (Percent.decode (piece.map spaced))).map String.ofList

/-- The name and the value in a part of a form: what is in front of the first equals sign, and what
is behind it. -/
def field? (part : List Char) : Option (String × String) := do
  let name ← unescape? (part.takeWhile (· ≠ '='))
  let value ← unescape? ((part.dropWhile (· ≠ '=')).drop 1)
  some (name, value)

/-- The fields that the text of a form tells. -/
def decode? (text : String) : Option (List (String × String)) :=
  (text.toList.splitOn '&').mapM field?

/-! ## Names and values -/

/-- One character of a name or a value. -/
def escapeChar (c : Char) : List Char :=
  if c = ' ' then ['+'] else Percent.escape (fun c => !isPlain c) [c]

theorem escape_eq (s : String) : escape s = s.toList.flatMap escapeChar := rfl

theorem not_isPlain_of_mem {c : Char} (h : c ∈ ['+', '%', '&', '=']) : isPlain c = false := by
  have hall : ['+', '%', '&', '='].all (fun c => !isPlain c) = true := by decide
  simpa using List.all_eq_true.1 hall c h

theorem hexDigitUpper_not_mem : ∀ n < 16, Text.hexDigitUpper n ∉ ['+', '&', '='] := by
  decide

theorem not_mem_escapeByte (b : UInt8) {c : Char} (h : c ∈ ['+', '&', '=']) :
    c ∉ Percent.escapeByte b := by
  have hlt := b.toNat_lt
  simp only [Percent.escapeByte, List.mem_cons, List.not_mem_nil, or_false]
  rintro (rfl | rfl | rfl)
  · revert h
    decide
  · exact hexDigitUpper_not_mem _ (by omega) h
  · exact hexDigitUpper_not_mem _ (by omega) h

/-- A character of a name or a value is a space, is plain, or is written byte by byte. -/
theorem escapeChar_cases (c : Char) :
    c = ' ' ∧ escapeChar c = ['+'] ∨ isPlain c = true ∧ escapeChar c = [c] ∨
      escapeChar c = (Utf8.encodeChar c).flatMap Percent.escapeByte := by
  unfold escapeChar
  by_cases hspace : c = ' '
  · exact .inl ⟨hspace, if_pos hspace⟩
  · rw [if_neg hspace]
    cases hplain : isPlain c <;> simp [Percent.escape, hplain]

/-- What divides a form is in no name or value. -/
theorem not_mem_escape (s : String) {c : Char} (h : c ∈ ['&', '=']) : c ∉ escape s := by
  rw [escape_eq, List.mem_flatMap]
  rintro ⟨d, -, hc⟩
  rcases escapeChar_cases d with ⟨-, heq⟩ | ⟨hplain, heq⟩ | heq <;> rw [heq] at hc
  · rw [List.mem_singleton.1 hc] at h
    revert h
    decide
  · rw [← List.mem_singleton.1 hc, not_isPlain_of_mem (by simp_all)] at hplain
    cases hplain
  · obtain ⟨b, -, hb⟩ := List.mem_flatMap.1 hc
    exact not_mem_escapeByte b (List.mem_cons_of_mem _ h) hb

/-- A plus sign that is written byte by byte is no space. -/
theorem map_spaced_escapeBytes (bytes : List UInt8) :
    (bytes.flatMap Percent.escapeByte).map spaced = bytes.flatMap Percent.escapeByte := by
  refine (List.map_congr_left fun c hc => ?_).trans (List.map_id _)
  obtain ⟨b, -, hb⟩ := List.mem_flatMap.1 hc
  refine if_neg fun hplus => not_mem_escapeByte b ?_ hb
  rw [hplus]
  decide

theorem decode_escapeChar (c : Char) (rest : List Char) :
    Percent.decode ((escapeChar c).map spaced ++ rest) =
      Utf8.encodeChar c ++ Percent.decode rest := by
  rcases escapeChar_cases c with ⟨rfl, heq⟩ | ⟨hplain, heq⟩ | heq <;> rw [heq]
  · exact Percent.decode_cons (by decide) rest
  · have hne {d : Char} (hd : d ∈ ['+', '%', '&', '=']) : c ≠ d := by
      rintro rfl
      rw [not_isPlain_of_mem hd] at hplain
      cases hplain
    have hspaced : spaced c = c := if_neg (hne (by decide))
    rw [List.map_singleton, hspaced]
    exact Percent.decode_cons (hne (by decide)) rest
  · rw [map_spaced_escapeBytes, Percent.decode_escapeBytes]

/-- A name or a value is read back. -/
theorem unescape?_escape (s : String) : unescape? (escape s) = some s := by
  have hdecode (cs : List Char) :
      Percent.decode ((cs.flatMap escapeChar).map spaced) = Utf8.encode cs := by
    induction cs with
    | nil => rfl
    | cons c cs ih =>
      rw [List.flatMap_cons, List.map_append, decode_escapeChar, ih]
      rfl
  rw [unescape?, escape_eq, hdecode, Text.Utf8.decode?_encode, Option.map_some,
    String.ofList_toList]

/-! ## Forms -/

/-- The part of a form that tells a field. -/
def part (field : String × String) : List Char := escape field.1 ++ '=' :: escape field.2

theorem ampersand_not_mem_part (field : String × String) : '&' ∉ part field := by
  have hname := not_mem_escape field.1 (c := '&') (by decide)
  have hvalue := not_mem_escape field.2 (c := '&') (by decide)
  simp [part, hname, hvalue]

theorem field?_part (field : String × String) : field? (part field) = some field := by
  have hname : ∀ c ∈ escape field.1, (decide (c ≠ '=')) = true := by
    intro c hc
    refine decide_eq_true fun heq => not_mem_escape field.1 (c := '=') (by decide) (heq ▸ hc)
  have hbefore : (part field).takeWhile (· ≠ '=') = escape field.1 := by
    rw [part, List.takeWhile_append_of_pos hname, List.takeWhile_cons_of_neg (by decide),
      List.append_nil]
  have hbehind : ((part field).dropWhile (· ≠ '=')).drop 1 = escape field.2 := by
    rw [part, List.dropWhile_append_of_pos hname, List.dropWhile_cons_of_neg (by decide)]
    rfl
  rw [field?, hbefore, hbehind, unescape?_escape, unescape?_escape]
  rfl

/-- The fields of a form are read back from its text. -/
theorem decode?_encode {fields : List (String × String)} (h : fields ≠ []) :
    decode? (encode fields) = some fields := by
  have hparts : (encode fields).toList = ['&'].intercalate (fields.map part) :=
    String.toList_ofList
  have hsplit : (encode fields).toList.splitOn '&' = fields.map part := by
    rw [hparts]
    refine List.splitOn_intercalate '&' (fun p hp => ?_) (by simpa using h)
    obtain ⟨field, -, rfl⟩ := List.mem_map.1 hp
    exact ampersand_not_mem_part field
  rw [decode?, hsplit]
  clear h hparts hsplit
  induction fields with
  | nil => rfl
  | cons field fields ih =>
    rw [List.map_cons, List.mapM_cons, field?_part, ih]
    rfl

end WorkloadAuth.Http.Form
