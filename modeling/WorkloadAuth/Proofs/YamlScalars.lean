import WorkloadAuth.Proofs.JsonText
import WorkloadAuth.Yaml.Scalar

/-!
# JSON strings and numbers as YAML scalars

JSON writes most characters of a string as they are. Between the quotes YAML takes some of these for
line breaks, folds them, and drops the blanks around them.

* `Yaml.reread?`: the text that YAML takes from the characters of a JSON string.
* `Yaml.doubleQuoted_flatMap`: it is what is found between the quotes.
* `Yaml.Stays`: a character is taken as it is, by what follows it.
* `Yaml.reread?_eq_some_iff`: a string stays as it is exactly if each of its characters does.
* `Yaml.plain_digits`: the digits of a number are a plain scalar.
-/

namespace WorkloadAuth.Yaml

open Json (writeChar)

/-! ## What is taken from a string -/

/-- Whether a character keeps its line break inside of a scalar. -/
def isSeparator (c : Char) : Bool := c == lineSeparator || c == paragraphSeparator

/-- Whether a character is a blank or a break that JSON writes as it is. -/
def isLoose (c : Char) : Bool := c == ' ' || c == nextLine || isSeparator c

/-- A string goes on with three hyphens or three points that look as if they were on their own. -/
def startsLoneMarker : List Char → Bool
  | '-' :: '-' :: '-' :: c :: _ => isLoose c
  | '.' :: '.' :: '.' :: c :: _ => isLoose c
  | _ => false

/-- The text that is taken from the characters of a string, behind a gap. `fresh` tells whether a
line starts, as some character broke the last one. -/
def reread? : (fresh : Bool) → Gap → List Char → Option (List Char)
  | _, gap, [] => some gap.text
  | fresh, gap, c :: cs =>
    if fresh && startsLoneMarker (c :: cs) then none
    else if c = ' ' then reread? false (gap.addBlank c) cs
    else if c == nextLine || isSeparator c then reread? true (gap.addBreak c) cs
    else (reread? false .none cs).map (gap.text ++ c :: ·)

/-! ## Characters as they are written -/

/-- The characters that are written as they are. -/
theorem writeChar_of_plain {c : Char} (hquote : c ≠ '"') (hbackslash : c ≠ '\\')
    (hcontrol : 0x20 ≤ c.toNat) : writeChar c = [c] := by
  have hne {d : Char} (hd : d.toNat < 0x20) : c ≠ d := by
    rintro rfl
    omega
  simp only [writeChar, if_neg hquote, if_neg hbackslash, if_neg (hne (d := '\x08') (by decide)),
    if_neg (hne (d := '\x0c') (by decide)), if_neg (hne (d := '\n') (by decide)),
    if_neg (hne (d := '\r') (by decide)), if_neg (hne (d := '\t') (by decide)),
    if_neg (Nat.not_lt.2 hcontrol)]

variable {c : Char} {fresh : Bool} {gap : Gap} {rest : List Char}

/-- The characters with an escape of two characters, behind the second one of them. -/
def shortEscapes : List (Char × Char) :=
  [('"', '"'), ('\\', '\\'), ('b', '\x08'), ('f', '\x0c'), ('n', '\n'), ('r', '\r'), ('t', '\t')]

theorem writeChar_of_short {e : Char} (h : (e, c) ∈ shortEscapes) : writeChar c = ['\\', e] := by
  simp only [shortEscapes, List.mem_cons, Prod.mk.injEq, List.not_mem_nil, or_false] at h
  rcases h with ⟨rfl, rfl⟩ | ⟨rfl, rfl⟩ | ⟨rfl, rfl⟩ | ⟨rfl, rfl⟩ | ⟨rfl, rfl⟩ | ⟨rfl, rfl⟩ |
    ⟨rfl, rfl⟩ <;> rfl

/-- The escapes: short ones, and the numbers of other control characters. -/
theorem writeChar_of_escaped (h : c = '"' ∨ c = '\\' ∨ c.toNat < 0x20) :
    (∃ e, (e, c) ∈ shortEscapes ∧ writeChar c = ['\\', e]) ∨
      (c.toNat < 0x20 ∧ writeChar c =
        ['\\', 'u', '0', '0', Text.hexDigit (c.toNat / 16), Text.hexDigit (c.toNat % 16)]) := by
  by_cases hshort : ∃ e, (e, c) ∈ shortEscapes
  · obtain ⟨e, he⟩ := hshort
    exact .inl ⟨e, he, writeChar_of_short he⟩
  · have hne {e d : Char} (hpair : (e, d) ∈ shortEscapes) : c ≠ d := by
      rintro rfl
      exact hshort ⟨e, hpair⟩
    have hquote : c ≠ '"' := hne (e := '"') (by decide)
    have hbackslash : c ≠ '\\' := hne (e := '\\') (by decide)
    have hcontrol : c.toNat < 0x20 := (h.resolve_left hquote).resolve_left hbackslash
    refine .inr ⟨hcontrol, ?_⟩
    rw [writeChar, if_neg hquote, if_neg hbackslash, if_neg (hne (e := 'b') (by decide)),
      if_neg (hne (e := 'f') (by decide)), if_neg (hne (e := 'n') (by decide)),
      if_neg (hne (e := 'r') (by decide)), if_neg (hne (e := 't') (by decide)), if_pos hcontrol]

/-- A character is escaped, or written as it is. -/
theorem writeChar_cases (c : Char) :
    ((c = '"' ∨ c = '\\' ∨ c.toNat < 0x20) ∧ ∃ more, writeChar c = '\\' :: more) ∨
      (c ≠ '"' ∧ c ≠ '\\' ∧ 0x20 ≤ c.toNat ∧ writeChar c = [c]) := by
  by_cases hescaped : c = '"' ∨ c = '\\' ∨ c.toNat < 0x20
  · refine .inl ⟨hescaped, ?_⟩
    rcases writeChar_of_escaped hescaped with ⟨_, -, hwrite⟩ | ⟨-, hwrite⟩
    · exact ⟨_, hwrite⟩
    · exact ⟨_, hwrite⟩
  · simp only [not_or, Nat.not_lt] at hescaped
    obtain ⟨hquote, hbackslash, hplain⟩ := hescaped
    exact .inr ⟨hquote, hbackslash, hplain, writeChar_of_plain hquote hbackslash hplain⟩

/-! ## Between the quotes -/

theorem prepend_prepend (text more : List Char) (result : Option (List Char × List Char)) :
    prepend text (prepend more result) = prepend (text ++ more) result := by
  cases result <;> simp [prepend]

theorem prepend_map (text : List Char) (result : Option (List Char)) :
    prepend text (result.map fun more => (more, rest)) =
      (result.map (text ++ ·)).map fun more => (more, rest) := by
  cases result <;> rfl

theorem doubleQuoted_backslash (cs : List Char) :
    doubleQuoted .text fresh gap ('\\' :: cs) =
      prepend gap.text (doubleQuoted .escape false .none cs) := by
  cases fresh <;> rfl

theorem doubleQuoted_escape_short {e : Char} (h : (e, c) ∈ shortEscapes) :
    doubleQuoted .escape false .none (e :: rest) =
      prepend [c] (doubleQuoted .text false .none rest) := by
  simp only [shortEscapes, List.mem_cons, Prod.mk.injEq, List.not_mem_nil, or_false] at h
  rcases h with ⟨rfl, rfl⟩ | ⟨rfl, rfl⟩ | ⟨rfl, rfl⟩ | ⟨rfl, rfl⟩ | ⟨rfl, rfl⟩ | ⟨rfl, rfl⟩ |
    ⟨rfl, rfl⟩ <;> rfl

/-- A digit of a code that is not its last one. -/
theorem doubleQuoted_code_next {digits value digit : Nat} {d : Char}
    (hdigit : Text.hexValue? d = some digit) (hmore : 1 < digits) (cs : List Char) :
    doubleQuoted (.code digits value) false .none (d :: cs) =
      doubleQuoted (.code (digits - 1) (value * 16 + digit)) false .none cs := by
  simp only [doubleQuoted, hdigit, if_pos hmore]

/-- The last digit of a code. -/
theorem doubleQuoted_code_last {value digit : Nat} {d : Char}
    (hdigit : Text.hexValue? d = some digit) (hcode : isCode (value * 16 + digit) = true)
    (cs : List Char) :
    doubleQuoted (.code 1 value) false .none (d :: cs) =
      prepend [Char.ofNat (value * 16 + digit)] (doubleQuoted .text false .none cs) := by
  simp only [doubleQuoted, hdigit, if_neg (Nat.lt_irrefl 1), if_pos hcode]

/-- A control character is written by its number. -/
theorem doubleQuoted_escape_control (h : c.toNat < 0x20) (rest : List Char) :
    doubleQuoted .escape false .none ('u' :: '0' :: '0' :: Text.hexDigit (c.toNat / 16) ::
        Text.hexDigit (c.toNat % 16) :: rest) =
      prepend [c] (doubleQuoted .text false .none rest) := by
  have hzero : Text.hexValue? '0' = some 0 := rfl
  have hhigh := Json.hexValue?_hexDigit (c.toNat / 16) (by omega)
  have hlow := Json.hexValue?_hexDigit (c.toNat % 16) (by omega)
  have hwhole : c.toNat / 16 * 16 + c.toNat % 16 = c.toNat := by omega
  have hcode : isCode c.toNat = true := by
    simp only [isCode, Bool.or_eq_true, decide_eq_true_eq]
    exact .inl (by omega)
  show doubleQuoted (.code 4 0) false .none _ = _
  rw [doubleQuoted_code_next hzero (by decide), doubleQuoted_code_next hzero (by decide),
    doubleQuoted_code_next hhigh (by decide)]
  simp only [Nat.zero_mul, Nat.zero_add]
  rw [doubleQuoted_code_last hlow (by rw [hwhole]; exact hcode), hwhole, Char.ofNat_toNat]

/-- An escaped character is taken as it is. -/
theorem doubleQuoted_writeChar_of_escaped (h : c = '"' ∨ c = '\\' ∨ c.toNat < 0x20) :
    doubleQuoted .text fresh gap (writeChar c ++ rest) =
      prepend (gap.text ++ [c]) (doubleQuoted .text false .none rest) := by
  rw [← prepend_prepend]
  rcases writeChar_of_escaped h with ⟨e, hpair, hwrite⟩ | ⟨hcontrol, hwrite⟩
  · rw [hwrite]
    exact (doubleQuoted_backslash _).trans (congrArg _ (doubleQuoted_escape_short hpair))
  · rw [hwrite]
    exact (doubleQuoted_backslash _).trans (congrArg _ (doubleQuoted_escape_control hcontrol rest))

/-! ## Document markers -/

/-- A character of a string that is written as it is is a blank if it is a space. -/
theorem isBlank_of_plain (h : 0x20 ≤ c.toNat) : isBlank c = (c == ' ') := by
  have htab : c ≠ '\t' := by
    rintro rfl
    exact absurd h (by decide)
  simp [isBlank, htab]

theorem isBreak_of_plain (h : 0x20 ≤ c.toNat) : isBreak c = (c == nextLine || isSeparator c) := by
  have hne {d : Char} (hd : d.toNat < 0x20) : (c == d) = false := by
    rw [beq_eq_false_iff_ne]
    rintro rfl
    omega
  simp [isBreak, isSeparator, hne (d := '\n') (by decide), hne (d := '\r') (by decide),
    Bool.or_assoc]

theorem isLoose_of_escaped (h : c = '"' ∨ c = '\\' ∨ c.toNat < 0x20) : isLoose c = false := by
  rcases h with rfl | rfl | h
  · decide
  · decide
  · have hne {d : Char} (hd : 0x20 ≤ d.toNat) : (c == d) = false := by
      rw [beq_eq_false_iff_ne]
      rintro rfl
      omega
    simp [isLoose, isSeparator, hne (d := ' ') (by decide), hne (d := nextLine) (by decide),
      hne (d := lineSeparator) (by decide), hne (d := paragraphSeparator) (by decide)]

/-- A word ends in a written string where the string has a blank or a break that is written as it
is. -/
theorem endsWord_flatMap (cs rest : List Char) :
    endsWord (cs.flatMap writeChar ++ '"' :: rest) = cs.head?.any isLoose := by
  cases cs with
  | nil => rfl
  | cons c cs =>
    rw [List.flatMap_cons, List.append_assoc]
    rcases writeChar_cases c with ⟨hescaped, more, hmore⟩ | ⟨-, -, hplain, hwritten⟩
    · rw [hmore]
      exact (isLoose_of_escaped hescaped).symm
    · rw [hwritten]
      show (isBlank c || isBreak c) = isLoose c
      rw [isBlank_of_plain hplain, isBreak_of_plain hplain, isLoose, Bool.or_assoc]

theorem exists_cons_of_flatMap {m : Char} (hm : m = '-' ∨ m = '.') {cs more : List Char}
    (h : cs.flatMap writeChar ++ '"' :: rest = m :: more) :
    ∃ cs', cs = m :: cs' ∧ more = cs'.flatMap writeChar ++ '"' :: rest := by
  cases cs with
  | nil =>
    obtain ⟨rfl, -⟩ := List.cons.inj h
    exact absurd hm (by decide)
  | cons c cs =>
    rw [List.flatMap_cons, List.append_assoc] at h
    rcases writeChar_cases c with ⟨-, tail, htail⟩ | ⟨-, -, -, hwritten⟩
    · rw [htail] at h
      obtain ⟨rfl, -⟩ := List.cons.inj h
      exact absurd hm (by decide)
    · rw [hwritten] at h
      obtain ⟨rfl, rfl⟩ := List.cons.inj h
      exact ⟨cs, rfl, rfl⟩

theorem startsMarker_iff {cs : List Char} :
    startsMarker cs = true ↔
      ∃ m more, (m = '-' ∨ m = '.') ∧ cs = m :: m :: m :: more ∧ endsWord more = true := by
  constructor
  · intro h
    unfold startsMarker at h
    split at h
    · exact ⟨'-', _, .inl rfl, rfl, h⟩
    · exact ⟨'.', _, .inr rfl, rfl, h⟩
    · cases h
  · rintro ⟨m, more, rfl | rfl, rfl, h⟩ <;> exact h

theorem startsLoneMarker_iff {cs : List Char} :
    startsLoneMarker cs = true ↔
      ∃ m more, (m = '-' ∨ m = '.') ∧ cs = m :: m :: m :: more ∧ more.head?.any isLoose = true := by
  constructor
  · intro h
    unfold startsLoneMarker at h
    split at h
    · exact ⟨'-', _, .inl rfl, rfl, h⟩
    · exact ⟨'.', _, .inr rfl, rfl, h⟩
    · cases h
  · rintro ⟨m, more, hm, rfl, h⟩
    cases more with
    | nil => cases h
    | cons c more => rcases hm with rfl | rfl <;> exact h

/-- A written string goes on with a document marker where the string looks so. -/
theorem startsMarker_flatMap (cs rest : List Char) :
    startsMarker (cs.flatMap writeChar ++ '"' :: rest) = startsLoneMarker cs := by
  rw [Bool.eq_iff_iff, startsMarker_iff, startsLoneMarker_iff]
  constructor
  · rintro ⟨m, more, hm, h, hends⟩
    obtain ⟨cs₁, rfl, h₁⟩ := exists_cons_of_flatMap hm h
    obtain ⟨cs₂, rfl, h₂⟩ := exists_cons_of_flatMap hm h₁.symm
    obtain ⟨cs₃, rfl, h₃⟩ := exists_cons_of_flatMap hm h₂.symm
    rw [h₃, endsWord_flatMap] at hends
    exact ⟨m, cs₃, hm, rfl, hends⟩
  · rintro ⟨m, more, hm, rfl, hloose⟩
    have hwritten : writeChar m = [m] := by rcases hm with rfl | rfl <;> rfl
    refine ⟨m, more.flatMap writeChar ++ '"' :: rest, hm, ?_, ?_⟩
    · simp only [List.flatMap_cons, hwritten]
      rfl
    · rw [endsWord_flatMap, hloose]

/-! ## Strings -/

/-- A character that is neither a blank nor a break is taken as it is. -/
theorem reread?_cons_of_solid {cs : List Char}
    (hmarker : (fresh && startsLoneMarker (c :: cs)) = false)
    (hsolid : isLoose c = false) :
    reread? fresh gap (c :: cs) = (reread? false .none cs).map (gap.text ++ c :: ·) := by
  simp only [isLoose, Bool.or_eq_false_iff, beq_eq_false_iff_ne] at hsolid
  obtain ⟨⟨hspace, hnext⟩, hseparator⟩ := hsolid
  simp [reread?, hmarker, hspace, hnext, hseparator]

/-- What is found between the quotes is what is taken from the string. -/
theorem doubleQuoted_flatMap (cs : List Char) (fresh : Bool) (gap : Gap) (rest : List Char) :
    doubleQuoted .text fresh gap (cs.flatMap writeChar ++ '"' :: rest) =
      (reread? fresh gap cs).map fun text => (text, rest) := by
  induction cs generalizing fresh gap with
  | nil => cases fresh <;> rfl
  | cons c cs ih =>
    have hmarker := startsMarker_flatMap (c :: cs) rest
    rw [List.flatMap_cons, List.append_assoc] at hmarker ⊢
    rcases writeChar_cases c with ⟨hescaped, more, hmore⟩ | ⟨hquote, hbackslash, hplain, hwritten⟩
    · have hnone : startsLoneMarker (c :: cs) = false := by
        rw [← hmarker, hmore]
        rfl
      rw [doubleQuoted_writeChar_of_escaped hescaped, ih,
        reread?_cons_of_solid (by rw [hnone, Bool.and_false]) (isLoose_of_escaped hescaped),
        prepend_map]
      simp
    · rw [hwritten, List.singleton_append] at hmarker ⊢
      have hreturn : (c == '\r') = false := by
        rw [beq_eq_false_iff_ne]
        rintro rfl
        exact absurd hplain (by decide)
      have hblank := isBlank_of_plain hplain
      have hbreak := isBreak_of_plain hplain
      have hquote' : (c == '"') = false := beq_eq_false_iff_ne.2 hquote
      have hbackslash' : (c == '\\') = false := beq_eq_false_iff_ne.2 hbackslash
      rw [doubleQuoted, reread?, hmarker, hquote', hblank, hreturn, hbreak, hbackslash',
        Bool.false_and, if_neg Bool.false_ne_true, if_neg Bool.false_ne_true,
        if_neg Bool.false_ne_true]
      by_cases hlone : (fresh && startsLoneMarker (c :: cs)) = true
      · rw [if_pos hlone, if_pos hlone]
        rfl
      rw [if_neg hlone, if_neg hlone]
      by_cases hspace : c = ' '
      · rw [if_pos (beq_iff_eq.2 hspace), if_pos hspace, ih]
      rw [if_neg (mt beq_iff_eq.1 hspace), if_neg hspace]
      by_cases hline : (c == nextLine || isSeparator c) = true
      · rw [if_pos hline, if_pos hline, ih]
      · rw [if_neg hline, if_neg hline, ih, prepend_map]
        simp

/-! ## Strings that stay as they are -/

/-- A character of a string is taken as it is, given what follows it: it is no next line; no
separator follows a space, and neither a space nor what looks like a document marker follows a
separator. -/
structure Stays (c : Char) (cs : List Char) : Prop where
  kept : c ≠ nextLine
  ofSpace : c = ' ' → cs.head?.any isSeparator = false
  ofSeparator : isSeparator c = true → cs.head? ≠ some ' ' ∧ startsLoneMarker cs = false

/-- Every character of a string is taken as it is. -/
def AllStay (cs : List Char) : Prop := ∀ c more, c :: more <:+ cs → Stays c more

theorem allStay_nil : AllStay [] := by
  intro c more h
  cases List.suffix_nil.1 h

theorem allStay_cons {cs : List Char} : AllStay (c :: cs) ↔ Stays c cs ∧ AllStay cs := by
  constructor
  · intro h
    exact ⟨h c cs (List.suffix_refl _),
      fun d more hmore => h d more (hmore.trans (List.suffix_cons c cs))⟩
  · rintro ⟨hc, hcs⟩ d more hmore
    rcases List.suffix_cons_iff.1 hmore with heq | hmore
    · obtain ⟨rfl, rfl⟩ := List.cons.inj heq
      exact hc
    · exact hcs d more hmore

theorem stays_space {cs : List Char} : Stays ' ' cs ↔ cs.head?.any isSeparator = false :=
  ⟨fun h => h.ofSpace rfl, fun h => ⟨by decide, fun _ => h, fun hc => absurd hc (by decide)⟩⟩

theorem stays_separator {cs : List Char} (h : isSeparator c = true) :
    Stays c cs ↔ cs.head? ≠ some ' ' ∧ startsLoneMarker cs = false := by
  refine ⟨fun hstays => hstays.ofSeparator h, fun hstays => ⟨?_, ?_, fun _ => hstays⟩⟩
  · rintro rfl
    exact absurd h (by decide)
  · rintro rfl
    exact absurd h (by decide)

theorem stays_solid (h : isLoose c = false) (cs : List Char) : Stays c cs := by
  simp only [isLoose, Bool.or_eq_false_iff, beq_eq_false_iff_ne] at h
  obtain ⟨⟨hspace, hnext⟩, hseparator⟩ := h
  exact ⟨hnext, fun hc => absurd hc hspace, fun hc => absurd (hc.symm.trans hseparator) nofun⟩

theorem keptBreak_of_separator (h : isSeparator c = true) : keptBreak c = c := by
  simp only [isSeparator, Bool.or_eq_true, beq_iff_eq] at h
  exact if_pos h

theorem keptBreak_ne_nextLine : keptBreak c ≠ nextLine := by
  unfold keptBreak
  split
  · rename_i h
    rcases h with rfl | rfl <;> decide
  · decide

namespace Gap

theorem text_breaks_of_ne {b : Char} (h : b ≠ '\n') (others : List Char) :
    (breaks (some b) others).text = b :: others := by
  unfold text
  split <;> simp_all

/-- One more line break is kept or not, or stands for a space. -/
theorem text_addBreak (gap : Gap) (c : Char) :
    (gap.addBreak c).text = [' '] ∨ (gap.addBreak c).text.Sublist (gap.text ++ [keptBreak c]) := by
  cases gap with
  | blanks cs =>
    by_cases hfeed : keptBreak c = '\n'
    · exact .inl (by rw [addBreak, hfeed]; rfl)
    · refine .inr ?_
      rw [addBreak, text_breaks_of_ne hfeed]
      exact List.sublist_append_right _ _
  | breaks first others =>
    refine .inr ?_
    rcases first with _ | b
    · exact List.Sublist.refl _
    by_cases hfeed : b = '\n'
    · subst hfeed
      cases others with
      | nil => exact List.sublist_append_right _ _
      | cons o others => exact List.Sublist.refl _
    · rw [addBreak, text_breaks_of_ne hfeed, text_breaks_of_ne hfeed]
      exact List.Sublist.refl _

theorem text_addBlank (gap : Gap) (c : Char) : (gap.addBlank c).text.Sublist (gap.text ++ [c]) := by
  cases gap with
  | blanks cs => exact List.Sublist.refl _
  | breaks first others => exact List.sublist_append_left _ _

end Gap

/-- A gap with one more line break has at most one more character, and no next line. -/
theorem Gap.addBreak_bounds (gap : Gap) (c : Char) :
    (gap.addBreak c).text.length ≤ gap.text.length + 1 ∧
      (nextLine ∉ gap.text → nextLine ∉ (gap.addBreak c).text) := by
  rcases gap.text_addBreak c with heq | hsub
  · rw [heq]
    exact ⟨Nat.le_add_left 1 _, fun _ => by decide⟩
  · refine ⟨by simpa using hsub.length_le, fun hgap hmem => ?_⟩
    rcases List.mem_append.1 (hsub.subset hmem) with hmem | hmem
    · exact hgap hmem
    · exact keptBreak_ne_nextLine (List.mem_singleton.1 hmem).symm

theorem Gap.addBlank_bounds (gap : Gap) :
    (gap.addBlank ' ').text.length ≤ gap.text.length + 1 ∧
      (nextLine ∉ gap.text → nextLine ∉ (gap.addBlank ' ').text) := by
  have hsub := gap.text_addBlank ' '
  refine ⟨by simpa using hsub.length_le, fun hgap hmem => ?_⟩
  rcases List.mem_append.1 (hsub.subset hmem) with hmem | hmem
  · exact hgap hmem
  · exact absurd (List.mem_singleton.1 hmem) (by decide)

/-- What is taken from a string is no longer than the string, and has no next line. -/
theorem reread?_bounds {cs text : List Char} (h : reread? fresh gap cs = some text) :
    text.length ≤ gap.text.length + cs.length ∧
      (nextLine ∉ gap.text → nextLine ∉ text) := by
  induction cs generalizing fresh gap text with
  | nil =>
    obtain rfl := Option.some.inj h
    exact ⟨Nat.le_refl _, id⟩
  | cons c cs ih =>
    have hgrown {g : Gap} (hg : g.text.length ≤ gap.text.length + 1 ∧
        (nextLine ∉ gap.text → nextLine ∉ g.text)) (h : text.length ≤ g.text.length + cs.length ∧
          (nextLine ∉ g.text → nextLine ∉ text)) :
        text.length ≤ gap.text.length + (c :: cs).length ∧
          (nextLine ∉ gap.text → nextLine ∉ text) := by
      refine ⟨?_, fun hgap => h.2 (hg.2 hgap)⟩
      have := h.1
      have := hg.1
      rw [List.length_cons]
      omega
    rw [reread?] at h
    split at h
    · cases h
    split at h
    · rename_i hspace
      subst hspace
      exact hgrown gap.addBlank_bounds (ih h)
    split at h
    · exact hgrown (gap.addBreak_bounds c) (ih h)
    · rename_i hline
      obtain ⟨more, hmore, rfl⟩ := Option.map_eq_some_iff.1 h
      obtain ⟨hlength, hnext⟩ := ih hmore
      have hne : nextLine ≠ c := by
        rintro rfl
        exact hline rfl
      have hnil : Gap.none.text = [] := rfl
      rw [hnil] at hlength hnext
      constructor
      · simp only [List.length_append, List.length_cons, List.length_nil] at hlength ⊢
        omega
      · intro hgap
        simpa [hne, hgap] using hnext List.not_mem_nil

/-- A gap whose text is the characters that were passed, as they are: spaces, or separators, after
which a line starts. -/
inductive Gap.Holds : Bool → Gap → Prop where
  | spaces {cs : List Char} : nextLine ∉ cs → Holds false (.blanks cs)
  | separators {b : Char} {others : List Char} : isSeparator b = true → nextLine ∉ others →
      Holds true (.breaks (some b) others)

/-- The characters of a gap are kept as they are, given what follows it. -/
def Gap.Leads (cs : List Char) : Gap → Prop
  | .blanks spaces => spaces ≠ [] → cs.head?.any isSeparator = false
  | .breaks _ _ => cs.head? ≠ some ' ' ∧ startsLoneMarker cs = false

theorem Gap.text_separators {b : Char} (h : isSeparator b = true) (others : List Char) :
    (breaks (some b) others).text = b :: others := by
  have hne : b ≠ '\n' := by
    rintro rfl
    exact absurd h (by decide)
  exact text_breaks_of_ne hne others

theorem Gap.Holds.nextLine_not_mem (h : gap.Holds fresh) : nextLine ∉ gap.text := by
  cases h with
  | spaces hspaces => exact hspaces
  | separators hb hothers =>
    rw [text_separators hb, List.mem_cons, not_or]
    refine ⟨?_, hothers⟩
    rintro rfl
    exact absurd hb (by decide)

/-- A gap that did not grow with a character has lost one. -/
theorem reread?_ne_of_short {g : Gap} {cs : List Char} (h : g.text.length ≤ gap.text.length) :
    reread? fresh g cs ≠ some (gap.text ++ c :: cs) := by
  intro heq
  have hlength := (reread?_bounds heq).1
  simp only [List.length_append, List.length_cons] at hlength
  omega

/-- A string behind a gap stays as it is exactly if all its characters do. -/
def Gap.Exact (fresh : Bool) (gap : Gap) (cs : List Char) : Prop :=
  reread? fresh gap cs = some (gap.text ++ cs) ↔ gap.Leads cs ∧ AllStay cs

section Steps

variable {cs : List Char}

theorem Gap.exact_nil (h : gap.Holds fresh) : Exact fresh gap [] := by
  rw [Exact, reread?, List.append_nil]
  refine iff_of_true rfl ⟨?_, allStay_nil⟩
  cases h with
  | spaces => exact fun _ => rfl
  | separators => exact ⟨nofun, rfl⟩

theorem Gap.exact_marker (h : gap.Holds fresh)
    (hmarker : (fresh && startsLoneMarker (c :: cs)) = true) : Exact fresh gap (c :: cs) := by
  rw [Exact, reread?, if_pos hmarker]
  refine iff_of_false nofun ?_
  rintro ⟨hleads, -⟩
  cases h with
  | spaces => cases hmarker
  | separators =>
    rw [hleads.2] at hmarker
    cases hmarker

/-- A character that is neither a blank nor a break ends the gap. What follows it is taken as if the
string started there. -/
theorem Gap.exact_solid (h : gap.Holds fresh)
    (hmarker : (fresh && startsLoneMarker (c :: cs)) = false) (hsolid : isLoose c = false)
    (hrest : Exact false .none cs) : Exact fresh gap (c :: cs) := by
  have hrest : reread? false .none cs = some cs ↔ AllStay cs :=
    hrest.trans (and_iff_right fun hne => absurd rfl hne)
  have hleads : gap.Leads (c :: cs) := by
    simp only [isLoose, Bool.or_eq_false_iff, beq_eq_false_iff_ne] at hsolid
    cases h with
    | spaces => exact fun _ => hsolid.2
    | separators => exact ⟨by simpa using hsolid.1.1, by simpa using hmarker⟩
  rw [Exact, reread?_cons_of_solid hmarker hsolid, allStay_cons, and_iff_right hleads,
    and_iff_right (stays_solid hsolid cs), ← hrest]
  simp

theorem Gap.exact_space (h : gap.Holds fresh)
    (ih : ∀ {fresh : Bool} {gap : Gap}, gap.Holds fresh → Exact fresh gap cs) :
    Exact fresh gap (' ' :: cs) := by
  have hstep : reread? fresh gap (' ' :: cs) = reread? false (gap.addBlank ' ') cs := by
    cases fresh <;> rfl
  rw [Exact, hstep, allStay_cons, stays_space]
  cases h with
  | spaces hspaces =>
    rename_i spaces
    have hspaces' : nextLine ∉ spaces ++ [' '] := by
      simpa [hspaces] using by decide
    have hmore := ih (.spaces hspaces')
    rw [Exact, text, List.append_assoc] at hmore
    refine hmore.trans ?_
    constructor
    · rintro ⟨hleads, hall⟩
      exact ⟨fun _ => rfl, hleads (by simp), hall⟩
    · rintro ⟨-, hspaced, hall⟩
      exact ⟨fun _ => hspaced, hall⟩
  | separators hb hothers =>
    -- The space is dropped.
    refine iff_of_false (reread?_ne_of_short (Nat.le_refl _)) ?_
    rintro ⟨⟨hleads, -⟩, -⟩
    exact hleads rfl

/-- A separator breaks the line. The spaces in front of it are dropped. -/
theorem Gap.exact_separator_of_spaces {spaces : List Char} (hc : isSeparator c = true)
    (ih : ∀ {fresh : Bool} {gap : Gap}, gap.Holds fresh → Exact fresh gap cs) :
    Exact false (.blanks spaces) (c :: cs) := by
  have hspace : c ≠ ' ' := by
    rintro rfl
    exact absurd hc (by decide)
  have hstep : reread? false (.blanks spaces) (c :: cs) =
      reread? true (.breaks (some c) []) cs := by
    rw [reread?, Bool.false_and, if_neg Bool.false_ne_true, if_neg hspace,
      if_pos (by rw [hc, Bool.or_true]), addBreak, keptBreak_of_separator hc]
  rw [Exact, hstep, allStay_cons, stays_separator hc]
  cases spaces with
  | nil =>
    have hnone : nextLine ∉ ([] : List Char) := List.not_mem_nil
    have hmore := ih (.separators hc hnone)
    rw [Exact, text_separators hc] at hmore
    refine hmore.trans ?_
    exact ⟨fun ⟨hleads, hall⟩ => ⟨fun hne => absurd rfl hne, hleads, hall⟩,
      fun ⟨_, hleads, hall⟩ => ⟨hleads, hall⟩⟩
  | cons space spaces =>
    refine iff_of_false (reread?_ne_of_short ?_) ?_
    · rw [text_separators hc]
      exact Nat.succ_le_succ (Nat.zero_le _)
    · rintro ⟨hleads, -⟩
      exact absurd (hc.symm.trans (hleads (List.cons_ne_nil _ _))) nofun

/-- A separator behind others is kept as they are. -/
theorem Gap.exact_separator_of_separators {b : Char} {others : List Char}
    (hb : isSeparator b = true) (hothers : nextLine ∉ others) (hc : isSeparator c = true)
    (hmarker : startsLoneMarker (c :: cs) = false)
    (ih : ∀ {fresh : Bool} {gap : Gap}, gap.Holds fresh → Exact fresh gap cs) :
    Exact true (.breaks (some b) others) (c :: cs) := by
  have hspace : c ≠ ' ' := by
    rintro rfl
    exact absurd hc (by decide)
  have hnext : nextLine ≠ c := by
    rintro rfl
    exact absurd hc (by decide)
  have hstep : reread? true (.breaks (some b) others) (c :: cs) =
      reread? true (.breaks (some b) (others ++ [c])) cs := by
    rw [reread?, hmarker, Bool.and_false, if_neg Bool.false_ne_true, if_neg hspace,
      if_pos (by rw [hc, Bool.or_true]), addBreak, keptBreak_of_separator hc]
  have hothers' : nextLine ∉ others ++ [c] := by
    simpa [hothers] using hnext
  have hmore := ih (.separators hb hothers')
  rw [Exact, text_separators hb, List.cons_append, List.append_assoc] at hmore
  have hleads : Leads (c :: cs) (.breaks (some b) others) :=
    ⟨by simpa using hspace, hmarker⟩
  rw [Exact, hstep, allStay_cons, stays_separator hc, text_separators hb, and_iff_right hleads]
  exact hmore.trans (and_congr_right fun _ => Iff.rfl)

theorem Gap.exact_separator (h : gap.Holds fresh)
    (hmarker : (fresh && startsLoneMarker (c :: cs)) = false) (hc : isSeparator c = true)
    (ih : ∀ {fresh : Bool} {gap : Gap}, gap.Holds fresh → Exact fresh gap cs) :
    Exact fresh gap (c :: cs) := by
  cases h with
  | spaces => exact exact_separator_of_spaces hc ih
  | separators hb hothers => exact exact_separator_of_separators hb hothers hc hmarker ih

/-- A next line is lost. -/
theorem Gap.exact_nextLine (h : gap.Holds fresh) : Exact fresh gap (nextLine :: cs) := by
  rw [Exact, allStay_cons]
  refine iff_of_false (fun heq => ?_) fun hstays => hstays.2.1.kept rfl
  have hstep : reread? fresh gap (nextLine :: cs) = reread? true (gap.addBreak nextLine) cs := by
    cases fresh <;> rfl
  rw [hstep] at heq
  have hlost := (reread?_bounds heq).2 ((gap.addBreak_bounds nextLine).2 h.nextLine_not_mem)
  exact hlost (List.mem_append_right _ List.mem_cons_self)

end Steps

theorem Gap.exact {cs : List Char} (h : gap.Holds fresh) : Exact fresh gap cs := by
  induction cs generalizing fresh gap with
  | nil => exact exact_nil h
  | cons c cs ih =>
    by_cases hmarker : (fresh && startsLoneMarker (c :: cs)) = true
    · exact exact_marker h hmarker
    rw [Bool.not_eq_true] at hmarker
    by_cases hspace : c = ' '
    · exact hspace ▸ exact_space h ih
    by_cases hnext : c = nextLine
    · exact hnext ▸ exact_nextLine h
    by_cases hseparator : isSeparator c = true
    · exact exact_separator h hmarker hseparator ih
    · have hsolid : isLoose c = false := by simp [isLoose, hspace, hnext, hseparator]
      exact exact_solid h hmarker hsolid (ih (.spaces List.not_mem_nil))

/-- **Strings that survive.** A JSON string is taken for itself exactly if each of its characters
is. -/
theorem reread?_eq_some_iff {cs : List Char} : reread? false .none cs = some cs ↔ AllStay cs :=
  (Gap.exact (.spaces List.not_mem_nil)).trans (and_iff_right fun hne => absurd rfl hne)

/-! ## Numbers -/

theorem plain_digit {d : Char} (h : Text.isDigit d = true) (indent column : Nat)
    (cs : List Char) :
    plain true indent column .none (d :: cs) =
      (plain true indent (column + 1) .none cs).map fun ((more, broken), rest) =>
        ((d :: more, broken), rest) := by
  have hmem := Text.mem_digits h
  simp only [Text.digits, List.mem_cons, List.not_mem_nil, or_false] at hmem
  rcases hmem with rfl | rfl | rfl | rfl | rfl | rfl | rfl | rfl | rfl | rfl <;>
    cases column <;> rfl

/-- The digits of a number are a plain scalar in brackets. -/
theorem plain_digits {digits : List Char} (hdigits : ∀ d ∈ digits, Text.isDigit d = true)
    (hrest : Json.Follows rest) (indent column : Nat) :
    plain true indent column .none (digits ++ rest) = some ((digits, false), rest) := by
  induction digits generalizing column with
  | nil =>
    cases rest with
    | nil => rfl
    | cons c rest => rcases hrest c rfl with rfl | rfl | rfl <;> cases column <;> rfl
  | cons d digits ih =>
    obtain ⟨hd, hdigits⟩ := List.forall_mem_cons.1 hdigits
    rw [List.cons_append, plain_digit hd, ih hdigits]
    rfl

end WorkloadAuth.Yaml
