import WorkloadAuth.Json.Reader
import WorkloadAuth.Json.Writer
import WorkloadAuth.Proofs.Digits
import WorkloadAuth.Proofs.Result
import Mathlib.Data.List.Forall2

/-!
# JSON text is read back

What is written is read back by the readers of strings, numbers, arrays and objects, in front of
any text that may follow a value.

* `Json.Follows`: what may stand behind a value.
* `Json.Reads`: a reader takes exactly a text and answers a value.
* `Json.reads_string`: strings, whatever characters they have.
* `Json.number_natural`, `Json.number_negative`: whole numbers of sixty-four bits.
* `Json.elements_of_forall`: arrays, by a reader of their items.
* `Json.Folded`, `Json.members_of_folded`: objects, by a step for each of their members.
-/

namespace WorkloadAuth.Json

open Reader

variable {α β σ : Type}

/-! ## Readers and texts -/

/-- A reader goes on with what the first part of it answers and leaves. -/
theorem bind_of_ok {p : Reader α} {f : α → Reader β} {cs rest : List Char} {a : α}
    (h : p cs = .ok (a, rest)) : (p >>= f) cs = f a rest := by
  change (p cs >>= fun x => f x.1 x.2) = f a rest
  rw [h]
  rfl

/-- What may stand behind a value inside of compact text: nothing, a comma or a closing bracket. -/
def Follows (rest : List Char) : Prop := ∀ c, rest.head? = some c → c = ',' ∨ c = ']' ∨ c = '\x7d'

theorem follows_nil : Follows [] := nofun

theorem follows_cons {c : Char} (h : c = ',' ∨ c = ']' ∨ c = '\x7d') (rest : List Char) :
    Follows (c :: rest) := by
  intro d hd
  obtain rfl := Option.some.inj hd
  exact h

/-- A reader takes exactly a text, whatever follows it, and answers a value. -/
def Reads (reader : Reader α) (text : List Char) (a : α) : Prop :=
  ∀ rest, Follows rest → reader (text ++ rest) = .ok (a, rest)

/-- A text starts with a character, which is no blank and closes no array. -/
structure StartsWith (text : List Char) (c : Char) : Prop where
  head : text.head? = some c
  solid : isSpace c = false
  opens : c ≠ ']'

theorem StartsWith.append {text : List Char} {c : Char} (h : StartsWith text c)
    (rest : List Char) : StartsWith (text ++ rest) c where
  head := by rw [List.head?_append, h.head, Option.some_or]
  solid := h.solid
  opens := h.opens

theorem StartsWith.ne_nil {text : List Char} {c : Char} (h : StartsWith text c) : text ≠ [] := by
  rintro rfl
  cases h.head

theorem blanks_cons {c : Char} (h : isSpace c = false) (rest : List Char) :
    blanks (c :: rest) = .ok (some c, c :: rest) := by
  simp [blanks, h]

theorem StartsWith.blanks {text : List Char} {c : Char} (h : StartsWith text c) :
    blanks text = .ok (some c, text) := by
  cases text with
  | nil => cases h.head
  | cons d rest =>
    obtain rfl := Option.some.inj h.head
    exact blanks_cons h.solid rest

/-- A reader that looks at the next character first. -/
theorem StartsWith.blanks_bind {text : List Char} {c : Char} (h : StartsWith text c)
    (f : Option Char → Reader α) : (Reader.blanks >>= f) text = f (some c) text :=
  bind_of_ok h.blanks

theorem blanks_bind_cons {c : Char} (h : isSpace c = false) (rest : List Char)
    (f : Option Char → Reader α) : (Reader.blanks >>= f) (c :: rest) = f (some c) (c :: rest) :=
  bind_of_ok (blanks_cons h rest)

theorem advance_bind (c : Char) (rest : List Char) (f : Unit → Reader α) :
    (Reader.advance >>= f) (c :: rest) = f () rest := rfl

theorem get_bind (cs : List Char) (f : List Char → Reader α) : (get >>= f) cs = f cs cs := rfl

theorem reads_colon {reader : Reader α} {text : List Char} {a : α} (h : Reads reader text a) :
    Reads (do colon; reader) (':' :: text) a := by
  intro rest hrest
  have hcolon : colon (':' :: (text ++ rest)) = .ok ((), text ++ rest) := rfl
  rw [List.cons_append, bind_of_ok hcolon]
  exact h rest hrest

theorem Reads.map {reader : Reader α} {text : List Char} {a : α} (h : Reads reader text a)
    (f : α → β) : Reads (do let x ← reader; pure (f x)) text (f a) := by
  intro rest hrest
  rw [bind_of_ok (h rest hrest)]
  rfl

/-! ## Words -/

theorem expect_append (word rest : List Char) : expect word (word ++ rest) = .ok ((), rest) := by
  induction word with
  | nil => rfl
  | cons c word ih => rw [List.cons_append, expect, if_pos rfl, ih]

/-! ## Strings -/

theorem length_writeChar_pos (c : Char) : 0 < (writeChar c).length := by
  unfold writeChar
  repeat' split
  all_goals exact Nat.succ_pos _

theorem hexValue?_hexDigit : ∀ n < 16, Text.hexValue? (Text.hexDigit n) = some n := by decide

/-- The characters of the short escapes, and those that are written as they are. -/
theorem escape_short {e : Char} {rest : List Char} {c : Char}
    (h : (e, c) ∈ [('"', '"'), ('\\', '\\'), ('b', '\x08'), ('f', '\x0c'), ('n', '\n'), ('r', '\r'),
      ('t', '\t')]) : escape (e :: rest) = .ok (c, rest) := by
  simp only [List.mem_cons, Prod.mk.injEq, List.not_mem_nil, or_false] at h
  rcases h with ⟨rfl, rfl⟩ | ⟨rfl, rfl⟩ | ⟨rfl, rfl⟩ | ⟨rfl, rfl⟩ | ⟨rfl, rfl⟩ | ⟨rfl, rfl⟩ |
    ⟨rfl, rfl⟩ <;> rfl

/-- A control character is written by its number. -/
theorem escape_control {c : Char} (h : c.toNat < 0x20) (rest : List Char) :
    escape ('u' :: '0' :: '0' :: Text.hexDigit (c.toNat / 16) :: Text.hexDigit (c.toNat % 16) ::
      rest) = .ok (c, rest) := by
  have hhigh := hexValue?_hexDigit (c.toNat / 16) (by omega)
  have hlow := hexValue?_hexDigit (c.toNat % 16) (by omega)
  have hzero : Text.hexValue? '0' = some 0 := rfl
  have hvalue : ((0 * 16 + 0) * 16 + c.toNat / 16) * 16 + c.toNat % 16 = c.toNat := by omega
  have hhex : hex4 ('0' :: '0' :: Text.hexDigit (c.toNat / 16) :: Text.hexDigit (c.toNat % 16) ::
      rest) = .ok (c.toNat, rest) := by
    simp only [hex4, hzero, hhigh, hlow, hvalue]
  have hnoLow : ¬(0xdc00 ≤ c.toNat ∧ c.toNat ≤ 0xdfff) := by omega
  have hnoHigh : ¬(0xd800 ≤ c.toNat ∧ c.toNat ≤ 0xdbff) := by omega
  simp only [escape, hhex]
  change (if _ then _ else _) = _
  rw [if_neg hnoLow, if_neg hnoHigh, Char.ofNat_toNat]

/-- One written character is read back, and takes one unit of fuel. -/
theorem stringBody_writeChar (c : Char) (x : Char) (fuel done rest : List Char) :
    stringBody (x :: fuel) done (writeChar c ++ rest) = stringBody fuel (c :: done) rest := by
  have hescaped {e : Char} {tail : List Char} (h : escape (e :: tail) = .ok (c, rest)) :
      stringBody (x :: fuel) done ('\\' :: e :: tail) = stringBody fuel (c :: done) rest := by
    rw [stringBody, if_neg (by decide), if_pos rfl, h]
    rfl
  unfold writeChar
  split
  · exact hescaped (escape_short (by simp [*]))
  split
  · exact hescaped (escape_short (by simp [*]))
  split
  · exact hescaped (escape_short (by simp [*]))
  split
  · exact hescaped (escape_short (by simp [*]))
  split
  · exact hescaped (escape_short (by simp [*]))
  split
  · exact hescaped (escape_short (by simp [*]))
  split
  · exact hescaped (escape_short (by simp [*]))
  split
  · exact hescaped (escape_control ‹_› rest)
  · rename_i hquote hbackslash _ _ _ _ _ hcontrol
    rw [List.cons_append, List.nil_append, stringBody, if_neg hquote, if_neg hbackslash,
      if_neg hcontrol]

theorem stringBody_flatMap (cs fuel done rest : List Char) (h : cs.length < fuel.length) :
    stringBody fuel done (cs.flatMap writeChar ++ '"' :: rest) =
      .ok (String.ofList (done.reverse ++ cs), rest) := by
  induction cs generalizing fuel done with
  | nil =>
    cases fuel with
    | nil => cases h
    | cons x fuel =>
      rw [List.flatMap_nil, List.nil_append, stringBody, if_pos rfl, List.append_nil]
  | cons c cs ih =>
    cases fuel with
    | nil => cases h
    | cons x fuel =>
      rw [List.flatMap_cons, List.append_assoc, stringBody_writeChar,
        ih fuel (c :: done) (Nat.lt_of_succ_lt_succ h), List.reverse_cons, List.append_assoc]
      rfl

theorem length_le_length_flatMap_writeChar (cs : List Char) :
    cs.length ≤ (cs.flatMap writeChar).length := by
  induction cs with
  | nil => exact Nat.le_refl 0
  | cons c cs ih =>
    have := length_writeChar_pos c
    rw [List.flatMap_cons, List.length_append, List.length_cons]
    omega

/-- A string is read back behind its opening quote. -/
theorem string_flatMap (s : String) (rest : List Char) :
    string (s.toList.flatMap writeChar ++ '"' :: rest) = .ok (s, rest) := by
  have hlength := length_le_length_flatMap_writeChar s.toList
  have hfuel : s.toList.length < (s.toList.flatMap writeChar ++ '"' :: rest).length := by
    rw [List.length_append, List.length_cons]
    omega
  rw [string, stringBody_flatMap _ _ _ _ hfuel, List.reverse_nil, List.nil_append,
    String.ofList_toList]

theorem startsWith_writeString (s : String) : StartsWith (writeString s) '"' := by
  constructor <;> first | rfl | decide

theorem writeString_append (s : String) (rest : List Char) :
    writeString s ++ rest = '"' :: (s.toList.flatMap writeChar ++ '"' :: rest) := by
  simp [writeString]

/-! ## Whole numbers -/

theorem isDigit_of_follows {rest : List Char} (h : Follows rest) :
    rest.head?.any Text.isDigit = false := by
  cases hc : rest.head? with
  | none => rfl
  | some c => rcases h c hc with rfl | rfl | rfl <;> rfl

theorem span_decimal (n : Nat) {rest : List Char} (h : Follows rest) :
    (Text.decimal n ++ rest).takeWhile Text.isDigit = Text.decimal n ∧
      (Text.decimal n ++ rest).dropWhile Text.isDigit = rest := by
  have hdigits : ∀ c ∈ Text.decimal n, Text.isDigit c := fun _ => Text.isDigit_of_mem_decimal
  have hrest := isDigit_of_follows h
  rw [List.takeWhile_append_of_pos hdigits, List.dropWhile_append_of_pos hdigits]
  cases rest with
  | nil => simp
  | cons c rest => simp_all

theorem wholeDigits_decimal (n : Nat) {rest : List Char} (h : Follows rest) :
    wholeDigits (Text.decimal n ++ rest) = .ok (Text.decimal n, rest) := by
  rcases Nat.eq_zero_or_pos n with rfl | hpos
  · change (if rest.head?.any Text.isDigit then _ else _) = _
    rw [isDigit_of_follows h]
    rfl
  · obtain ⟨htake, hdrop⟩ := span_decimal n h
    have hne : Text.decimal n ≠ [] := List.ne_nil_of_length_pos (Text.length_decimal_pos n)
    obtain ⟨c, cs, hcs⟩ := List.exists_cons_of_ne_nil hne
    have hdigit : Text.isDigit c := Text.isDigit_of_mem_decimal (n := n) (by simp [hcs])
    have hzero : c ≠ '0' := by
      rintro rfl
      exact Text.head?_decimal_ne_zero hpos (by simp [hcs])
    rw [hcs, List.cons_append] at htake hdrop ⊢
    unfold wholeDigits
    split
    · rename_i heq
      cases heq
    · rename_i heq
      exact absurd (List.cons.inj heq).1 hzero
    · rename_i heq
      obtain ⟨rfl, -⟩ := List.cons.inj heq
      rw [if_pos hdigit, htake, hdrop]

theorem fraction_of_follows {rest : List Char} (h : Follows rest) :
    fraction rest = .ok (none, rest) := by
  unfold fraction
  split
  · exact absurd (h '.' rfl) (by decide)
  · rfl

theorem exponent_of_follows {rest : List Char} (h : Follows rest) :
    exponent rest = .ok (none, rest) := by
  unfold exponent
  split
  · rename_i c tail
    rw [if_neg]
    rcases h c rfl with rfl | rfl | rfl <;> decide
  · rfl

/-- The digits of a number, which nothing but the number belongs to. -/
theorem unsigned_decimal (positive : Bool) (n : Nat) {rest : List Char} (h : Follows rest) :
    unsigned positive (Text.decimal n ++ rest) =
      if positive ∧ n < UInt64.size then .ok (.natural (UInt64.ofNat n), rest)
      else if !positive ∧ 0 < n ∧ 2 * n ≤ UInt64.size then .ok (.negative n, rest)
      else if realOutOfRange (Text.decimal n) none none then .error .malformed
      else .ok (written positive (Text.decimal n ++ rest) rest, rest) := by
  simp only [unsigned, wholeDigits_decimal n h, fraction_of_follows h, exponent_of_follows h,
    Except.ok_bind, Text.decimalValue_decimal, Option.isNone_none, Bool.and_self, true_and]

theorem exists_decimal_eq_cons (n : Nat) :
    ∃ c cs, Text.decimal n = c :: cs ∧ Text.isDigit c = true := by
  obtain ⟨c, cs, hcs⟩ := List.exists_cons_of_ne_nil
    (List.ne_nil_of_length_pos (Text.length_decimal_pos n))
  exact ⟨c, cs, hcs, Text.isDigit_of_mem_decimal (n := n) (by simp [hcs])⟩

theorem number_natural (n : UInt64) {rest : List Char} (h : Follows rest) :
    number (Text.decimal n.toNat ++ rest) = .ok (.natural n, rest) := by
  obtain ⟨c, cs, hcs, hdigit⟩ := exists_decimal_eq_cons n.toNat
  have hunsigned : number (Text.decimal n.toNat ++ rest) =
      unsigned true (Text.decimal n.toNat ++ rest) := by
    rw [hcs, List.cons_append]
    unfold number
    split
    · rename_i heq
      obtain ⟨rfl, -⟩ := List.cons.inj heq
      cases hdigit
    · rfl
  rw [hunsigned, unsigned_decimal true _ h, if_pos ⟨rfl, n.toNat_lt_size⟩, UInt64.ofNat_toNat]

theorem number_negative {n : Nat} (hpos : 0 < n) (hle : 2 * n ≤ UInt64.size) {rest : List Char}
    (h : Follows rest) :
    number ('-' :: (Text.decimal n ++ rest)) = .ok (.negative n, rest) := by
  change unsigned false (Text.decimal n ++ rest) = _
  rw [unsigned_decimal false _ h, if_neg (by simp), if_pos ⟨rfl, hpos, hle⟩]

theorem solid_of_isDigit {c : Char} (h : Text.isDigit c = true) : isSpace c = false ∧ c ≠ ']' := by
  simp only [Text.isDigit, Bool.and_eq_true, decide_eq_true_eq] at h
  constructor
  · simp only [isSpace, Bool.or_eq_false_iff, beq_eq_false_iff_ne]
    refine ⟨⟨⟨?_, ?_⟩, ?_⟩, ?_⟩ <;> rintro rfl <;> revert h <;> decide
  · rintro rfl
    revert h
    decide

theorem exists_startsWith_decimal (n : Nat) :
    ∃ c, Text.isDigit c = true ∧ StartsWith (Text.decimal n) c := by
  obtain ⟨c, cs, hcs, hdigit⟩ := exists_decimal_eq_cons n
  exact ⟨c, hdigit, by rw [hcs]; rfl, (solid_of_isDigit hdigit).1, (solid_of_isDigit hdigit).2⟩

/-! ## Arrays and objects -/

theorem commaSeparated_cons_cons (part next : List Char) (parts : List (List Char)) :
    commaSeparated (part :: next :: parts) = part ++ ',' :: commaSeparated (next :: parts) := by
  simp [commaSeparated, List.intercalate, List.intersperse]

/-- What stands behind a part: the closing character, or a comma and the other parts. -/
def tailOf (parts : List (List Char)) (closing : List Char) : List Char :=
  match parts with
  | [] => closing
  | part :: parts => ',' :: (commaSeparated (part :: parts) ++ closing)

theorem commaSeparated_cons_append (part : List Char) (parts : List (List Char))
    (closing : List Char) :
    commaSeparated (part :: parts) ++ closing = part ++ tailOf parts closing := by
  cases parts with
  | nil => simp [commaSeparated, tailOf, List.intercalate, List.intersperse]
  | cons next parts => rw [commaSeparated_cons_cons, tailOf, List.append_assoc, List.cons_append]

theorem follows_tailOf (parts : List (List Char)) {closing : List Char} (h : Follows closing) :
    Follows (tailOf parts closing) := by
  cases parts with
  | nil => exact h
  | cons part parts => exact follows_cons (.inl rfl) _

/-- There is a text of at least as many characters as there are parts. -/
theorem length_le_length_tailOf (parts : List (List Char)) (c : Char) (rest : List Char) :
    parts.length < (tailOf parts (c :: rest)).length := by
  induction parts with
  | nil => exact Nat.succ_pos _
  | cons part parts ih =>
    rw [tailOf, commaSeparated_cons_append, List.length_cons, List.length_cons, List.length_append]
    omega

theorem hasElement_first {text : List Char} {c : Char} (h : StartsWith text c) :
    hasElement true text = .ok (true, text) := by
  rw [hasElement, h.blanks_bind]
  generalize hnext : some c = next
  split
  · cases hnext
  · exact absurd (Option.some.inj hnext) h.opens
  · rfl

theorem hasElement_comma {text : List Char} {c : Char} (h : StartsWith text c) :
    hasElement false (',' :: text) = .ok (true, text) := by
  have hpast (f : Option Char → Reader Bool) :
      (Reader.advance >>= fun _ => Reader.blanks >>= f) (',' :: text) = f (some c) text := by
    rw [advance_bind, h.blanks_bind]
  rw [hasElement, blanks_bind_cons rfl]
  refine (hpast _).trans ?_
  generalize hnext : some c = next
  split
  · cases hnext
  · exact absurd (Option.some.inj hnext) h.opens
  · rfl

/-- The items of an array behind the first ones. -/
theorem elementsFrom_tailOf {item : Reader α} {as : List α} {parts : List (List Char)}
    (h : List.Forall₂ (fun part a => Reads item part a ∧ ∃ c, StartsWith part c) parts as)
    (fuel : List Char) (done : List α) (rest : List Char) (hfuel : parts.length < fuel.length) :
    elementsFrom item fuel false done (tailOf parts (']' :: rest)) =
      .ok (done.reverse ++ as, ']' :: rest) := by
  induction h generalizing fuel done with
  | nil =>
    cases fuel with
    | nil => cases hfuel
    | cons x fuel =>
      rw [List.append_nil]
      rfl
  | cons hpart hparts ih =>
    rename_i part a parts as
    obtain ⟨hreads, c, hstarts⟩ := hpart
    cases fuel with
    | nil => cases hfuel
    | cons x fuel =>
      have hfollows : Follows (tailOf parts (']' :: rest)) :=
        follows_tailOf parts (follows_cons (.inr (.inl rfl)) rest)
      rw [tailOf, commaSeparated_cons_append, elementsFrom,
        bind_of_ok (hasElement_comma (hstarts.append _)), if_pos rfl,
        bind_of_ok (hreads _ hfollows), ih fuel _ (Nat.lt_of_succ_lt_succ hfuel),
        List.reverse_cons, List.append_assoc]
      rfl

/-- An array is read behind its opening bracket if each of its items is. -/
theorem elements_of_forall {item : Reader α} {as : List α} {parts : List (List Char)}
    (h : List.Forall₂ (fun part a => Reads item part a ∧ ∃ c, StartsWith part c) parts as)
    (rest : List Char) :
    elements item (commaSeparated parts ++ ']' :: rest) = .ok (as, rest) := by
  have hend : endArray (']' :: rest) = .ok ((), rest) := rfl
  suffices hitems : elementsFrom item (commaSeparated parts ++ ']' :: rest) true []
      (commaSeparated parts ++ ']' :: rest) = .ok (as, ']' :: rest) by
    rw [elements, get_bind, bind_of_ok hitems, bind_of_ok hend]
    rfl
  cases h with
  | nil => rfl
  | cons hpart hparts =>
    rename_i part a parts as
    obtain ⟨hreads, c, hstarts⟩ := hpart
    have hfollows : Follows (tailOf parts (']' :: rest)) :=
      follows_tailOf parts (follows_cons (.inr (.inl rfl)) rest)
    obtain ⟨d, text, htext⟩ := List.exists_cons_of_ne_nil hstarts.ne_nil
    have hfuel : parts.length < (text ++ tailOf parts (']' :: rest)).length := by
      have := length_le_length_tailOf parts ']' rest
      rw [List.length_append]
      omega
    have hstep (fuel : List Char) : elementsFrom item (d :: fuel) true []
        (part ++ tailOf parts (']' :: rest)) =
        elementsFrom item fuel false [a] (tailOf parts (']' :: rest)) := by
      rw [elementsFrom, bind_of_ok (hasElement_first (hstarts.append _)), if_pos rfl,
        bind_of_ok (hreads _ hfollows)]
    have hlast := elementsFrom_tailOf hparts (text ++ tailOf parts (']' :: rest)) [a] rest hfuel
    rw [commaSeparated_cons_append]
    have hcons : part ++ tailOf parts (']' :: rest) =
        d :: (text ++ tailOf parts (']' :: rest)) := by rw [htext]; rfl
    calc elementsFrom item (part ++ tailOf parts (']' :: rest)) true []
          (part ++ tailOf parts (']' :: rest))
        = elementsFrom item (d :: (text ++ tailOf parts (']' :: rest))) true []
            (part ++ tailOf parts (']' :: rest)) := by rw [← hcons]
      _ = .ok (a :: as, ']' :: rest) := by rw [hstep, hlast]; rfl

/-! ## Objects -/

/-- The text of a member. -/
def writeMember (member : String × List Char) : List Char :=
  writeString member.1 ++ ':' :: member.2

/-- A step for each member leads from one state to another. -/
inductive Folded (step : σ → String → Reader σ) : σ → List (String × List Char) → σ → Prop where
  | nil (s : σ) : Folded step s [] s
  | cons {s s' s'' : σ} {name : String} {text : List Char} {members : List (String × List Char)} :
      Reads (step s name) (':' :: text) s' → Folded step s' members s'' →
      Folded step s ((name, text) :: members) s''

theorem memberName_first (name : String) (rest : List Char) :
    memberName true (writeString name ++ rest) = .ok (some name, rest) := by
  have hquote (cs : List Char) : memberName true ('"' :: cs) = (some <$> string) cs := rfl
  rw [writeString_append, hquote, map_eq_pure_bind, bind_of_ok (string_flatMap name rest)]
  rfl

theorem memberName_comma (name : String) (rest : List Char) :
    memberName false (',' :: (writeString name ++ rest)) = .ok (some name, rest) := by
  have hquote (cs : List Char) : memberName false (',' :: '"' :: cs) = (some <$> string) cs := rfl
  rw [writeString_append, hquote, map_eq_pure_bind, bind_of_ok (string_flatMap name rest)]
  rfl

/-- The members of an object behind the first ones. -/
theorem membersFrom_tailOf {step : σ → String → Reader σ} {s s' : σ}
    {members : List (String × List Char)} (h : Folded step s members s') (fuel rest : List Char)
    (hfuel : members.length < fuel.length) :
    membersFrom step fuel false s (tailOf (members.map writeMember) ('\x7d' :: rest)) =
      .ok (s', '\x7d' :: rest) := by
  induction h generalizing fuel with
  | nil s =>
    cases fuel with
    | nil => cases hfuel
    | cons x fuel => rfl
  | cons hmember hmembers ih =>
    rename_i s₁ s₂ s₃ name text members
    cases fuel with
    | nil => cases hfuel
    | cons x fuel =>
      have hfollows : Follows (tailOf (members.map writeMember) ('\x7d' :: rest)) :=
        follows_tailOf _ (follows_cons (.inr (.inr rfl)) rest)
      rw [List.map_cons, tailOf, commaSeparated_cons_append, writeMember, List.append_assoc,
        membersFrom, bind_of_ok (memberName_comma name _)]
      change (step s₁ name >>= fun s => membersFrom step fuel false s) _ = _
      rw [bind_of_ok (hmember _ hfollows), ih fuel (Nat.lt_of_succ_lt_succ hfuel)]

/-- The members of an object are read behind its opening brace, and the closing one is left. -/
theorem members_of_folded {step : σ → String → Reader σ} {s s' : σ}
    {members : List (String × List Char)} (h : Folded step s members s') (rest : List Char) :
    Reader.members step s (commaSeparated (members.map writeMember) ++ '\x7d' :: rest) =
      .ok (s', '\x7d' :: rest) := by
  rw [Reader.members, get_bind]
  cases h with
  | nil => rfl
  | cons hmember hmembers =>
    rename_i s₁ name text members
    have hfollows : Follows (tailOf (members.map writeMember) ('\x7d' :: rest)) :=
      follows_tailOf _ (follows_cons (.inr (.inr rfl)) rest)
    have hlength := length_le_length_tailOf (members.map writeMember) '\x7d' rest
    rw [List.map_cons, commaSeparated_cons_append, writeMember, List.append_assoc]
    generalize htail : tailOf (members.map writeMember) ('\x7d' :: rest) = tail at *
    have hstep (fuel : List Char) : membersFrom step ('"' :: fuel) true s
        (writeString name ++ (':' :: text ++ tail)) = membersFrom step fuel false s₁ tail := by
      rw [membersFrom, bind_of_ok (memberName_first name _)]
      change (step s name >>= fun s => membersFrom step fuel false s) _ = _
      rw [bind_of_ok (hmember _ hfollows)]
    have hfuel : members.length <
        (name.toList.flatMap writeChar ++ '"' :: (':' :: text ++ tail)).length := by
      rw [List.length_map] at hlength
      simp only [List.length_append, List.length_cons]
      omega
    have hlast := membersFrom_tailOf hmembers _ rest hfuel
    rw [htail] at hlast
    calc membersFrom step (writeString name ++ (':' :: text ++ tail)) true s
          (writeString name ++ (':' :: text ++ tail))
        = membersFrom step ('"' :: (name.toList.flatMap writeChar ++ '"' :: (':' :: text ++ tail)))
            true s (writeString name ++ (':' :: text ++ tail)) := by rw [← writeString_append]
      _ = .ok (s', '\x7d' :: rest) := by rw [hstep, hlast]

end WorkloadAuth.Json
