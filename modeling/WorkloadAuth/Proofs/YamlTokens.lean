import Mathlib.Logic.Relation
import WorkloadAuth.Proofs.YamlNodes
import WorkloadAuth.Proofs.YamlScalars

/-!
# JSON text as YAML tokens

JSON text without blanks is a YAML text in which no block is started: all of it stands in brackets,
and the name of a member is short enough for a key.

* `Lexer.At`: a lexer inside of such a text; `Lexer.Step`: one token more.
* `Lexer.exists_step_open`, `Lexer.exists_step_close`, `Lexer.exists_step_comma`,
  `Lexer.exists_step_string`, `Lexer.exists_step_decimal`, `Lexer.exists_reaches_name`: the steps.
* `Lexer.run?_eq_none_of_string`: the one place where the lexer can fail.
* `Lexer.Lexes`: the tokens of some part of the text, in front of whatever may follow it;
  `Lexer.lexes_array`, `Lexer.lexes_object`: parts in brackets.
* `Lexer.run?_start`: the tokens of a text as a whole.
-/

namespace WorkloadAuth.Yaml

/-! ## Places -/

namespace Cursor

variable {cursor : Cursor} {rest : List Char}

theorem rest_next {c : Char} (h : cursor.rest = c :: rest) : cursor.next.rest = rest := by
  simp only [next, h]
  split <;> rfl

theorem rest_skip (text : List Char) (h : cursor.rest = text ++ rest) :
    (cursor.skip text.length).rest = rest := by
  induction text generalizing cursor with
  | nil => exact h
  | cons c text ih => exact ih (rest_next h)

theorem upTo_eq_skip (text : List Char) (h : cursor.rest = text ++ rest) :
    cursor.upTo rest = cursor.skip text.length := by
  rw [upTo, h, List.length_append, Nat.add_sub_cancel]

/-- A text without breaks is passed on one line. -/
theorem skip_of_unbroken (text : List Char) (h : cursor.rest = text ++ rest)
    (hbreak : ∀ c ∈ text, isBreak c = false) :
    cursor.skip text.length =
      ⟨rest, cursor.index + text.length, cursor.line, cursor.column + text.length⟩ := by
  induction text generalizing cursor with
  | nil =>
    obtain ⟨rest', index, line, column⟩ := cursor
    rw [show rest' = rest from h]
    rfl
  | cons c text ih =>
    obtain ⟨hc, htext⟩ := List.forall_mem_cons.1 hbreak
    have hnext : cursor.next =
        ⟨text ++ rest, cursor.index + 1, cursor.line, cursor.column + 1⟩ := by
      simp [next, h, hc]
    rw [List.length_cons, skip, hnext, ih rfl htext]
    simp only [Cursor.mk.injEq, true_and]
    omega

end Cursor

namespace Lexer

variable {l l' : Lexer} {depth : Nat} {found : List Token} {c : Char} {rest : List Char}
  {s : String}

/-! ## Places in a JSON text -/

/-- A lexer in a text of brackets alone: where it stands, how many brackets are open there, and the
tokens so far. No block has been started, and no key is required. -/
structure At (l : Lexer) (depth : Nat) (found : List Token) (rest : List Char) : Prop where
  rest_eq : l.cursor.rest = rest
  found_eq : l.found = found
  depth_eq : l.enclosing.length = depth
  key_optional : ∀ k ∈ l.key, k.required = false
  enclosing_optional : ∀ key ∈ l.enclosing, ∀ k ∈ key, k.required = false
  indent_eq : l.indent = -1
  outer_eq : l.outer = []

/-- One token is found, and something of the text is passed. -/
structure Step (l l' : Lexer) : Prop where
  shorter : l'.cursor.rest.length < l.cursor.rest.length
  run?_eq : ∀ fuel, run? (fuel + 1) l = run? fuel l'

theorem inFlow_iff (h : l.At depth found rest) : l.inFlow = true ↔ depth ≠ 0 := by
  rw [← h.depth_eq, inFlow, Bool.not_eq_true', List.isEmpty_eq_false_iff, Ne, Ne,
    List.length_eq_zero_iff]

/-- Where no block has been started, none ends. -/
theorem closeBlocks_eq (h : l.At depth found rest) (column : Int) : l.closeBlocks column = l := by
  unfold closeBlocks
  rw [h.outer_eq]
  split
  · rfl
  · simp only [closeBlocksFrom, ← h.outer_eq]

/-- A key that is not required may be dropped. -/
theorem exists_fresh? (cursor : Cursor) {key : Option PossibleKey}
    (h : ∀ k ∈ key, k.required = false) :
    ∃ key', fresh? cursor key = some key' ∧ ∀ k ∈ key', k.required = false := by
  cases key with
  | none => exact ⟨none, rfl, nofun⟩
  | some k =>
    have hk : k.required = false := h k rfl
    by_cases hstale : k.line < cursor.line ∨ k.index + keyLimit < cursor.index
    · refine ⟨none, ?_, nofun⟩
      rw [fresh?, if_pos hstale, hk]
      rfl
    · exact ⟨some k, if_neg hstale, h⟩

theorem exists_mapM_fresh? (cursor : Cursor) {keys : List (Option PossibleKey)}
    (h : ∀ key ∈ keys, ∀ k ∈ key, k.required = false) :
    ∃ keys', keys.mapM (fresh? cursor) = some keys' ∧ keys'.length = keys.length ∧
      ∀ key ∈ keys', ∀ k ∈ key, k.required = false := by
  induction keys with
  | nil => exact ⟨[], rfl, rfl, h⟩
  | cons key keys ih =>
    obtain ⟨hkey, hkeys⟩ := List.forall_mem_cons.1 h
    obtain ⟨key', hfresh, hoptional⟩ := exists_fresh? cursor hkey
    obtain ⟨keys', hmapM, hlength, hoptionals⟩ := ih hkeys
    refine ⟨key' :: keys', ?_, by rw [List.length_cons, List.length_cons, hlength],
      List.forall_mem_cons.2 ⟨hoptional, hoptionals⟩⟩
    rw [List.mapM_cons, hfresh, hmapM]
    rfl

/-- A character that is passed in front of a token. -/
def isPassed (c : Char) : Bool := isBlank c || isBreak c || c == '#' || c == Char.ofNat 0xfeff

/-- In front of a token there is nothing to pass. -/
theorem skipBlanks_eq (hrest : l.cursor.rest = c :: rest) (hc : isPassed c = false) (fuel : Nat) :
    l.skipBlanks (fuel + 1) = l := by
  simp only [isPassed, Bool.or_eq_false_iff, isBlank] at hc
  obtain ⟨⟨⟨⟨hspace, htab⟩, hbreak⟩, hcomment⟩, hmark⟩ := hc
  have hskip : l.skipMark = l := by
    simp only [skipMark, hrest, startsWith, List.head?_cons]
    rw [if_neg (by simpa using fun _ => beq_eq_false_iff_ne.1 hmark)]
  have hupTo : l.upTo (c :: rest) = l := by
    simp [upTo, Cursor.upTo, hrest, Cursor.skip]
  unfold skipBlanks
  simp [hskip, hrest, hspace, htab, startsWith, beq_eq_false_iff_ne.1 hcomment, hupTo, hbreak]

/-- What may change in front of a token: stale keys are dropped. -/
structure Settles (l s : Lexer) : Prop where
  cursor_eq : s.cursor = l.cursor
  keyAllowed_eq : s.keyAllowed = l.keyAllowed
  fresh?_eq : fresh? l.cursor l.key = some s.key

theorem exists_dropStale? (h : l.At depth found rest) :
    ∃ s, l.dropStale? = some s ∧ s.At depth found rest ∧ l.Settles s := by
  obtain ⟨key, hkey, hoptional⟩ := exists_fresh? l.cursor h.key_optional
  obtain ⟨enclosing, henclosing, hlength, hoptionals⟩ :=
    exists_mapM_fresh? l.cursor h.enclosing_optional
  refine ⟨{ l with key := key, enclosing := enclosing }, ?_, ?_, rfl, rfl, hkey⟩
  · rw [dropStale?, henclosing, hkey]
    rfl
  · exact { h with
      depth_eq := hlength.trans h.depth_eq
      key_optional := hoptional
      enclosing_optional := hoptionals }

/-- In front of a token stale keys are dropped, and nothing else changes. -/
theorem exists_settle? (h : l.At depth found (c :: rest)) (hc : isPassed c = false) :
    ∃ s, l.settle? = some s ∧ s.At depth found (c :: rest) ∧ l.Settles s := by
  obtain ⟨s, hdrop, hat, hsettles⟩ := exists_dropStale? h
  refine ⟨s, ?_, hat, hsettles⟩
  rw [settle?, skipBlanks_eq h.rest_eq hc, hdrop]
  exact congrArg some (closeBlocks_eq hat _)

/-- A step of a run, once what stands in front of the next token is passed over. -/
theorem run?_of_settle? {s : Lexer} (hsettle : l.settle? = some s)
    (hrest : s.cursor.rest = c :: rest) (fuel : Nat) :
    run? (fuel + 1) l = (s.token? c rest).bind (run? fuel) := by
  simp only [run?, Option.bind_eq_bind, hsettle, Option.bind_some, hrest]

/-- A token that starts behind what is passed is one step. -/
theorem exists_step {P : Lexer → Prop} (h : l.At depth found (c :: rest))
    (hc : isPassed c = false)
    (htoken : ∀ s : Lexer, s.At depth found (c :: rest) → l.Settles s →
      ∃ l', s.token? c rest = some l' ∧ P l' ∧ l'.cursor.rest.length ≤ rest.length) :
    ∃ l', l.Step l' ∧ P l' := by
  obtain ⟨s, hsettle, hat, hsettles⟩ := exists_settle? h hc
  obtain ⟨l', htoken, hP, hlength⟩ := htoken s hat hsettles
  refine ⟨l', ⟨?_, fun fuel => ?_⟩, hP⟩
  · rw [h.rest_eq, List.length_cons]
    omega
  · rw [run?_of_settle? hsettle hat.rest_eq, htoken, Option.bind_some]

/-! ## Parts of steps -/

namespace At

theorem emit (h : l.At depth found rest) (token : Token) :
    (l.emit token).At depth (token :: found) rest :=
  { h with found_eq := congrArg (token :: ·) h.found_eq }

theorem allowKey (h : l.At depth found rest) (allowed : Bool) :
    (l.allowKey allowed).At depth found rest := { h with }

theorem skip (h : l.At depth found (c :: rest)) : (l.skip 1).At depth found rest :=
  { h with rest_eq := Cursor.rest_next h.rest_eq }

theorem upTo {text : List Char} (h : l.At depth found (text ++ rest)) :
    (l.upTo rest).At depth found rest := by
  have hrest : (l.cursor.upTo rest).rest = rest := by
    rw [Cursor.upTo_eq_skip text h.rest_eq, Cursor.rest_skip text h.rest_eq]
  exact { h with rest_eq := hrest }

theorem setKey (h : l.At depth found rest) {key : Option PossibleKey}
    (hkey : ∀ k ∈ key, k.required = false) : { l with key := key }.At depth found rest :=
  { h with key_optional := hkey }

/-- A bracket that opens has the possible key around it. -/
theorem openFlow (h : l.At depth found rest) :
    { l with key := none, enclosing := l.key :: l.enclosing }.At (depth + 1) found rest :=
  { h with
    depth_eq := congrArg (· + 1) h.depth_eq
    key_optional := nofun
    enclosing_optional := List.forall_mem_cons.2 ⟨h.key_optional, h.enclosing_optional⟩ }

/-- A key may be dropped here. -/
theorem dropKey?_eq (h : l.At depth found rest) : l.dropKey? = some { l with key := none } := by
  obtain ⟨cursor, found, indent, outer, keyAllowed, key, enclosing⟩ := l
  cases key with
  | none => rfl
  | some k =>
    have hoptional : k.required = false := h.key_optional k rfl
    simp [dropKey?, hoptional]

/-- The next token may be saved as a key, which is not required. -/
theorem exists_saveKey? (h : l.At depth found rest) :
    ∃ s, l.saveKey? = some s ∧ s.At depth found rest ∧ s.cursor = l.cursor ∧
      (l.keyAllowed = true → s.key =
        some ⟨false, found.length, l.cursor.index, l.cursor.line, l.cursor.column⟩) := by
  have hindent : (l.indent == (l.cursor.column : Int)) = false := by
    rw [h.indent_eq, beq_eq_false_iff_ne]
    omega
  by_cases hallowed : l.keyAllowed = true
  · let key : PossibleKey :=
      ⟨false, l.found.length, l.cursor.index, l.cursor.line, l.cursor.column⟩
    refine ⟨{ l with key := key }, ?_, h.setKey ?_, rfl, fun _ => by rw [← h.found_eq]⟩
    · rw [saveKey?, if_pos hallowed, h.dropKey?_eq, hindent, Bool.and_false]
      rfl
    · rintro k ⟨⟩
      rfl
  · exact ⟨l, if_neg hallowed, h, rfl, fun hkey => absurd hkey hallowed⟩

end At

/-! ## Steps -/

/-- A bracket opens. -/
theorem exists_step_open (h : l.At depth found (c :: rest)) (hc : isPassed c = false)
    {token : Token} (htoken : ∀ s : Lexer, s.token? c rest = s.openFlow? token) :
    ∃ l', l.Step l' ∧ l'.At (depth + 1) (token :: found) rest ∧ l'.keyAllowed = true := by
  refine exists_step h hc fun s hs _ => ?_
  obtain ⟨k, hsave, hk, -⟩ := hs.exists_saveKey?
  have hopened := ((hk.openFlow.allowKey true).skip).emit token
  refine ⟨_, ?_, ⟨hopened, rfl⟩, Nat.le_of_eq (congrArg List.length hopened.rest_eq)⟩
  rw [htoken, openFlow?, hsave]
  rfl

/-- A bracket closes. -/
theorem exists_step_close (h : l.At (depth + 1) found (c :: rest)) (hc : isPassed c = false)
    {token : Token} (htoken : ∀ s : Lexer, s.token? c rest = s.closeFlow? token) :
    ∃ l', l.Step l' ∧ l'.At depth (token :: found) rest := by
  refine exists_step h hc fun s hs _ => ?_
  obtain ⟨key, enclosing, henclosing⟩ := List.exists_cons_of_length_eq_add_one hs.depth_eq
  have hclosed : ({ s with key := key, enclosing := enclosing } : Lexer).At depth found
      (c :: rest) := by
    have hlength := hs.depth_eq
    have hoptional := hs.enclosing_optional
    rw [henclosing] at hlength hoptional
    obtain ⟨hkey, hothers⟩ := List.forall_mem_cons.1 hoptional
    exact { hs with
      depth_eq := Nat.succ.inj hlength
      key_optional := hkey
      enclosing_optional := hothers }
  have hnext := ((hclosed.allowKey false).skip).emit token
  refine ⟨_, ?_, hnext, Nat.le_of_eq (congrArg List.length hnext.rest_eq)⟩
  rw [htoken, closeFlow?, hs.dropKey?_eq]
  simp only [Option.bind_eq_bind, Option.bind_some, henclosing]

/-- A comma. -/
theorem exists_step_comma (h : l.At depth found (',' :: rest)) :
    ∃ l', l.Step l' ∧ l'.At depth (.flowEntry :: found) rest ∧ l'.keyAllowed = true := by
  refine exists_step h rfl fun s hs _ => ?_
  have hdropped : { s with key := none }.At depth found (',' :: rest) := hs.setKey nofun
  have hnext := ((hdropped.allowKey true).skip).emit .flowEntry
  refine ⟨_, ?_, ⟨hnext, rfl⟩, Nat.le_of_eq (congrArg List.length hnext.rest_eq)⟩
  rw [show s.token? ',' rest = s.flowEntry? by simp [token?, startsMarker], flowEntry?,
    hs.dropKey?_eq]
  rfl

theorem token?_quote : l.token? '"' rest = l.quotedScalar? .doubleQuoted := by
  simp [token?, startsMarker]

/-- Behind the quote there is what YAML takes from the string. -/
theorem doubleQuoted_tail (h : l.At depth found (Json.writeString s ++ rest)) :
    doubleQuoted .text false .none l.cursor.rest.tail =
      (reread? false .none s.toList).map fun text => (text, rest) := by
  rw [h.rest_eq, Json.writeString_append, List.tail_cons, doubleQuoted_flatMap]

/-- A string that YAML can take is a scalar. Where a key is allowed it is saved as one. -/
theorem exists_step_string (h : l.At depth found (Json.writeString s ++ rest)) {text : List Char}
    (hs : reread? false .none s.toList = some text) :
    ∃ l', l.Step l' ∧ l'.At depth (.scalar .doubleQuoted (String.ofList text) :: found) rest ∧
      l'.cursor = l.cursor.upTo rest ∧
      (l.keyAllowed = true → l'.key =
        some ⟨false, found.length, l.cursor.index, l.cursor.line, l.cursor.column⟩) := by
  have hquote := h
  rw [Json.writeString_append] at hquote
  refine exists_step hquote rfl fun k hk hsettles => ?_
  rw [← Json.writeString_append] at hk
  obtain ⟨saved, hsave, hat, hcursor, hkey⟩ := hk.exists_saveKey?
  have hnext := ((hat.allowKey false).upTo).emit (.scalar .doubleQuoted (String.ofList text))
  refine ⟨_, ?_, ⟨hnext, ?_, fun hallowed => ?_⟩, ?_⟩
  · rw [token?_quote, quotedScalar?, hsave]
    simp only [Option.bind_eq_bind, Option.bind_some, doubleQuoted_tail hat, hs, Option.map_some]
  · show saved.cursor.upTo rest = _
    rw [hcursor, hsettles.cursor_eq]
  · show saved.key = _
    rw [hkey (hsettles.keyAllowed_eq.trans hallowed), hsettles.cursor_eq]
  · rw [hnext.rest_eq, List.length_append, List.length_cons]
    omega

/-- At a string that YAML cannot take there is no token. -/
theorem run?_eq_none_of_string (h : l.At depth found (Json.writeString s ++ rest))
    (hs : reread? false .none s.toList = none) (fuel : Nat) : run? fuel l = none := by
  cases fuel with
  | zero => rfl
  | succ fuel =>
    have hquote := h
    rw [Json.writeString_append] at hquote
    obtain ⟨k, hsettle, hk, -⟩ := exists_settle? hquote rfl
    have hrest := hk.rest_eq
    rw [← Json.writeString_append] at hk
    obtain ⟨saved, hsave, hat, -, -⟩ := hk.exists_saveKey?
    have htoken (rest' : List Char) : k.token? '"' rest' = none := by
      rw [token?_quote, quotedScalar?, hsave]
      simp only [Option.bind_eq_bind, Option.bind_some, doubleQuoted_tail hat, hs, Option.map_none,
        Option.bind_none]
    rw [run?_of_settle? hsettle hrest, htoken, Option.bind_none]

/-- The characters by which tokens other than plain scalars are told. -/
def telling : List Char :=
  ['%', '-', '.', '[', ']', '\x7b', '\x7d', ',', '?', ':', '*', '&', '!', '|', '>', '\'', '"']

theorem not_telling_of_isDigit {d : Char} (hd : Text.isDigit d = true) :
    telling.contains d = false := by
  simpa using Text.forall_isDigit (p := fun d => !telling.contains d) (by decide) hd

theorem not_indicator_of_isDigit {d : Char} (hd : Text.isDigit d = true) :
    indicators.contains d = false := by
  simpa using Text.forall_isDigit (p := fun d => !indicators.contains d) (by decide) hd

/-- A digit starts a plain scalar, and nothing else. -/
theorem token?_digit {d : Char} (hd : Text.isDigit d = true) :
    l.token? d rest = l.plainScalar? := by
  have hne := not_telling_of_isDigit hd
  simp only [telling, List.contains_cons, Bool.or_eq_false_iff] at hne
  have hmarker : startsMarker (d :: rest) = false := by
    rw [Bool.eq_false_iff, Ne, startsMarker_iff]
    rintro ⟨m, more, hm, heq, -⟩
    obtain ⟨rfl, -⟩ := List.cons.inj heq
    rcases hm with rfl | rfl
    · exact absurd hne.2.1 (by decide)
    · exact absurd hne.2.2.1 (by decide)
  have hplain : startsPlain l.inFlow d rest = true := by
    rw [startsPlain, not_indicator_of_isDigit hd]
    rfl
  simp only [token?, hne, hmarker, hplain, Bool.and_false, Bool.false_and, Bool.false_eq_true,
    if_false, if_true]

theorem isPassed_of_isDigit {d : Char} (hd : Text.isDigit d = true) : isPassed d = false := by
  simpa using Text.forall_isDigit (p := fun d => !isPassed d) (by decide) hd

/-- A number is a plain scalar. -/
theorem exists_step_decimal {n : Nat} (h : l.At (depth + 1) found (Text.decimal n ++ rest))
    (hrest : Json.Follows rest) :
    ∃ l', l.Step l' ∧
      l'.At (depth + 1) (.scalar .plain (String.ofList (Text.decimal n)) :: found) rest := by
  obtain ⟨d, digits, hdecimal, hd⟩ := Json.exists_decimal_eq_cons n
  have hdigit := h
  rw [hdecimal, List.cons_append] at hdigit
  refine exists_step hdigit (isPassed_of_isDigit hd) fun k hk _ => ?_
  rw [← List.cons_append, ← hdecimal] at hk
  obtain ⟨saved, hsave, hat, -, -⟩ := hk.exists_saveKey?
  have hplain : plain saved.inFlow (saved.indent + 1).toNat saved.cursor.column .none
      saved.cursor.rest = some ((Text.decimal n, false), rest) := by
    rw [(inFlow_iff hat).2 (Nat.succ_ne_zero depth), hat.rest_eq]
    exact plain_digits (fun _ => Text.isDigit_of_mem_decimal) hrest _ _
  have hnext := ((hat.allowKey false).upTo).emit
    (.scalar .plain (String.ofList (Text.decimal n)))
  refine ⟨_, ?_, hnext, ?_⟩
  · rw [token?_digit hd, plainScalar?, hsave]
    simp only [Option.bind_eq_bind, Option.bind_some, hplain]
  · rw [hnext.rest_eq, List.length_append]
    omega

/-! ## Names -/

/-- The name of a member that is written as it is, and short enough for a key. -/
structure PlainName (name : String) : Prop where
  plain : ∀ c ∈ name.toList, isNameChar c = true
  short : name.toList.length + 2 ≤ keyLimit

instance (name : String) : Decidable (PlainName name) :=
  decidable_of_iff (name.toList.all isNameChar = true ∧ name.toList.length + 2 ≤ keyLimit)
    ⟨fun h => ⟨List.all_eq_true.1 h.1, h.2⟩, fun h => ⟨List.all_eq_true.2 h.plain, h.short⟩⟩

theorem toNat_of_isNameChar (h : isNameChar c = true) :
    45 ≤ c.toNat ∧ c.toNat ≤ 122 ∧ c.toNat ≠ 92 := by
  simp only [isNameChar, Char.isAlphanum, Text.isAlpha_iff, Char.isDigit, Bool.or_eq_true,
    Bool.and_eq_true, decide_eq_true_eq, beq_iff_eq, ge_iff_le, UInt32.le_iff_toNat_le,
    Char.reduceVal, UInt32.reduceToNat] at h
  have hval : c.toNat = c.val.toNat := rfl
  rcases h with (((h | h) | h) | rfl) | rfl
  · omega
  · omega
  · omega
  · decide
  · decide

theorem isLoose_of_isNameChar (h : isNameChar c = true) : isLoose c = false := by
  have hrange := toNat_of_isNameChar h
  have hne {d : Char} (hd : d.toNat < 45 ∨ 122 < d.toNat) : (c == d) = false := by
    rw [beq_eq_false_iff_ne]
    rintro rfl
    omega
  simp [isLoose, isSeparator, hne (d := ' ') (by decide), hne (d := nextLine) (by decide),
    hne (d := lineSeparator) (by decide), hne (d := paragraphSeparator) (by decide)]

theorem writeChar_of_isNameChar (h : isNameChar c = true) : Json.writeChar c = [c] := by
  have hrange := toNat_of_isNameChar h
  refine writeChar_of_plain ?_ ?_ (by omega)
  · rintro rfl
    exact absurd hrange (by decide)
  · rintro rfl
    exact absurd hrange (by decide)

theorem isBreak_of_isNameChar (h : isNameChar c = true) : isBreak c = false := by
  have hrange := toNat_of_isNameChar h
  have hloose := isLoose_of_isNameChar h
  rw [isLoose, Bool.or_assoc, Bool.or_eq_false_iff] at hloose
  rw [isBreak_of_plain (by omega), hloose.2]

namespace PlainName

variable {name : String}

theorem reread?_eq (h : PlainName name) :
    reread? false .none name.toList = some name.toList :=
  reread?_eq_some_iff.2 fun c more hmore =>
    stays_solid (isLoose_of_isNameChar (h.plain c (hmore.subset List.mem_cons_self))) more

theorem writeString_eq (h : PlainName name) :
    Json.writeString name = '"' :: (name.toList ++ ['"']) := by
  have hplain : name.toList.flatMap Json.writeChar = name.toList := by
    rw [List.flatMap_congr fun c hc => writeChar_of_isNameChar (h.plain c hc),
      List.flatMap_singleton']
  rw [Json.writeString, hplain]
  rfl

/-- The text of a name is on one line. -/
theorem unbroken (h : PlainName name) : ∀ c ∈ Json.writeString name, isBreak c = false := by
  rw [h.writeString_eq]
  intro c hc
  simp only [List.mem_cons, List.mem_append, List.not_mem_nil, or_false] at hc
  rcases hc with rfl | hc | rfl
  · decide
  · exact isBreak_of_isNameChar (h.plain c hc)
  · decide

theorem length_writeString_le (h : PlainName name) :
    (Json.writeString name).length ≤ keyLimit := by
  have hshort := h.short
  rw [h.writeString_eq, List.length_cons, List.length_append, List.length_singleton]
  omega

end PlainName

theorem token?_colon (h : l.inFlow = true) : l.token? ':' rest = l.valueMark? := by
  simp [token?, startsMarker, h]

/-- The colon behind a name makes a key of it. -/
theorem exists_valueMark? {scalar : Token} (h : l.At (depth + 1) (scalar :: found) (c :: rest))
    {key : PossibleKey} (hkey : l.key = some key) (htokens : key.tokens = found.length) :
    ∃ l', l.valueMark? = some l' ∧
      l'.At (depth + 1) (.value :: scalar :: .key :: found) rest := by
  have hflow : l.inFlow = true := (inFlow_iff h).2 (Nat.succ_ne_zero depth)
  have hinsert : l.insert key.tokens .key = { l with found := scalar :: .key :: found } := by
    rw [insert, h.found_eq, htokens, List.length_cons, Nat.add_sub_cancel_left]
    rfl
  have hopen : (l.insert key.tokens .key).openBlock key.column key.tokens .blockMappingStart =
      { l with found := scalar :: .key :: found } := by
    have hinside : ({ l with found := scalar :: .key :: found } : Lexer).inFlow = true := hflow
    rw [hinsert, openBlock, hinside]
    rfl
  have hat : ({ l with found := scalar :: .key :: found, key := none } : Lexer).At (depth + 1)
      (scalar :: .key :: found) (c :: rest) := { h with found_eq := rfl, key_optional := nofun }
  refine ⟨_, ?_, ((hat.allowKey false).skip).emit .value⟩
  rw [valueMark?, hkey]
  simp only [hopen]

/-- One lexer leads to another one in some steps. -/
abbrev Reaches : Lexer → Lexer → Prop := Relation.ReflTransGen Step

/-- A name and the colon behind it are two steps, where a key is allowed. -/
theorem exists_reaches_name {name : String} (hname : PlainName name)
    (h : l.At (depth + 1) found (Json.writeString name ++ ':' :: rest))
    (hallowed : l.keyAllowed = true) :
    ∃ l', l.Reaches l' ∧
      l'.At (depth + 1) (.value :: .scalar .doubleQuoted name :: .key :: found) rest := by
  obtain ⟨l₁, hstep₁, hat₁, hcursor₁, hkey₁⟩ := exists_step_string h hname.reread?_eq
  rw [String.ofList_toList] at hat₁
  -- The key that was saved at the quote is not stale at the colon, as the name is short and on one
  -- line.
  obtain ⟨l₂, hstep₂, hat₂⟩ := exists_step hat₁ rfl fun s hs hsettles => by
    have hfresh : s.key = some ⟨false, found.length, l.cursor.index, l.cursor.line,
        l.cursor.column⟩ := by
      have hcursor := Cursor.skip_of_unbroken _ h.rest_eq hname.unbroken
      rw [← Cursor.upTo_eq_skip _ h.rest_eq, ← hcursor₁] at hcursor
      have hshort := hname.length_writeString_le
      have hkept := hsettles.fresh?_eq
      rw [hkey₁ hallowed, fresh?, if_neg (by rw [hcursor]; simp only; omega)] at hkept
      exact (Option.some.inj hkept).symm
    obtain ⟨l', hvalue, hat'⟩ := exists_valueMark? hs hfresh rfl
    exact ⟨l', (token?_colon ((inFlow_iff hs).2 (Nat.succ_ne_zero depth))).trans hvalue, hat',
      Nat.le_of_eq (congrArg List.length hat'.rest_eq)⟩
  exact ⟨l₂, .tail (.single hstep₁) hstep₂, hat₂⟩

/-! ## Values -/

/-- A lexer finds some tokens, and stands in front of a text then; or it fails. -/
def Leads (l : Lexer) (depth : Nat) (found : List Token) (rest : List Char) :
    Option (List Token) → Prop
  | some tokens => ∃ l', l.Reaches l' ∧ l'.At depth (tokens.reverse ++ found) rest
  | none => ∀ fuel, run? fuel l = none

/-- A lexer fails if one does that it leads to. -/
theorem run?_eq_none_of_reaches (h : l.Reaches l') (hnone : ∀ fuel, run? fuel l' = none)
    (fuel : Nat) : run? fuel l = none := by
  induction h using Relation.ReflTransGen.head_induction_on generalizing fuel with
  | refl => exact hnone fuel
  | head hstep _ ih =>
    cases fuel with
    | zero => rfl
    | succ fuel => rw [hstep.run?_eq, ih]

/-- More tokens behind the first ones. -/
theorem Leads.of_reaches (h : l.Reaches l') {tokens : List Token} {more : Option (List Token)}
    (hmore : l'.Leads depth (tokens.reverse ++ found) rest more) :
    l.Leads depth found rest (more.map (tokens ++ ·)) := by
  cases more with
  | none => exact run?_eq_none_of_reaches h hmore
  | some more =>
    obtain ⟨l₂, hreaches, hat⟩ := hmore
    refine ⟨l₂, h.trans hreaches, ?_⟩
    rw [List.reverse_append, List.append_assoc]
    exact hat

theorem Leads.bind {middle : List Char} {tokens more : Option (List Token)}
    (h : l.Leads depth found middle tokens)
    (hmore : ∀ l' found', At l' depth found' middle → l'.Leads depth found' rest more) :
    l.Leads depth found rest (do some ((← tokens) ++ (← more))) := by
  cases tokens with
  | none => exact h
  | some tokens =>
    obtain ⟨l', hreaches, hat⟩ := h
    have hleads := Leads.of_reaches hreaches (hmore l' _ hat)
    cases more <;> exact hleads

/-- Some text is lexed as some tokens inside of brackets, whatever may follow it; or the lexer
fails there. Where `ready` is set, this only holds where a key is allowed. -/
def Lexes (ready : Bool) (depth : Nat) (text : List Char) (tokens : Option (List Token)) : Prop :=
  ∀ l found rest, At l depth found (text ++ rest) → Json.Follows rest →
    (ready = true → l.keyAllowed = true) → l.Leads depth found rest tokens

theorem Lexes.ready {text : List Char} {tokens : Option (List Token)}
    (h : Lexes false depth text tokens) : Lexes true depth text tokens :=
  fun l found rest hat hrest _ => h l found rest hat hrest nofun

theorem lexes_string (s : String) :
    Lexes false depth (Json.writeString s)
      ((reread? false .none s.toList).map fun text =>
        [.scalar .doubleQuoted (String.ofList text)]) := by
  intro l found rest hat _ _
  cases hs : reread? false .none s.toList with
  | none => exact run?_eq_none_of_string hat hs
  | some text =>
    obtain ⟨l', hstep, hat', -⟩ := exists_step_string hat hs
    exact ⟨l', .single hstep, hat'⟩

theorem lexes_decimal (n : Nat) :
    Lexes false (depth + 1) (Text.decimal n)
      (some [.scalar .plain (String.ofList (Text.decimal n))]) := by
  intro l found rest hat hrest _
  obtain ⟨l', hstep, hat'⟩ := exists_step_decimal hat hrest
  exact ⟨l', .single hstep, hat'⟩

/-- A member of an object, whose name makes a key. -/
theorem lexes_member {name : String} (hname : PlainName name) {text : List Char}
    {tokens : Option (List Token)} (h : Lexes false (depth + 1) text tokens) :
    Lexes true (depth + 1) (Json.writeMember (name, text))
      (tokens.map ([.key, .scalar .doubleQuoted name, .value] ++ ·)) := by
  intro l found rest hat hrest hready
  rw [Json.writeMember, List.append_assoc, List.cons_append] at hat
  obtain ⟨l', hreaches, hat'⟩ := exists_reaches_name hname hat (hready rfl)
  exact .of_reaches hreaches (h l' _ rest hat' hrest fun hname => absurd hname Bool.false_ne_true)

/-! ## Brackets -/

/-- Some tokens with commas between them, and in front of them unless they are the first ones. -/
def joined (first : Bool) : List (List Token) → List Token
  | [] => []
  | tokens :: more => Node.comma first ++ (tokens ++ joined false more)

/-- The tokens of all parts, if the lexer fails at none. -/
def joined? (first : Bool) (parts : List (Option (List Token))) : Option (List Token) :=
  (parts.mapM id).map (joined first)

theorem joined?_cons (first : Bool) (tokens : Option (List Token))
    (parts : List (Option (List Token))) :
    joined? first (tokens :: parts) =
      (do some ((← tokens) ++ (← joined? false parts))).map (Node.comma first ++ ·) := by
  unfold joined?
  rw [List.mapM_cons]
  cases tokens with
  | none => rfl
  | some tokens => cases parts.mapM id <;> rfl

/-- The parts behind the first one. -/
theorem leads_tailOf {parts : List (List Char)} {tokens : List (Option (List Token))}
    (h : List.Forall₂ (Lexes true depth) parts tokens) {closing : List Char}
    (hclosing : Json.Follows closing) (hat : l.At depth found (Json.tailOf parts closing)) :
    l.Leads depth found closing (joined? false tokens) := by
  induction h generalizing l found with
  | nil => exact ⟨l, .refl, hat⟩
  | cons hpart hparts ih =>
    rename_i part ts parts tss
    rw [Json.tailOf, Json.commaSeparated_cons_append] at hat
    obtain ⟨l₁, hstep, hat₁, hready⟩ := exists_step_comma hat
    have hfollows := Json.follows_tailOf parts hclosing
    have hleads : l₁.Leads depth ([Token.flowEntry].reverse ++ found) closing _ :=
      (hpart l₁ _ _ hat₁ hfollows fun _ => hready).bind fun l' found' hat' => ih hat'
    rw [joined?_cons]
    exact .of_reaches (.single hstep) hleads

/-- The parts between two brackets. -/
theorem leads_commaSeparated {parts : List (List Char)} {tokens : List (Option (List Token))}
    (h : List.Forall₂ (Lexes true depth) parts tokens) {closing : List Char}
    (hclosing : Json.Follows closing)
    (hat : l.At depth found (Json.commaSeparated parts ++ closing))
    (hready : l.keyAllowed = true) :
    l.Leads depth found closing (joined? true tokens) := by
  cases h with
  | nil => exact ⟨l, .refl, hat⟩
  | cons hpart hparts =>
    rename_i part ts parts tss
    rw [Json.commaSeparated_cons_append] at hat
    have hfollows := Json.follows_tailOf parts hclosing
    have hleads : l.Leads depth ([].reverse ++ found) closing _ :=
      (hpart l _ _ hat hfollows fun _ => hready).bind fun l' found' hat' =>
        leads_tailOf hparts hclosing hat'
    rw [joined?_cons]
    exact .of_reaches .refl hleads

/-- Parts in brackets. -/
theorem lexes_brackets {opening closing : Char} {start finish : Token}
    (hopening : isPassed opening = false) (hclosing : isPassed closing = false)
    (hopen : ∀ (s : Lexer) rest, s.token? opening rest = s.openFlow? start)
    (hclose : ∀ (s : Lexer) rest, s.token? closing rest = s.closeFlow? finish)
    (hfollows : ∀ rest, Json.Follows (closing :: rest)) {parts : List (List Char)}
    {tokens : List (Option (List Token))}
    (h : List.Forall₂ (Lexes true (depth + 1)) parts tokens) :
    Lexes false depth (opening :: (Json.commaSeparated parts ++ [closing]))
      ((joined? true tokens).map fun inner => start :: (inner ++ [finish])) := by
  intro l found rest hat _ _
  rw [List.cons_append, List.append_assoc, List.singleton_append] at hat
  obtain ⟨l₁, hstep₁, hat₁, hready⟩ := exists_step_open hat hopening (hopen · _)
  have hinner := leads_commaSeparated h (hfollows rest) hat₁ hready
  cases hjoined : joined? true tokens with
  | none =>
    rw [hjoined] at hinner
    exact run?_eq_none_of_reaches (.single hstep₁) hinner
  | some inner =>
    rw [hjoined] at hinner
    obtain ⟨l₂, hreaches, hat₂⟩ := hinner
    obtain ⟨l₃, hstep₃, hat₃⟩ := exists_step_close hat₂ hclosing (hclose · _)
    refine ⟨l₃, (Relation.ReflTransGen.single hstep₁).trans (hreaches.tail hstep₃), ?_⟩
    simpa using hat₃

theorem lexes_array {parts : List (List Char)} {tokens : List (Option (List Token))}
    (h : List.Forall₂ (Lexes true (depth + 1)) parts tokens) :
    Lexes false depth ('[' :: (Json.commaSeparated parts ++ [']']))
      ((joined? true tokens).map fun inner =>
        .flowSequenceStart :: (inner ++ [.flowSequenceEnd])) :=
  lexes_brackets rfl rfl (fun s rest => by simp [token?, startsMarker])
    (fun s rest => by simp [token?, startsMarker])
    (fun rest => Json.follows_cons (.inr (.inl rfl)) rest) h

theorem lexes_object {parts : List (List Char)} {tokens : List (Option (List Token))}
    (h : List.Forall₂ (Lexes true (depth + 1)) parts tokens) :
    Lexes false depth ('\x7b' :: (Json.commaSeparated parts ++ ['\x7d']))
      ((joined? true tokens).map fun inner =>
        .flowMappingStart :: (inner ++ [.flowMappingEnd])) :=
  lexes_brackets rfl rfl (fun s rest => by simp [token?, startsMarker])
    (fun s rest => by simp [token?, startsMarker])
    (fun rest => Json.follows_cons (.inr (.inr rfl)) rest) h

/-! ## Whole texts -/

theorem at_start (text : List Char) : (start text).At 0 [] text where
  rest_eq := rfl
  found_eq := rfl
  depth_eq := rfl
  key_optional := nofun
  enclosing_optional := nofun
  indent_eq := rfl
  outer_eq := rfl

theorem skipBlanks_nil (hrest : l.cursor.rest = []) (fuel : Nat) : l.skipBlanks (fuel + 1) = l := by
  have hskip : l.skipMark = l := by
    simp [skipMark, hrest, startsWith]
  have hupTo : l.upTo [] = l := by
    simp [upTo, Cursor.upTo, hrest, Cursor.skip]
  unfold skipBlanks
  simp [hskip, hrest, startsWith, hupTo]

/-- At the end of the text the tokens are complete. -/
theorem run?_of_end (h : l.At 0 found []) (fuel : Nat) :
    run? (fuel + 1) l = some found.reverse := by
  obtain ⟨s, hdrop, hat, -⟩ := exists_dropStale? h
  have hsettle : l.settle? = some s := by
    rw [settle?, skipBlanks_nil h.rest_eq, hdrop]
    exact congrArg some (closeBlocks_eq hat _)
  have hend : s.endBlocks? = some ({ s with key := none }.allowKey false) := by
    rw [endBlocks?, closeBlocks_eq hat, hat.dropKey?_eq]
    rfl
  have hrest : s.cursor.rest = [] := hat.rest_eq
  simp only [run?, Option.bind_eq_bind, hsettle, Option.bind_some, hrest, hend]
  rw [← hat.found_eq]
  rfl

/-- The steps between two lexers are no more than the characters between them. -/
theorem Reaches.run?_eq (h : l.Reaches l') :
    ∃ n, n + l'.cursor.rest.length ≤ l.cursor.rest.length ∧
      ∀ fuel, run? (fuel + n) l = run? fuel l' := by
  induction h using Relation.ReflTransGen.head_induction_on with
  | refl => exact ⟨0, by omega, fun _ => rfl⟩
  | head hstep _ ih =>
    obtain ⟨n, hlength, hrun⟩ := ih
    have := hstep.shorter
    exact ⟨n + 1, by omega, fun fuel => (hstep.run?_eq (fuel + n)).trans (hrun fuel)⟩

/-- The tokens of a text that is lexed as a whole. -/
theorem run?_start {text : List Char} {tokens : Option (List Token)}
    (h : Lexes false 0 text tokens) : run? (text.length + 1) (start text) = tokens := by
  have hleads := h (start text) [] [] (by rw [List.append_nil]; exact at_start text)
    Json.follows_nil nofun
  cases tokens with
  | none => exact hleads _
  | some tokens =>
    obtain ⟨l', hreaches, hat⟩ := hleads
    rw [List.append_nil] at hat
    obtain ⟨n, hlength, hrun⟩ := hreaches.run?_eq
    rw [hat.rest_eq] at hlength
    have hle : n ≤ text.length := hlength
    obtain ⟨fuel, hfuel⟩ : ∃ fuel, text.length + 1 = fuel + 1 + n := ⟨text.length - n, by omega⟩
    rw [hfuel, hrun, run?_of_end hat, List.reverse_reverse]

end Lexer

end WorkloadAuth.Yaml
