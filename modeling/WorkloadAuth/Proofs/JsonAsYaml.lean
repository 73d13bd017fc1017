import WorkloadAuth.Proofs.Digits
import WorkloadAuth.Proofs.JsonSchema
import WorkloadAuth.Proofs.YamlNodes
import WorkloadAuth.Proofs.YamlTokens
import WorkloadAuth.Yaml.Decode

/-!
# JSON text that is read as YAML

What a schema finds in the JSON text that it wrote, if that text is read as YAML. Brackets, numbers
and names are read as they were written. Only strings may be lost or changed.

* `Yaml.rereadText?`: what YAML takes from the JSON text of a string; `Yaml.Survives`: it is the
  string itself.
* `Yaml.Scans`, `Yaml.Yields`: the tokens and the node of some text, if there are any.
* `Shape.Rereadable`: the schemas that are considered here.
* `Shape.node?`: the node in the JSON text of a value; `Shape.reread?`: the value of this node.
* `Shape.ofYaml_toJson`: it is what the schema reads from the text.
-/

namespace WorkloadAuth

open Json Yaml
open Yaml.Lexer (PlainName Lexes joined joined? joined?_cons)

/-! ## Lists -/

section Lists

variable {α β γ : Type}

/-- What a list is mapped to is as its elements tell. -/
theorem forall_of_mapM {R : γ → α → Prop} {P : β → Prop} {f : α → Option β} {cs : List γ}
    {as : List α} {bs : List β} (h : List.Forall₂ R cs as) (hmapM : as.mapM f = some bs)
    (hP : ∀ c a b, R c a → f a = some b → P b) : ∀ b ∈ bs, P b := by
  induction h generalizing bs with
  | nil =>
    cases hmapM
    nofun
  | cons hfirst _ ih =>
    simp only [List.mapM_cons, Option.bind_eq_bind, Option.bind_eq_some_iff] at hmapM
    obtain ⟨b, hb, bs', hbs, heq⟩ := hmapM
    cases heq
    exact List.forall_mem_cons.2 ⟨hP _ _ b hfirst hb, ih hbs⟩

/-- A list is mapped twice at once. -/
theorem mapM_bind_mapM (f : α → Option β) (g : β → Option γ) (as : List α) :
    ((as.mapM f).bind fun bs => bs.mapM g) = as.mapM fun a => (f a).bind g := by
  induction as with
  | nil => rfl
  | cons a as ih =>
    rw [List.mapM_cons, List.mapM_cons, ← ih]
    cases f a with
    | none => rfl
    | some b =>
      cases as.mapM f with
      | none => cases hb : g b <;> simp [hb]
      | some bs => simp

theorem mapM_eq_self_iff (f : α → Option α) (as : List α) :
    as.mapM f = some as ↔ ∀ a ∈ as, f a = some a := by
  induction as with
  | nil => simp
  | cons a as ih => simp [List.mapM_cons, Option.bind_eq_some_iff, ih]

end Lists

namespace Yaml

/-! ## Strings -/

/-- Whether what JSON writes for a character may stand in a YAML text. JSON escapes control
characters only in front of the space; those behind it are written as they are. -/
def isWritable (c : Char) : Bool := decide (c.toNat < 0x20) || isAllowed c

theorem all_writeChar_of_control :
    ∀ n < 0x20, (writeChar (Char.ofNat n)).all isAllowed = true := by
  decide

theorem all_writeChar (c : Char) : (writeChar c).all isAllowed = isWritable c := by
  rcases writeChar_cases c with ⟨rfl | rfl | hcontrol, -⟩ | ⟨-, -, hplain, hwrite⟩
  · decide
  · decide
  · rw [isWritable, decide_eq_true hcontrol, ← Char.ofNat_toNat c]
    exact all_writeChar_of_control c.toNat hcontrol
  · rw [hwrite, isWritable, decide_eq_false (Nat.not_lt.2 hplain)]
    simp

theorem all_writeString (s : String) :
    (writeString s).all isAllowed = s.toList.all isWritable := by
  have hquote : isAllowed '"' = true := by decide
  simp [writeString, List.all_flatMap, all_writeChar, hquote]

/-- The text that YAML takes from the JSON text of a string, if it may stand there at all. -/
def rereadText? (s : String) : Option String :=
  if s.toList.all isWritable then (reread? false .none s.toList).map String.ofList else none

/-- A string survives in JSON text that is read as YAML: its characters may be written, and each is
taken as it is. -/
structure Survives (s : String) : Prop where
  writable : ∀ c ∈ s.toList, isWritable c = true
  stay : AllStay s.toList

theorem rereadText?_eq_some_iff {s : String} : rereadText? s = some s ↔ Survives s := by
  -- A string of which a character may not be written is lost as a whole.
  unfold rereadText?
  split
  · rename_i hall
    rw [List.all_eq_true] at hall
    rw [Option.map_eq_some_iff]
    constructor
    · rintro ⟨text, htext, rfl⟩
      rw [String.toList_ofList] at hall htext
      refine ⟨?_, ?_⟩ <;> rw [String.toList_ofList]
      · exact hall
      · exact reread?_eq_some_iff.1 htext
    · exact fun h => ⟨s.toList, reread?_eq_some_iff.2 h.stay, String.ofList_toList⟩
  · rename_i hall
    exact iff_of_false nofun fun h => hall (List.all_eq_true.2 h.writable)

example : rereadText? "a \u2028 b" = some "a\u2028b" := by decide +kernel

theorem Lexer.PlainName.survives {name : String} (h : PlainName name) : Survives name where
  writable c hc := by
    have hrange := Lexer.toNat_of_isNameChar (h.plain c hc)
    simp only [isWritable, isAllowed, Bool.or_eq_true, decide_eq_true_eq, Bool.and_eq_true]
    omega
  stay := reread?_eq_some_iff.1 h.reread?_eq

/-! ## Texts and their tokens -/

/-- The tokens of some text inside of brackets, if its characters may stand there and there are
any. -/
structure Scans (ready : Bool) (depth : Nat) (text : List Char) (tokens : Option (List Token)) :
    Prop where
  lexes : text.all isAllowed = true → Lexes ready depth text tokens
  allowed : tokens.isSome = true → text.all isAllowed = true

variable {depth : Nat}

theorem Scans.ready {text : List Char} {tokens : Option (List Token)}
    (h : Scans false depth text tokens) : Scans true depth text tokens where
  lexes hallowed := (h.lexes hallowed).ready
  allowed := h.allowed

theorem scans_string (s : String) :
    Scans false depth (writeString s)
      ((rereadText? s).map fun text => [.scalar .doubleQuoted text]) := by
  constructor
  · intro hallowed
    rw [all_writeString] at hallowed
    rw [rereadText?, if_pos hallowed, Option.map_map]
    exact Lexer.lexes_string s
  · intro hsome
    rw [Option.isSome_map, rereadText?] at hsome
    rw [all_writeString]
    split at hsome
    · assumption
    · cases hsome

theorem isAllowed_of_isDigit {d : Char} (h : Text.isDigit d = true) : isAllowed d = true :=
  Text.forall_isDigit (p := isAllowed) (by decide) h

theorem scans_decimal (n : Nat) :
    Scans false (depth + 1) (Text.decimal n)
      (some [.scalar .plain (String.ofList (Text.decimal n))]) where
  lexes _ := Lexer.lexes_decimal n
  allowed _ := List.all_eq_true.2 fun _ hd => isAllowed_of_isDigit (Text.isDigit_of_mem_decimal hd)

/-- A member of an object, whose name makes a key. -/
theorem scans_member {name : String} (hname : PlainName name) {text : List Char}
    {tokens : Option (List Token)} (h : Scans false (depth + 1) text tokens) :
    Scans true (depth + 1) (writeMember (name, text))
      (tokens.map ([.key, .scalar .doubleQuoted name, .value] ++ ·)) := by
  have hall : (writeMember (name, text)).all isAllowed = text.all isAllowed := by
    have hcolon : isAllowed ':' = true := by decide
    have hwritable : name.toList.all isWritable = true :=
      List.all_eq_true.2 hname.survives.writable
    rw [writeMember, List.all_append, List.all_cons, all_writeString, hwritable, hcolon,
      Bool.true_and, Bool.true_and]
  constructor
  · intro hallowed
    exact Lexer.lexes_member hname (h.lexes (hall.symm.trans hallowed))
  · intro hsome
    rw [Option.isSome_map] at hsome
    exact hall.trans (h.allowed hsome)

theorem all_commaSeparated (parts : List (List Char)) :
    (commaSeparated parts).all isAllowed = parts.all (·.all isAllowed) := by
  have hcomma : isAllowed ',' = true := by decide
  induction parts with
  | nil => rfl
  | cons part parts ih =>
    cases parts with
    | nil => simp [commaSeparated]
    | cons next parts =>
      rw [commaSeparated_cons_cons, List.all_append, List.all_cons, hcomma, Bool.true_and, ih]
      rfl

section Parts

variable {ready : Bool} {parts : List (List Char)} {tokens : List (Option (List Token))}

theorem forall₂_lexes (h : List.Forall₂ (Scans ready depth) parts tokens)
    (hall : ∀ part ∈ parts, part.all isAllowed = true) :
    List.Forall₂ (Lexes ready depth) parts tokens := by
  induction h with
  | nil => exact .nil
  | cons hpart _ ih =>
    obtain ⟨hfirst, hmore⟩ := List.forall_mem_cons.1 hall
    exact .cons (hpart.lexes hfirst) (ih hmore)

/-- Where all parts have tokens, their characters may stand in a text. -/
theorem allowed_of_joined? (h : List.Forall₂ (Scans ready depth) parts tokens) {first : Bool}
    (hsome : (joined? first tokens).isSome = true) :
    ∀ part ∈ parts, part.all isAllowed = true := by
  induction h generalizing first with
  | nil => nofun
  | cons hpart _ ih =>
    rename_i part ts parts tokens _
    rw [joined?_cons, Option.isSome_map] at hsome
    cases ts with
    | none => cases hsome
    | some ts =>
      cases hmore : joined? false tokens with
      | none =>
        rw [hmore] at hsome
        cases hsome
      | some more =>
        exact List.forall_mem_cons.2 ⟨hpart.allowed rfl, ih (Option.isSome_of_eq_some hmore)⟩

/-- Parts in brackets. -/
theorem scans_brackets {opening closing : Char} (hopening : isAllowed opening = true)
    (hclosing : isAllowed closing = true) {start finish : Token}
    (hlexes : List.Forall₂ (Lexes true (depth + 1)) parts tokens →
      Lexes false depth (opening :: (commaSeparated parts ++ [closing]))
        ((joined? true tokens).map fun inner => start :: (inner ++ [finish])))
    (h : List.Forall₂ (Scans true (depth + 1)) parts tokens) :
    Scans false depth (opening :: (commaSeparated parts ++ [closing]))
      ((joined? true tokens).map fun inner => start :: (inner ++ [finish])) := by
  have hall : (opening :: (commaSeparated parts ++ [closing])).all isAllowed = true ↔
      ∀ part ∈ parts, part.all isAllowed = true := by
    simp [hopening, hclosing, all_commaSeparated]
  constructor
  · intro hallowed
    exact hlexes (forall₂_lexes h (hall.1 hallowed))
  · intro hsome
    rw [Option.isSome_map] at hsome
    exact hall.2 (allowed_of_joined? h hsome)

end Parts

/-! ## Texts and their nodes -/

/-- The node of some text, if there is one. -/
structure Yields (depth : Nat) (text : List Char) (n? : Option Node) : Prop where
  scans : Scans false depth text (n?.map Node.tokens)
  inFlow : ∀ n, n? = some n → n.InFlow

/-- The node of a string. -/
def quoted (s : String) : Node := .scalar none .doubleQuoted s

theorem yields_string (s : String) : Yields depth (writeString s) ((rereadText? s).map quoted) where
  scans := by
    have htokens : Node.tokens ∘ quoted = fun text => [.scalar .doubleQuoted text] := by
      funext text
      simp [quoted, Node.tokens]
    rw [Option.map_map, htokens]
    exact scans_string s
  inFlow n hn := by
    obtain ⟨text, -, rfl⟩ := Option.map_eq_some_iff.1 hn
    exact .scalar _ _

/-- The node of a number. -/
def numeral (n : Nat) : Node := .scalar none .plain (String.ofList (Text.decimal n))

theorem yields_decimal (n : Nat) : Yields (depth + 1) (Text.decimal n) (some (numeral n)) where
  scans := by
    rw [Option.map_some, numeral, Node.tokens]
    exact scans_decimal n
  inFlow m hm := by
    cases hm
    exact .scalar _ _

section Brackets

variable {α : Type} {parts : List (List Char)}

theorem joined?_items (first : Bool) (f : α → Option Node) (as : List α) :
    joined? first (as.map fun a => (f a).map Node.tokens) =
      (as.mapM f).map (Node.itemTokens first) := by
  induction as generalizing first with
  | nil => simp [joined?, joined, Node.itemTokens]
  | cons a as ih =>
    rw [List.map_cons, joined?_cons, ih, List.mapM_cons]
    cases f a with
    | none => rfl
    | some n => cases as.mapM f <;> simp [Node.itemTokens]

/-- An array is a sequence. -/
theorem yields_array {f : α → Option Node} {as : List α}
    (h : List.Forall₂ (fun part a => Yields (depth + 1) part (f a)) parts as) :
    Yields depth ('[' :: (commaSeparated parts ++ [']'])) ((as.mapM f).map .sequence) where
  scans := by
    have hparts : List.Forall₂ (Scans true (depth + 1)) parts
        (as.map fun a => (f a).map Node.tokens) :=
      List.forall₂_map_right_iff.2 (h.imp fun _ _ hyields => hyields.scans.ready)
    have htokens : Node.tokens ∘ Node.sequence = fun items =>
        .flowSequenceStart :: (Node.itemTokens true items ++ [.flowSequenceEnd]) := by
      funext items
      simp [Node.tokens]
    have hscans := scans_brackets (by decide) (by decide) Lexer.lexes_array hparts
    rw [joined?_items, Option.map_map] at hscans
    rw [Option.map_map, htokens]
    exact hscans
  inFlow n hn := by
    obtain ⟨items, hitems, rfl⟩ := Option.map_eq_some_iff.1 hn
    exact .sequence (forall_of_mapM h hitems fun _ _ n hyields => hyields.inFlow n)

/-- The entry of a name, if there is a node. -/
def keyed? (e : String × Option Node) : Option (Node × Node) := e.2.map (quoted e.1, ·)

theorem joined?_entries (first : Bool) (es : List (String × Option Node)) :
    joined? first (es.map fun e => (e.2.map Node.tokens).map
        ([.key, .scalar .doubleQuoted e.1, .value] ++ ·)) =
      (es.mapM keyed?).map (Node.entryTokens first) := by
  induction es generalizing first with
  | nil => simp [joined?, joined, Node.entryTokens]
  | cons e es ih =>
    obtain ⟨name, n?⟩ := e
    rw [List.map_cons, joined?_cons, ih, List.mapM_cons]
    cases n? with
    | none => rfl
    | some n => cases es.mapM keyed? <;> simp [keyed?, Node.entryTokens, Node.tokens, quoted]

/-- An object is a mapping. -/
theorem yields_object {es : List (String × Option Node)}
    (h : List.Forall₂ (fun part e => ∃ text, part = writeMember (e.1, text) ∧ PlainName e.1 ∧
      Yields (depth + 1) text e.2) parts es) :
    Yields depth ('\x7b' :: (commaSeparated parts ++ ['\x7d']))
      ((es.mapM keyed?).map .mapping) where
  scans := by
    have hparts : List.Forall₂ (Scans true (depth + 1)) parts
        (es.map fun e => (e.2.map Node.tokens).map
          ([.key, .scalar .doubleQuoted e.1, .value] ++ ·)) := by
      refine List.forall₂_map_right_iff.2 (h.imp fun part e => ?_)
      rintro ⟨text, rfl, hname, hyields⟩
      exact scans_member hname hyields.scans
    have htokens : Node.tokens ∘ Node.mapping = fun entries =>
        .flowMappingStart :: (Node.entryTokens true entries ++ [.flowMappingEnd]) := by
      funext entries
      simp [Node.tokens]
    have hscans := scans_brackets (by decide) (by decide) Lexer.lexes_object hparts
    rw [joined?_entries, Option.map_map] at hscans
    rw [Option.map_map, htokens]
    exact hscans
  inFlow n hn := by
    obtain ⟨entries, hentries, rfl⟩ := Option.map_eq_some_iff.1 hn
    have hboth := forall_of_mapM h hentries (P := fun e => e.1.InFlow ∧ e.2.InFlow) <| by
      rintro part ⟨name, n?⟩ e ⟨text, -, -, hyields⟩ he
      obtain ⟨n, hn, rfl⟩ := Option.map_eq_some_iff.1 he
      exact ⟨.scalar _ _, hyields.inFlow n hn⟩
    exact .mapping (fun e he => (hboth e he).1) fun e he => (hboth e he).2

end Brackets

/-- The node of a text that is a value as a whole. -/
theorem Yields.parse? {text : List Char} {n? : Option Node} (h : Yields 0 text n?) :
    Node.parse? (String.ofList text) = n? := by
  rw [Node.parse?, String.toList_ofList, tokens?]
  split
  · rename_i hallowed
    rw [Lexer.run?_start (h.scans.lexes hallowed)]
    cases hn : n? with
    | none => rfl
    | some n => exact Node.ofTokens?_tokens (h.inFlow n hn)
  · rename_i hallowed
    cases hn : n? with
    | none => rfl
    | some n => exact absurd (h.scans.allowed (by rw [hn]; rfl)) hallowed

end Yaml

/-! ## Schemas -/

mutual

/-- The schemas that are considered here: the names of their options and fields are short, and they
tell the former apart and name the latter once. -/
def Shape.Rereadable : {α : Type} → Shape α → Prop
  | _, .text => True
  | _, .natural => True
  | _, .choice options name =>
    ∀ a, PlainName (name a) ∧ (options.find? fun o => o.1 == name a).map (·.2) = some a
  | _, .list item => item.Rereadable
  | _, .record fields _ _ => fields.Rereadable
  | _, _ => False

/-- The fields of a record have short names of their own and schemas that are considered here. -/
def Fields.Rereadable : {ρ : Type} → Fields ρ → Prop
  | _, .nil => True
  | _, .cons name _ shape rest =>
    name ∉ rest.names ∧ PlainName name ∧ shape.Rereadable ∧ rest.Rereadable

end

mutual

/-- The node in the JSON text of a value, if there is one. -/
def Shape.node? : {α : Type} → Shape α → α → Option Node
  | _, .text, s => (rereadText? s).map quoted
  | _, .natural, n => some (numeral n.toNat)
  | _, .choice _ name, a => (rereadText? (name a)).map quoted
  | _, .list item, as => (as.mapM item.node?).map .sequence
  | _, .record fields _ parts, a => ((fields.nodes (parts a)).mapM keyed?).map .mapping
  | _, _, _ => none

/-- The names of the fields, with the nodes in the texts of their values. -/
def Fields.nodes : {ρ : Type} → Fields ρ → ρ → List (String × Option Node)
  | _, .nil, _ => []
  | _, .cons name _ shape rest, (field, more) => (name, shape.node? field) :: rest.nodes more

end

mutual

/-- The value that is read from the JSON text of a value, if there is one. -/
def Shape.reread? : {α : Type} → Shape α → α → Option α
  | _, .text, s => rereadText? s
  | _, .natural, n => some n
  | _, .choice _ _, a => some a
  | _, .list item, as => as.mapM item.reread?
  | _, .record fields build parts, a => (fields.reread? (parts a)).map build
  | _, _, _ => none

/-- The fields that are read from the JSON texts of some fields. -/
def Fields.reread? : {ρ : Type} → Fields ρ → ρ → Option ρ
  | _, .nil, _ => some ()
  | _, .cons _ _ shape rest, (field, more) => do
    let field ← shape.reread? field
    let more ← rest.reread? more
    some (field, more)

end

/-! ## Writing -/

mutual

/-- What a schema writes is read as the node of the value. -/
theorem Shape.yields_encode {α : Type} (shape : Shape α) (h : shape.Rereadable) (a : α)
    (depth : Nat) : Yields (depth + 1) (write (shape.encode a)) (shape.node? a) := by
  cases shape with
  | text =>
    rw [Shape.encode, write_string, Shape.node?]
    exact yields_string a
  | natural =>
    rw [Shape.encode, write, writeNumber, Shape.node?]
    exact yields_decimal a.toNat
  | choice options name =>
    rw [Shape.encode, write_string, Shape.node?]
    exact yields_string (name a)
  | list item =>
    rw [Shape.Rereadable] at h
    rw [Shape.encode, write_array, Shape.node?]
    refine yields_array ?_
    rw [List.map_map, List.forall₂_map_left_iff]
    exact List.forall₂_same.2 fun b _ => item.yields_encode h b (depth + 1)
  | record fields build parts =>
    rw [Shape.Rereadable] at h
    rw [Shape.encode, write_object, Shape.node?]
    exact yields_object (fields.forall₂_nodes h (parts a) (depth + 1))
  | integer | flag | parsed | dictionary | any => simp [Shape.Rereadable] at h

/-- The members of a record are read one by one. -/
theorem Fields.forall₂_nodes {ρ : Type} (fields : Fields ρ) (h : fields.Rereadable) (r : ρ)
    (depth : Nat) :
    List.Forall₂ (fun part e => ∃ text, part = writeMember (e.1, text) ∧ PlainName e.1 ∧
      Yields (depth + 1) text e.2)
      (((fields.encode r).map fun m => (m.1, write m.2)).map writeMember) (fields.nodes r) := by
  cases fields with
  | nil =>
    rw [Fields.encode, Fields.nodes]
    exact .nil
  | cons name default shape rest =>
    obtain ⟨field, more⟩ := r
    rw [Fields.Rereadable] at h
    obtain ⟨-, hname, hshape, hrest⟩ := h
    rw [Fields.encode, Fields.nodes]
    exact .cons ⟨_, rfl, hname, shape.yields_encode hshape field depth⟩
      (rest.forall₂_nodes hrest more depth)

end

/-! ## Reading -/

namespace Yaml

theorem resolve_quoted (marks : List (Nat × Node)) (s : String) :
    (quoted s).resolve marks = quoted s := by
  rw [quoted, Node.resolve]
  all_goals nofun

theorem digitOf?_of_isDigit {d : Char} (h : Text.isDigit d = true) :
    digitOf? 10 d = some (d.toNat - 0x30) := by
  simpa using Text.forall_isDigit (p := fun d => digitOf? 10 d == some (d.toNat - 0x30))
    (by decide) h

/-- The digits of a number are taken one after the other. -/
theorem map_foldl_digits (digits : List Char) (h : ∀ d ∈ digits, Text.isDigit d = true) (n : Nat) :
    ((digits.mapM (digitOf? 10)).map fun ds => ds.foldl (fun n d => n * 10 + d) n) =
      some (digits.foldl (fun n d => n * 10 + (d.toNat - 0x30)) n) := by
  induction digits generalizing n with
  | nil => rfl
  | cons d digits ih =>
    obtain ⟨hd, hdigits⟩ := List.forall_mem_cons.1 h
    rw [List.foldl_cons, ← ih hdigits, List.mapM_cons, digitOf?_of_isDigit hd]
    cases digits.mapM (digitOf? 10) <;> rfl

theorem number?_decimal (n : Nat) : number? 10 (Text.decimal n) = some n := by
  have hne : (Text.decimal n).isEmpty = false := by
    rw [List.isEmpty_eq_false_iff]
    exact List.ne_nil_of_length_pos (Text.length_decimal_pos n)
  rw [number?, hne, if_neg Bool.false_ne_true,
    map_foldl_digits _ (fun _ => Text.isDigit_of_mem_decimal)]
  exact congrArg some (Text.decimalValue_decimal n)

/-- Digits do not start with what tells another base. -/
theorem digits?_decimal {start : List Char} {c : Char} (hc : c ∈ start)
    (hdigit : Text.isDigit c = false) (n : Nat) : digits? start (Text.decimal n) = none := by
  rw [digits?, if_neg]
  intro hprefix
  have hmem := (List.isPrefixOf_iff_prefix.1 hprefix).subset hc
  rw [Text.isDigit_of_mem_decimal hmem] at hdigit
  cases hdigit

/-- No zeros stand in front of the digits of a number. -/
theorem isPadded_decimal (n : Nat) : isPadded (Text.decimal n) = false := by
  cases Nat.eq_zero_or_pos n with
  | inl hzero =>
    rw [hzero]
    rfl
  | inr hpos =>
    have hhead := Text.head?_decimal_ne_zero hpos
    unfold isPadded
    split
    · rename_i heq
      rw [heq] at hhead
      exact absurd rfl hhead
    · rfl

theorem natural?_decimal (n : UInt64) : natural? (Text.decimal n.toNat) = some n := by
  have hsign : ∀ rest, Text.decimal n.toNat = '+' :: rest → False := by
    intro rest heq
    have hmem : '+' ∈ Text.decimal n.toNat := heq ▸ List.mem_cons_self
    exact absurd (Text.isDigit_of_mem_decimal hmem) (by decide)
  rw [natural?, magnitude?, digits?_decimal (c := 'x') (by decide) rfl,
    digits?_decimal (c := 'o') (by decide) rfl, digits?_decimal (c := 'b') (by decide) rfl,
    isPadded_decimal, number?_decimal]
  · simp [n.toNat_lt]
  · exact hsign

end Yaml

namespace Fields

/-- The fields with one more entry whose key may be written in any way. -/
def readEntry {ρ : Type} (marks : List (Nat × Node)) (fields : Fields ρ) (draft : fields.Draft)
    (e : Node × Node) : Option fields.Draft := do
  fields.ofEntry marks (← (e.1.resolve marks).text?) e.2 draft

variable {α ρ : Type} {marks : List (Nat × Node)} {name : String} {default : Option α}
  {shape : Shape α} {rest : Fields ρ}

theorem readEntry_quoted (fields : Fields ρ) (draft : fields.Draft) (key : String) (n : Node) :
    fields.readEntry marks draft (quoted key, n) = fields.ofEntry marks key n draft := by
  rw [readEntry, resolve_quoted]
  rfl

/-- The draft of a field and that of the others. -/
def Draft.cons (given : Option α) (draft : rest.Draft) :
    (Fields.cons name default shape rest).Draft := ((given, draft) : Option α × rest.Draft)

/-- The entry of a field is the field. -/
theorem readEntry_cons_self (n : Node) :
    (Fields.cons name default shape rest).readEntry marks (.cons none rest.blank)
        (quoted name, n) =
      (shape.ofNode marks n).map fun a => .cons (some a) rest.blank := by
  rw [readEntry_quoted]
  unfold ofEntry
  exact if_pos rfl

/-- The entry of another name is one of the others. -/
theorem readEntry_cons_of_ne {key : String} (h : key ≠ name) (given : Option α)
    (draft : rest.Draft) (n : Node) :
    (Fields.cons name default shape rest).readEntry marks (.cons given draft) (quoted key, n) =
      (rest.readEntry marks draft (quoted key, n)).map (.cons given) := by
  rw [readEntry_quoted, readEntry_quoted]
  conv_lhs => unfold ofEntry
  exact if_neg h

theorem names_nodes : {ρ : Type} → (fields : Fields ρ) → (r : ρ) →
    (fields.nodes r).map (·.1) = fields.names
  | _, .nil, _ => by simp [nodes]
  | _, .cons _ _ _ rest, (field, more) => by simp [nodes, names, rest.names_nodes more]

/-- The keys of the entries are the names of the fields. -/
theorem exists_key_of_mapM {fields : Fields ρ} {r : ρ} {es : List (Node × Node)}
    (h : (fields.nodes r).mapM keyed? = some es) :
    ∀ e ∈ es, ∃ key, e.1 = quoted key ∧ key ∈ fields.names := by
  have hnames : List.Forall₂ (fun _ a => a.1 ∈ fields.names) (fields.nodes r) (fields.nodes r) :=
    List.forall₂_same.2 fun a ha => fields.names_nodes r ▸ List.mem_map_of_mem ha
  refine forall_of_mapM hnames h ?_
  rintro - ⟨key, n?⟩ e hkey he
  obtain ⟨n, -, rfl⟩ := Option.map_eq_some_iff.1 he
  exact ⟨key, rfl, hkey⟩

/-- Entries of other names leave a field as it is. -/
theorem foldlM_readEntry_cons {es : List (Node × Node)} (given : Option α) (draft : rest.Draft)
    (h : ∀ e ∈ es, ∃ key, e.1 = quoted key ∧ key ≠ name) :
    es.foldlM ((Fields.cons name default shape rest).readEntry marks) (.cons given draft) =
      (es.foldlM (rest.readEntry marks) draft).map (.cons given) := by
  induction es generalizing draft with
  | nil => rfl
  | cons e es ih =>
    obtain ⟨⟨key, hkey, hne⟩, hes⟩ := List.forall_mem_cons.1 h
    obtain ⟨k, n⟩ := e
    obtain rfl : k = quoted key := hkey
    rw [List.foldlM_cons, List.foldlM_cons, readEntry_cons_of_ne hne]
    cases rest.readEntry marks draft (quoted key, n) with
    | none => rfl
    | some draft' => exact ih draft' hes

/-- The entry of a field, with those of other names behind it. -/
theorem foldlM_readEntry_field {es : List (Node × Node)} (n : Node)
    (h : ∀ e ∈ es, ∃ key, e.1 = quoted key ∧ key ≠ name) :
    ((quoted name, n) :: es).foldlM ((Fields.cons name default shape rest).readEntry marks)
        (.cons none rest.blank) =
      (shape.ofNode marks n).bind fun a =>
        (es.foldlM (rest.readEntry marks) rest.blank).map (.cons (some a)) := by
  rw [List.foldlM_cons, readEntry_cons_self]
  cases shape.ofNode marks n with
  | none => rfl
  | some a => exact foldlM_readEntry_cons (some a) rest.blank h

end Fields

section Equations

variable {α ρ : Type} (marks : List (Nat × Node))

theorem Shape.ofNode_quoted (s : String) : ofNode marks .text (quoted s) = some s := by
  rw [ofNode, resolve_quoted]
  rfl

theorem Shape.ofNode_numeral (n : UInt64) : ofNode marks .natural (numeral n.toNat) = some n := by
  rw [ofNode]
  show natural? (String.ofList (Text.decimal n.toNat)).toList = some n
  rw [String.toList_ofList, natural?_decimal]

theorem Shape.ofNode_option (options : List (String × α)) (name : α → String) (s : String) :
    ofNode marks (.choice options name) (quoted s) =
      (options.find? fun o => o.1 == s).map (·.2) := by
  rw [ofNode, resolve_quoted]
  rfl

theorem Shape.ofNode_sequence (item : Shape α) (items : List Node) :
    ofNode marks (.list item) (.sequence items) = items.mapM (item.ofNode marks) := by
  rw [ofNode]
  rfl

theorem Shape.ofNode_mapping (fields : Fields ρ) (build : ρ → α) (parts : α → ρ)
    (entries : List (Node × Node)) :
    ofNode marks (.record fields build parts) (.mapping entries) =
      (entries.foldlM (fields.readEntry marks) fields.blank).bind
        fun draft => (fields.fill draft).map build := by
  rw [ofNode]
  rfl

end Equations

mutual

/-- The node of a value has the value that is read again. -/
theorem Shape.ofNode_node? {α : Type} (shape : Shape α) (h : shape.Rereadable) (a : α)
    (marks : List (Nat × Node)) :
    (shape.node? a).bind (shape.ofNode marks) = shape.reread? a := by
  cases shape with
  | text =>
    rw [Shape.node?, Shape.reread?]
    cases rereadText? a with
    | none => rfl
    | some s => exact Shape.ofNode_quoted marks s
  | natural =>
    rw [Shape.node?, Shape.reread?]
    exact Shape.ofNode_numeral marks a
  | choice options name =>
    rw [Shape.Rereadable] at h
    obtain ⟨hname, hfind⟩ := h a
    rw [Shape.node?, Shape.reread?, rereadText?_eq_some_iff.2 hname.survives]
    exact (Shape.ofNode_option marks options name (name a)).trans hfind
  | list item =>
    rw [Shape.Rereadable] at h
    have hitem : (fun a => (item.node? a).bind (item.ofNode marks)) = item.reread? :=
      funext fun b => item.ofNode_node? h b marks
    rw [Shape.node?, Shape.reread?, ← hitem, ← mapM_bind_mapM]
    cases a.mapM item.node? with
    | none => rfl
    | some items => exact Shape.ofNode_sequence marks item items
  | record fields build parts =>
    rw [Shape.Rereadable] at h
    rw [Shape.node?, Shape.reread?, Option.bind_map]
    simp only [Function.comp_def, Shape.ofNode_mapping]
    rw [← Option.bind_assoc, fields.foldlM_nodes h (parts a) marks]
    cases fields.reread? (parts a) with
    | none => rfl
    | some r =>
      show (fields.fill (fields.given r)).map build = some (build r)
      rw [fields.fill_given, Option.map_some]
  | integer | flag | parsed | dictionary | any => simp [Shape.Rereadable] at h

/-- The entries of a record lead from nothing given to everything given, as far as the fields are
read again. -/
theorem Fields.foldlM_nodes {ρ : Type} (fields : Fields ρ) (h : fields.Rereadable) (r : ρ)
    (marks : List (Nat × Node)) :
    (((fields.nodes r).mapM keyed?).bind fun es =>
        es.foldlM (fields.readEntry marks) fields.blank) =
      (fields.reread? r).map fields.given := by
  cases fields with
  | nil => rfl
  | cons name default shape rest =>
    obtain ⟨field, more⟩ := r
    rw [Fields.Rereadable] at h
    obtain ⟨hown, -, hshape, hrest⟩ := h
    have hfield := shape.ofNode_node? hshape field marks
    have hmore := rest.foldlM_nodes hrest more marks
    rw [Fields.nodes, Fields.reread?, List.mapM_cons, ← hfield]
    cases shape.node? field with
    | none => rfl
    | some n =>
      -- The other entries are folded into the draft behind the field, which none of them names.
      cases hentries : (rest.nodes more).mapM keyed? with
      | none =>
        rw [hentries] at hmore
        have hnone : rest.reread? more = none := Option.map_eq_none_iff.1 hmore.symm
        show none = Option.map _ ((shape.ofNode marks n).bind _)
        cases shape.ofNode marks n <;> simp [hnone]
      | some es =>
        rw [hentries] at hmore
        have hothers (e : Node × Node) (he : e ∈ es) :
            ∃ key, e.1 = quoted key ∧ key ≠ name := by
          obtain ⟨key, hkey, hmem⟩ := Fields.exists_key_of_mapM hentries e he
          exact ⟨key, hkey, ne_of_mem_of_not_mem hmem hown⟩
        refine (Fields.foldlM_readEntry_field n hothers).trans ?_
        rw [show es.foldlM (rest.readEntry marks) rest.blank = _ from hmore]
        show _ = Option.map _ ((shape.ofNode marks n).bind _)
        cases shape.ofNode marks n with
        | none => rfl
        | some a => cases rest.reread? more <;> rfl

end

/-! ## Whole texts -/

/-- **JSON text as YAML.** What a schema of records reads from its own JSON text, taken for YAML, is
the record with all of its strings read again. -/
theorem Shape.ofYaml_toJson {ρ α : Type} {fields : Fields ρ} {build : ρ → α} {parts : α → ρ}
    (h : (Shape.record fields build parts).Rereadable) (a : α) :
    (Shape.record fields build parts).ofYaml ((Shape.record fields build parts).toJson a) =
      (Shape.record fields build parts).reread? a := by
  have hfields : fields.Rereadable := by rwa [Rereadable] at h
  have hyields : Yields 0 (write ((Shape.record fields build parts).encode a))
      ((Shape.record fields build parts).node? a) := by
    rw [encode, node?, write_object]
    exact yields_object (fields.forall₂_nodes hfields (parts a) 0)
  rw [ofYaml, toJson, Value.render, hyields.parse?]
  cases hnode : (Shape.record fields build parts).node? a with
  | none =>
    have hvalue := ofNode_node? _ h a []
    rw [hnode] at hvalue
    exact hvalue
  | some n =>
    have hvalue := ofNode_node? _ h a n.marks
    rw [hnode] at hvalue
    exact hvalue

end WorkloadAuth
