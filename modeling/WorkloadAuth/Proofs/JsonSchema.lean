import WorkloadAuth.Json.Decode
import WorkloadAuth.Json.Encode
import WorkloadAuth.Proofs.JsonText

/-!
# Values written by a schema are read by it

A schema that tells its values apart in text, and names every field of a record once, reads back all
that it writes.

* `Shape.Faithful`: such a schema, with the depth down to which it may be read.
* `Dictionary.folded_readEntry`, `Fields.folded_encode`: the members of an object, one after the
  other.
* `Shape.reads_encode`: the reader of the schema takes the text of a value, and answers the value.
* `Shape.Survives`, `Shape.Faithful.survives`: no value is changed by its text, and no text that was
  written anew is changed by writing it anew again.
-/

namespace WorkloadAuth

open Json Json.Reader

/-! ## Faithful schemas -/

mutual

/-- A schema whose values can be told apart by what it writes, if they are read down to a depth.
Values of any kind are none, since some of their numbers are kept as text. -/
def Shape.Faithful : {α : Type} → Shape α → Nat → Prop
  | _, .text, _ => True
  | _, .natural, _ => True
  | _, .integer, _ => True
  | _, .flag, _ => True
  | _, .parsed parse render, _ => ∀ a, parse (render a) = some a
  | _, .choice options name, _ => ∀ a, (options.find? fun o => o.1 == name a).map (·.2) = some a
  | _, .list item, depth => 1 < depth ∧ item.Faithful (depth - 1)
  | _, .dictionary, depth => 1 < depth
  | _, .any, _ => False
  | _, .record fields build parts, depth =>
    1 < depth ∧ fields.Faithful (depth - 1) ∧ ∀ a, build (parts a) = a

/-- The fields of a record have names of their own and faithful schemas. -/
def Fields.Faithful : {ρ : Type} → Fields ρ → Nat → Prop
  | _, .nil, _ => True
  | _, .cons name _ shape rest, depth =>
    name ∉ rest.names ∧ shape.Faithful depth ∧ rest.Faithful depth

end

attribute [simp] Shape.Faithful Fields.Faithful

section

variable {α ρ : Type} (name : String) (default : α) (shape : Shape α) (rest : Fields ρ)

@[simp] theorem Fields.faithful_required (depth : Nat) :
    (required name shape rest).Faithful depth ↔
      name ∉ rest.names ∧ shape.Faithful depth ∧ rest.Faithful depth := by
  rw [required, Faithful]

@[simp] theorem Fields.faithful_optional (depth : Nat) :
    (optional name default shape rest).Faithful depth ↔
      name ∉ rest.names ∧ shape.Faithful depth ∧ rest.Faithful depth := by
  rw [optional, Faithful]

@[simp] theorem Fields.names_nil : nil.names = [] := rfl

@[simp] theorem Fields.names_required :
    (required name shape rest).names = name :: rest.names := rfl

@[simp] theorem Fields.names_optional :
    (optional name default shape rest).names = name :: rest.names := rfl

end

/-! ## Texts -/

attribute [simp] Json.write

theorem Json.write_string (s : String) : write (.string s) = writeString s := by
  simp

theorem Json.write_object (members : List (String × Value)) :
    write (.object members) =
      '\x7b' :: (commaSeparated ((members.map fun m => (m.1, write m.2)).map writeMember) ++
        ['\x7d']) := by
  have hattach : members.attach.map (fun m => writeString m.1.1 ++ ':' :: write m.1.2) =
      (members.map fun m => (m.1, write m.2)).map writeMember := by
    have hval := List.attach_map_val (l := members)
      (f := fun m => writeString m.1 ++ ':' :: write m.2)
    rw [hval, List.map_map]
    rfl
  rw [write, hattach]
  rfl

theorem Json.write_array (items : List Value) :
    write (.array items) = '[' :: (commaSeparated (items.map write) ++ [']']) := by
  simp

/-- The text of a whole number with a sign starts with a digit, or with the sign. -/
theorem Json.exists_startsWith_integer (n : Int64) :
    ∃ c, (c = '-' ∨ Text.isDigit c = true) ∧ StartsWith (write (Json.integer n)) c := by
  unfold Json.integer
  cases n.toInt with
  | ofNat k =>
    obtain ⟨c, hdigit, hstarts⟩ := exists_startsWith_decimal (UInt64.ofNat k).toNat
    refine ⟨c, .inr hdigit, ?_⟩
    simpa only [Value.ofInt, Value.ofNat, write, writeNumber] using hstarts
  | negSucc k =>
    refine ⟨'-', .inl rfl, ?_⟩
    simp only [Value.ofInt, write, writeNumber]
    exact ⟨rfl, rfl, by decide⟩

/-- What a faithful schema writes starts with a character of its own. -/
theorem Shape.exists_startsWith {α : Type} (shape : Shape α) {depth : Nat}
    (h : shape.Faithful depth) (a : α) : ∃ c, StartsWith (write (shape.encode a)) c := by
  cases shape with
  | text =>
    rw [encode, write_string]
    exact ⟨_, startsWith_writeString _⟩
  | natural =>
    obtain ⟨c, -, hstarts⟩ := exists_startsWith_decimal a.toNat
    refine ⟨c, ?_⟩
    simpa only [encode, write, writeNumber] using hstarts
  | integer =>
    obtain ⟨c, -, hstarts⟩ := exists_startsWith_integer a
    exact ⟨c, hstarts⟩
  | flag =>
    cases a with
    | true => exact ⟨'t', by simp [encode], rfl, by decide⟩
    | false => exact ⟨'f', by simp [encode], rfl, by decide⟩
  | parsed parse render =>
    rw [encode, write_string]
    exact ⟨_, startsWith_writeString _⟩
  | choice options name =>
    rw [encode, write_string]
    exact ⟨_, startsWith_writeString _⟩
  | list item =>
    rw [encode, write_array]
    exact ⟨'[', rfl, rfl, by decide⟩
  | dictionary =>
    rw [encode, write_object]
    exact ⟨'\x7b', rfl, rfl, by decide⟩
  | any => exact absurd h (by simp [Shape.Faithful])
  | record fields build parts =>
    rw [encode, write_object]
    exact ⟨'\x7b', rfl, rfl, by decide⟩

/-! ## Values without parts -/

namespace Json.Reader

theorem reads_readText (s : String) : Reads readText (writeString s) s := by
  intro rest _
  rw [writeString_append, readText, blanks_bind_cons rfl]
  exact string_flatMap s rest

theorem reads_readNatural (n : UInt64) :
    Reads readNatural (Text.decimal n.toNat) n := by
  intro rest hrest
  obtain ⟨c, hdigit, hstarts⟩ := exists_startsWith_decimal n.toNat
  rw [readNatural, (hstarts.append rest).blanks_bind]
  change (if c = '-' || Text.isDigit c then _ else _ : Reader UInt64) _ = _
  rw [if_pos (by simp [hdigit]), bind_of_ok (number_natural n hrest)]
  rfl

theorem reads_readInteger (n : Int64) : Reads readInteger (write (Json.integer n)) n := by
  intro rest hrest
  obtain ⟨c, hc, hstarts⟩ := exists_startsWith_integer n
  have hlow : -9223372036854775808 ≤ n.toInt := n.minValue_le_toInt
  have hhigh : n.toInt ≤ 9223372036854775807 := n.toInt_le
  rw [readInteger, (hstarts.append rest).blanks_bind]
  change (if c = '-' || Text.isDigit c then _ else _ : Reader Int64) _ = _
  rw [if_pos (by simpa using hc)]
  unfold Json.integer
  cases hn : n.toInt with
  | ofNat k =>
    have hsmall : (k : Int) ≤ 9223372036854775807 := by rw [hn] at hhigh; exact hhigh
    have hk : (UInt64.ofNat k).toNat = k :=
      UInt64.toNat_ofNat_of_lt' (by unfold UInt64.size; omega)
    have htext : write (Value.ofInt (Int.ofNat k)) = Text.decimal (UInt64.ofNat k).toNat := by
      simp only [Value.ofInt, Value.ofNat, write, writeNumber]
    have hle : ((UInt64.ofNat k).toNat : Int) ≤ Int64.maxValue.toInt := by rw [hk]; exact hsmall
    have hvalue : Int64.ofNat (UInt64.ofNat k).toNat = n := by
      rw [hk, ← Int64.ofInt_eq_ofNat]
      exact (congrArg Int64.ofInt hn.symm).trans n.ofInt_toInt
    rw [htext, bind_of_ok (number_natural _ hrest)]
    change (if _ then _ else _ : Reader Int64) _ = _
    rw [if_pos hle, hvalue]
    rfl
  | negSucc k =>
    have htext : write (Value.ofInt (Int.negSucc k)) = '-' :: Text.decimal (k + 1) := by
      simp only [Value.ofInt, write, writeNumber]
    have hsmall : 2 * (k + 1) ≤ UInt64.size := by
      have : -9223372036854775808 ≤ Int.negSucc k := by rw [hn] at hlow; exact hlow
      unfold UInt64.size
      omega
    have hvalue : Int64.ofInt (-((k + 1 : Nat) : Int)) = n :=
      (congrArg Int64.ofInt hn.symm).trans n.ofInt_toInt
    rw [htext, List.cons_append,
      bind_of_ok (number_negative k.succ_pos hsmall hrest)]
    exact congrArg (fun m => Except.ok (m, rest)) hvalue

theorem reads_readFlag (b : Bool) : Reads readFlag (write (.bool b)) b := by
  intro rest _
  cases b with
  | true =>
    have htext : write (.bool true) ++ rest = 't' :: ("rue".toList ++ rest) := by simp
    have hword : literal "true" ('t' :: ("rue".toList ++ rest)) = .ok ((), rest) :=
      expect_append "true".toList rest
    rw [htext, readFlag, blanks_bind_cons rfl]
    exact bind_of_ok hword
  | false =>
    have htext : write (.bool false) ++ rest = 'f' :: ("alse".toList ++ rest) := by simp
    have hword : literal "false" ('f' :: ("alse".toList ++ rest)) = .ok ((), rest) :=
      expect_append "false".toList rest
    rw [htext, readFlag, blanks_bind_cons rfl]
    exact bind_of_ok hword

theorem reads_readChoice {α : Type} {options : List (String × α)} {name : String} {a : α}
    (h : (options.find? fun o => o.1 == name).map (·.2) = some a) :
    Reads (readChoice options) (writeString name) a := by
  intro rest _
  obtain ⟨o, hfound, rfl⟩ := Option.map_eq_some_iff.1 h
  have hoption : option options name = pure o.2 := by rw [option, hfound]
  have hquote (cs : List Char) :
      readChoice options ('"' :: cs) = (string >>= option options) cs := rfl
  rw [writeString_append, hquote, bind_of_ok (string_flatMap name rest), hoption]
  rfl

end Json.Reader

/-! ## Dictionaries -/

namespace Dictionary

variable {α : Type}

theorem place_append (key : String) (value : α) (entries : List (String × α))
    (h : ∀ e ∈ entries, e.1 < key) : place key value entries = entries ++ [(key, value)] := by
  induction entries with
  | nil => rfl
  | cons e entries ih =>
    obtain ⟨hlt, hrest⟩ := List.forall_mem_cons.1 h
    rw [place, if_neg (String.lt_asymm hlt), if_neg (String.ne_of_lt hlt).symm, ih hrest,
      List.cons_append]

/-- The step that reads one member into a dictionary. -/
def readEntry (found : Dictionary String) (name : String) : Reader (Dictionary String) := do
  colon
  let v ← readText
  pure (found.insert name v)

theorem reads_readEntry (found : Dictionary String) (name v : String) :
    Reads (readEntry found name) (':' :: writeString v) (found.insert name v) :=
  reads_colon ((reads_readText v).map (found.insert name))

/-- The members of a dictionary in their order, behind the entries read before. -/
theorem folded_readEntry (entries : List (String × String)) (found d : Dictionary String)
    (h : d.entries = found.entries ++ entries) :
    Folded readEntry found (entries.map fun e => (e.1, writeString e.2)) d := by
  induction entries generalizing found with
  | nil =>
    obtain rfl : d = found := Dictionary.ext (by rw [h, List.append_nil])
    exact .nil _
  | cons e entries ih =>
    have hbefore : ∀ e' ∈ found.entries, e'.1 < e.1 := by
      have hpairs := h ▸ d.ascending
      exact fun e' he' => (List.pairwise_append.1 hpairs).2.2 e' he' e List.mem_cons_self
    have hinsert : (found.insert e.1 e.2).entries = found.entries ++ [e] :=
      place_append e.1 e.2 found.entries hbefore
    refine .cons (reads_readEntry found e.1 e.2) (ih (found.insert e.1 e.2) ?_)
    rw [h, hinsert, List.append_assoc, List.singleton_append]

end Dictionary

/-! ## Records -/

namespace Fields

/-- The draft in which every field of a record has been read. -/
def given : {ρ : Type} → (fields : Fields ρ) → ρ → fields.Draft
  | _, .nil, _ => ()
  | _, .cons _ _ _ rest, (field, more) => (some field, rest.given more)

theorem fill_given : {ρ : Type} → (fields : Fields ρ) → (r : ρ) →
    fields.fill (fields.given r) = some r
  | _, .nil, _ => rfl
  | _, .cons _ _ _ rest, (field, more) => by
    simp [fill, given, rest.fill_given more]

theorem names_encode : {ρ : Type} → (fields : Fields ρ) → (r : ρ) →
    (fields.encode r).map (·.1) = fields.names
  | _, .nil, _ => by simp [encode, names]
  | _, .cons _ _ _ rest, (field, more) => by
    simp [encode, names, rest.names_encode more]

end Fields

/-- Steps that work on a part of a state only, lead where they lead the part. -/
theorem Json.Folded.map {σ τ : Type} {step : σ → String → Reader σ} {step' : τ → String → Reader τ}
    (f : σ → τ) {s s' : σ} {members : List (String × List Char)} (h : Folded step s members s')
    (hstep : ∀ member ∈ members, ∀ s, step' (f s) member.1 = do
      let s' ← step s member.1
      pure (f s')) :
    Folded step' (f s) members (f s') := by
  induction h with
  | nil s => exact .nil _
  | cons hmember hmembers ih =>
    obtain ⟨hfirst, hrest⟩ := List.forall_mem_cons.1 hstep
    refine .cons ?_ (ih hrest)
    rw [hfirst]
    exact hmember.map f

/-! ## Reading what was written -/

/-- A text in a form of its own. -/
theorem Json.Reader.reads_parsed {α : Type} {parse : String → Option α} {s : String} {a : α}
    (h : parse s = some a) :
    Reads (do
      match parse (← readText) with
      | some a => pure a
      | none => fail .mismatched) (writeString s) a := by
  intro rest hrest
  rw [bind_of_ok (reads_readText s rest hrest), h]
  rfl

mutual

/-- The reader of a faithful schema takes the text of a value and answers the value. -/
theorem Shape.reads_encode {α : Type} (shape : Shape α) {depth : Nat} (h : shape.Faithful depth)
    (a : α) : Reads (shape.reader depth) (write (shape.encode a)) a := by
  cases shape with
  | text =>
    rw [Shape.reader, Shape.encode, write_string]
    exact reads_readText a
  | natural =>
    rw [Shape.reader, Shape.encode]
    simpa only [write, writeNumber] using reads_readNatural a
  | integer =>
    rw [Shape.reader, Shape.encode]
    exact reads_readInteger a
  | flag =>
    rw [Shape.reader, Shape.encode]
    exact reads_readFlag a
  | parsed parse render =>
    rw [Shape.reader, Shape.encode, write_string]
    rw [Shape.Faithful] at h
    exact reads_parsed (h a)
  | choice options name =>
    rw [Shape.reader, Shape.encode, write_string]
    rw [Shape.Faithful] at h
    exact reads_readChoice (h a)
  | list item =>
    rw [Shape.Faithful] at h
    obtain ⟨hdepth, hitem⟩ := h
    intro rest _
    have hitems : List.Forall₂ (fun part b => Reads (item.reader (depth - 1)) part b ∧
        ∃ c, StartsWith part c) ((a.map item.encode).map write) a := by
      rw [List.map_map, List.forall₂_map_left_iff]
      exact List.forall₂_same.2 fun b _ =>
        ⟨item.reads_encode hitem b, item.exists_startsWith hitem b⟩
    rw [Shape.reader, Shape.encode, write_array, List.cons_append, blanks_bind_cons rfl]
    change (if depth ≤ 1 then _ else _ : Reader _) _ = _
    rw [if_neg (by omega), advance_bind, List.append_assoc]
    exact elements_of_forall hitems rest
  | dictionary =>
    rw [Shape.Faithful] at h
    intro rest _
    have hfolded := Dictionary.folded_readEntry a.entries .empty a rfl
    have hmembers : (a.entries.map fun (k, v) => (k, Value.string v)).map
        (fun m => (m.1, write m.2)) = a.entries.map fun e => (e.1, writeString e.2) := by
      rw [List.map_map]
      exact List.map_congr_left fun e _ => congrArg (e.1, ·) (write_string e.2)
    rw [Shape.reader, Shape.encode, write_object, List.cons_append, blanks_bind_cons rfl]
    change (if depth ≤ 1 then _ else _ : Reader _) _ = _
    rw [if_neg (by omega), advance_bind, hmembers, List.append_assoc]
    exact bind_of_ok (members_of_folded hfolded rest)
  | any => exact absurd h (by simp [Shape.Faithful])
  | record fields build parts =>
    rw [Shape.Faithful] at h
    obtain ⟨hdepth, hfields, hbuild⟩ := h
    intro rest _
    have hfolded := fields.folded_encode hfields (parts a)
    rw [Shape.reader, Shape.encode, write_object, List.cons_append, blanks_bind_cons rfl]
    change (if depth ≤ 1 then _ else _ : Reader _) _ = _
    rw [if_neg (by omega), advance_bind, List.append_assoc, List.singleton_append,
      bind_of_ok (members_of_folded hfolded rest), fields.fill_given]
    exact congrArg (fun a => Except.ok (a, rest)) (hbuild a)

/-- The members of a record lead from nothing given to everything given. -/
theorem Fields.folded_encode {ρ : Type} (fields : Fields ρ) {depth : Nat}
    (h : fields.Faithful depth) (r : ρ) :
    Folded (fun draft name => fields.readMember depth name draft) fields.blank
      ((fields.encode r).map fun m => (m.1, write m.2)) (fields.given r) := by
  cases fields with
  | nil =>
    rw [Fields.encode]
    exact .nil _
  | cons name default shape rest =>
    obtain ⟨field, more⟩ := r
    rw [Fields.Faithful] at h
    obtain ⟨hname, hshape, hrest⟩ := h
    have hfirst : Reads (Fields.readMember (.cons name default shape rest) depth name
        ((none, rest.blank) : Option _ × rest.Draft)) (':' :: write (shape.encode field))
        ((some field, rest.blank) : Option _ × rest.Draft) := by
      rw [Fields.readMember, if_pos rfl]
      exact reads_colon ((shape.reads_encode hshape field).map fun a => (some a, rest.blank))
    rw [Fields.encode, List.map_cons, Fields.given]
    refine .cons hfirst ((rest.folded_encode hrest more).map (fun d => (some field, d)) ?_)
    rintro member hmember s
    have hmem : member.1 ∈ rest.names := by
      rw [← rest.names_encode more]
      obtain ⟨m, hm, rfl⟩ := List.mem_map.1 hmember
      exact List.mem_map_of_mem hm
    have hne : member.1 ≠ name := fun heq => hname (heq ▸ hmem)
    rw [Fields.readMember, if_neg hne]
    rfl

end

/-! ## Whole texts -/

namespace Shape

variable {α : Type}

/-- A text written anew, if it can be read. -/
def rewrite (shape : Shape α) (text : String) : Except Fault String :=
  shape.toJson <$> shape.ofJson text

/-- Values survive in text: each is what its text is read as, and a text written anew stays as it is
when it is written anew again. -/
structure Survives (shape : Shape α) : Prop where
  ofJson_toJson : ∀ a, shape.ofJson (shape.toJson a) = .ok a
  rewrite_rewrite : ∀ text, (shape.rewrite text >>= shape.rewrite) = shape.rewrite text

theorem ofJson_toJson {shape : Shape α} (h : shape.Faithful depthLimit) (a : α) :
    shape.ofJson (shape.toJson a) = .ok a := by
  have hread := shape.reads_encode h a [] follows_nil
  rw [List.append_nil] at hread
  rw [ofJson, run, toJson, Value.render, String.toList_ofList, hread]
  rfl

theorem Faithful.survives {shape : Shape α} (h : shape.Faithful depthLimit) :
    shape.Survives where
  ofJson_toJson := ofJson_toJson h
  rewrite_rewrite text := by
    unfold rewrite
    cases shape.ofJson text with
    | error fault => rfl
    | ok a =>
      change shape.toJson <$> shape.ofJson (shape.toJson a) = .ok (shape.toJson a)
      rw [ofJson_toJson h]
      rfl

end Shape

end WorkloadAuth
