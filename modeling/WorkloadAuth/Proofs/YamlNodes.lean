import WorkloadAuth.Yaml.Node

/-!
# Nodes in brackets are read back from their tokens

* `Yaml.Node.InFlow`: a node that is written in brackets, without tags, anchors and references.
* `Yaml.Node.tokens`: the tokens that write it.
* `Yaml.Node.node_tokens`: the node is read back from its tokens, whatever follows them.
* `Yaml.Node.ofTokens?_tokens`: it is the document of its tokens.
-/

namespace WorkloadAuth.Yaml.Node

/-! ## Tokens -/

/-- A node that is written in brackets, without tags, anchors and references. -/
inductive InFlow : Node → Prop where
  | scalar (style : Style) (text : String) : InFlow (.scalar none style text)
  | sequence {items : List Node} : (∀ n ∈ items, InFlow n) → InFlow (.sequence items)
  | mapping {entries : List (Node × Node)} : (∀ e ∈ entries, InFlow e.1) →
      (∀ e ∈ entries, InFlow e.2) → InFlow (.mapping entries)

/-- The comma in front of an item that is not the first one. -/
def comma (first : Bool) : List Token := if first then [] else [.flowEntry]

mutual

/-- The tokens that write a node in brackets. -/
def tokens : Node → List Token
  | .reference _ => []
  | .scalar _ style text => [.scalar style text]
  | .sequence items => .flowSequenceStart :: (itemTokens true items ++ [.flowSequenceEnd])
  | .mapping entries => .flowMappingStart :: (entryTokens true entries ++ [.flowMappingEnd])
  | .marked _ inner => inner.tokens

/-- The tokens of the items of a sequence. -/
def itemTokens (first : Bool) : List Node → List Token
  | [] => []
  | item :: items => comma first ++ (item.tokens ++ itemTokens false items)

/-- The tokens of the entries of a mapping. -/
def entryTokens (first : Bool) : List (Node × Node) → List Token
  | [] => []
  | (key, value) :: entries =>
    comma first ++ (.key :: (key.tokens ++ .value :: (value.tokens ++ entryTokens false entries)))

end

/-! ## Reading -/

variable {α β : Type} {handles : Handles} {r r' : Reading}

/-- A reader goes on with what the first part of it answers and leaves. -/
theorem bind_of_some {p : Reader α} {f : α → Reader β} {a : α} (h : p r = some (a, r')) :
    (p >>= f) r = f a r' := by
  change (p r).bind (fun x => f x.1 x.2) = f a r'
  rw [h]
  rfl

/-- A token that starts a node in brackets. -/
def starts : Token → Bool
  | .scalar .. => true
  | .flowSequenceStart => true
  | .flowMappingStart => true
  | _ => false

/-- A node without anchor and tag is its content. -/
theorem node_of_starts {t : Token} (h : starts t = true) (inBlock indentless : Bool) (fuel : Nat)
    (rest : List Token) (marks : List (String × Nat)) :
    node handles inBlock indentless (fuel + 1) ⟨t :: rest, marks⟩ =
      content handles inBlock indentless false none fuel ⟨t :: rest, marks⟩ := by
  cases t with
  | scalar style text =>
    rw [node]
    rfl
  | flowSequenceStart =>
    rw [node]
    rfl
  | flowMappingStart =>
    rw [node]
    rfl
  | _ => cases h

theorem exists_starts {n : Node} (h : n.InFlow) : ∃ t ts, n.tokens = t :: ts ∧ starts t = true := by
  cases h with
  | scalar style text => exact ⟨_, _, rfl, rfl⟩
  | sequence => exact ⟨_, _, by rw [tokens], rfl⟩
  | mapping => exact ⟨_, _, by rw [tokens], rfl⟩

section Tokens

variable {t : Token} (rest : List Token) (marks : List (String × Nat))

theorem accept_self : accept t ⟨t :: rest, marks⟩ = some (true, ⟨rest, marks⟩) := by
  simp [accept]

theorem accept_of_ne {token : Token} (h : t ≠ token) :
    accept token ⟨t :: rest, marks⟩ = some (false, ⟨t :: rest, marks⟩) := by
  simp [accept, h]

theorem expect_self : expect t ⟨t :: rest, marks⟩ = some ((), ⟨rest, marks⟩) := by
  simp [expect]

theorem isNext_of_not_mem {ends : List Token} (h : t ∉ ends) :
    isNext ends ⟨t :: rest, marks⟩ = some (false, ⟨t :: rest, marks⟩) := by
  simp [isNext, h]

end Tokens

/-- A token that does not start a node. -/
theorem ne_of_starts {t token : Token} (h : starts t = true) (htoken : starts token = false) :
    t ≠ token := by
  rintro rfl
  rw [h] at htoken
  cases htoken

/-! ## Items and entries -/

section Steps

variable {t : Token} (hstarts : starts t = true) (first : Bool) (fuel : Nat) (rest : List Token)
  (marks : List (String × Nat))

include hstarts

/-- In brackets a token that starts a node leads to the node. -/
theorem flowSequence_of_starts :
    flowSequence handles first (fuel + 1) ⟨comma first ++ t :: rest, marks⟩ =
      (node handles false false fuel >>= fun item => do
        pure (item :: (← flowSequence handles false fuel))) ⟨t :: rest, marks⟩ := by
  have hend : accept .flowSequenceEnd ⟨t :: rest, marks⟩ = some (false, ⟨t :: rest, marks⟩) :=
    accept_of_ne rest marks (ne_of_starts hstarts rfl)
  have hkey : accept .key ⟨t :: rest, marks⟩ = some (false, ⟨t :: rest, marks⟩) :=
    accept_of_ne rest marks (ne_of_starts hstarts rfl)
  rw [flowSequence]
  cases first with
  | true =>
    show (accept .flowSequenceEnd >>= _) (⟨t :: rest, marks⟩ : Reading) = _
    rw [bind_of_some hend]
    show (accept .flowSequenceEnd >>= _) (⟨t :: rest, marks⟩ : Reading) = _
    rw [bind_of_some hend]
    show (accept .key >>= _) (⟨t :: rest, marks⟩ : Reading) = _
    rw [bind_of_some hkey]
    rfl
  | false =>
    show (accept .flowSequenceEnd >>= _) (⟨.flowEntry :: t :: rest, marks⟩ : Reading) = _
    rw [bind_of_some (accept_of_ne (t := .flowEntry) _ marks (by decide))]
    show (expect .flowEntry >>= _) (⟨.flowEntry :: t :: rest, marks⟩ : Reading) = _
    rw [bind_of_some (expect_self _ marks)]
    show (accept .flowSequenceEnd >>= _) (⟨t :: rest, marks⟩ : Reading) = _
    rw [bind_of_some hend]
    show (accept .key >>= _) (⟨t :: rest, marks⟩ : Reading) = _
    rw [bind_of_some hkey]
    rfl

theorem flowNode_of_starts {ends : List Token} (hends : ∀ token ∈ ends, starts token = false) :
    flowNode handles ends (fuel + 1) ⟨t :: rest, marks⟩ =
      node handles false false fuel ⟨t :: rest, marks⟩ := by
  have hmem : t ∉ ends := fun hmem => absurd (hstarts.symm.trans (hends t hmem)) nofun
  rw [flowNode, bind_of_some (isNext_of_not_mem rest marks hmem)]
  rfl

end Steps

/-- In brackets a key leads to an entry. -/
theorem flowMapping_key (first : Bool) (fuel : Nat) (rest : List Token)
    (marks : List (String × Nat)) :
    flowMapping handles first (fuel + 1) ⟨comma first ++ .key :: rest, marks⟩ =
      (flowNode handles [.value, .flowEntry, .flowMappingEnd] fuel >>= fun key => do
        let value ←
          if ← accept .value then flowNode handles [.flowEntry, .flowMappingEnd] fuel
          else pure empty
        pure ((key, value) :: (← flowMapping handles false fuel))) ⟨rest, marks⟩ := by
  have hend : accept .flowMappingEnd ⟨.key :: rest, marks⟩ = some (false, ⟨.key :: rest, marks⟩) :=
    accept_of_ne rest marks (by decide)
  rw [flowMapping]
  cases first with
  | true =>
    show (accept .flowMappingEnd >>= _) (⟨.key :: rest, marks⟩ : Reading) = _
    rw [bind_of_some hend]
    show (accept .flowMappingEnd >>= _) (⟨.key :: rest, marks⟩ : Reading) = _
    rw [bind_of_some hend]
    show (accept .key >>= _) (⟨.key :: rest, marks⟩ : Reading) = _
    rw [bind_of_some (accept_self rest marks)]
    rfl
  | false =>
    show (accept .flowMappingEnd >>= _) (⟨.flowEntry :: .key :: rest, marks⟩ : Reading) = _
    rw [bind_of_some (accept_of_ne (t := .flowEntry) _ marks (by decide))]
    show (expect .flowEntry >>= _) (⟨.flowEntry :: .key :: rest, marks⟩ : Reading) = _
    rw [bind_of_some (expect_self _ marks)]
    show (accept .flowMappingEnd >>= _) (⟨.key :: rest, marks⟩ : Reading) = _
    rw [bind_of_some hend]
    show (accept .key >>= _) (⟨.key :: rest, marks⟩ : Reading) = _
    rw [bind_of_some (accept_self rest marks)]
    rfl

/-- A node is read back from its tokens, whatever follows them. The bound on the fuel leaves enough
for the readers that are called in turn. -/
def ReadBack (handles : Handles) (n : Node) : Prop :=
  ∀ inBlock fuel rest marks, 4 * n.tokens.length ≤ fuel →
    node handles inBlock false fuel ⟨n.tokens ++ rest, marks⟩ = some (n, ⟨rest, marks⟩)

theorem length_tokens_pos {n : Node} (h : n.InFlow) : 0 < n.tokens.length := by
  obtain ⟨t, ts, htokens, -⟩ := exists_starts h
  rw [htokens]
  exact Nat.succ_pos _

/-- In brackets a node that is read back is so also where nothing need be written. -/
theorem flowNode_tokens {n : Node} (hn : n.InFlow) (hread : ReadBack handles n) {ends : List Token}
    (hends : ∀ token ∈ ends, starts token = false) (fuel : Nat) (rest : List Token)
    (marks : List (String × Nat)) (hfuel : 4 * n.tokens.length ≤ fuel) :
    flowNode handles ends (fuel + 1) ⟨n.tokens ++ rest, marks⟩ = some (n, ⟨rest, marks⟩) := by
  obtain ⟨t, ts, htokens, hstarts⟩ := exists_starts hn
  have hnode := hread false fuel rest marks hfuel
  rw [htokens, List.cons_append] at hnode ⊢
  rw [flowNode_of_starts hstarts fuel _ marks hends, hnode]

/-- One item of a sequence, and the others. -/
theorem flowSequence_item {item : Node} (hitem : item.InFlow) (hread : ReadBack handles item)
    (first : Bool) {fuel : Nat} (last : List Token) (marks : List (String × Nat))
    (hfuel : 4 * item.tokens.length ≤ fuel) :
    flowSequence handles first (fuel + 1) ⟨comma first ++ (item.tokens ++ last), marks⟩ =
      (flowSequence handles false fuel >>= fun items => pure (item :: items)) ⟨last, marks⟩ := by
  obtain ⟨t, ts, htokens, hstarts⟩ := exists_starts hitem
  have hfirst := hread false fuel last marks hfuel
  rw [htokens, List.cons_append, flowSequence_of_starts hstarts, ← List.cons_append, ← htokens]
  exact bind_of_some hfirst

theorem flowSequence_itemTokens {items : List Node} (hflow : ∀ n ∈ items, n.InFlow)
    (hread : ∀ n ∈ items, ReadBack handles n) (first : Bool) (fuel : Nat) (rest : List Token)
    (marks : List (String × Nat)) (hfuel : 4 * (itemTokens first items).length ≤ fuel) :
    flowSequence handles first (fuel + 1)
        ⟨itemTokens first items ++ .flowSequenceEnd :: rest, marks⟩ =
      some (items, ⟨rest, marks⟩) := by
  induction items generalizing first fuel with
  | nil =>
    rw [itemTokens, List.nil_append, flowSequence, bind_of_some (accept_self _ _)]
    rfl
  | cons item items ih =>
    obtain ⟨hitem, hitems⟩ := List.forall_mem_cons.1 hflow
    obtain ⟨hreadItem, hreadItems⟩ := List.forall_mem_cons.1 hread
    have hpos := length_tokens_pos hitem
    rw [itemTokens] at hfuel ⊢
    simp only [List.length_append] at hfuel
    obtain ⟨fuel, rfl⟩ : ∃ k, fuel = k + 1 := ⟨fuel - 1, by omega⟩
    have hmore := ih hitems hreadItems false fuel (by omega)
    rw [List.append_assoc, List.append_assoc,
      flowSequence_item hitem hreadItem first _ marks (by omega), bind_of_some hmore]
    rfl

/-- One entry of a mapping, and the others. -/
theorem flowMapping_entry {key value : Node} (hkey : key.InFlow) (hvalue : value.InFlow)
    (hreadKey : ReadBack handles key) (hreadValue : ReadBack handles value) (first : Bool)
    {fuel : Nat} (last : List Token) (marks : List (String × Nat))
    (hkeyFuel : 4 * key.tokens.length ≤ fuel) (hvalueFuel : 4 * value.tokens.length ≤ fuel) :
    flowMapping handles first (fuel + 2)
        ⟨comma first ++ .key :: (key.tokens ++ .value :: (value.tokens ++ last)), marks⟩ =
      (flowMapping handles false (fuel + 1) >>= fun entries => pure ((key, value) :: entries))
        ⟨last, marks⟩ := by
  have hafterKey : ∀ token ∈ [Token.value, .flowEntry, .flowMappingEnd],
      starts token = false := by
    decide
  have hafterValue : ∀ token ∈ [Token.flowEntry, .flowMappingEnd], starts token = false := by
    decide
  rw [flowMapping_key, bind_of_some (flowNode_tokens hkey hreadKey hafterKey fuel _ marks hkeyFuel)]
  show (accept .value >>= _) (⟨.value :: (value.tokens ++ last), marks⟩ : Reading) = _
  rw [bind_of_some (accept_self _ marks)]
  show (flowNode handles [.flowEntry, .flowMappingEnd] (fuel + 1) >>= _)
    (⟨value.tokens ++ last, marks⟩ : Reading) = _
  exact bind_of_some (flowNode_tokens hvalue hreadValue hafterValue fuel last marks hvalueFuel)

theorem flowMapping_entryTokens {entries : List (Node × Node)}
    (hkeys : ∀ e ∈ entries, e.1.InFlow) (hvalues : ∀ e ∈ entries, e.2.InFlow)
    (hreadKeys : ∀ e ∈ entries, ReadBack handles e.1)
    (hreadValues : ∀ e ∈ entries, ReadBack handles e.2) (first : Bool) (fuel : Nat)
    (rest : List Token) (marks : List (String × Nat))
    (hfuel : 4 * (entryTokens first entries).length ≤ fuel) :
    flowMapping handles first (fuel + 1)
        ⟨entryTokens first entries ++ .flowMappingEnd :: rest, marks⟩ =
      some (entries, ⟨rest, marks⟩) := by
  induction entries generalizing first fuel with
  | nil =>
    rw [entryTokens, List.nil_append, flowMapping, bind_of_some (accept_self _ _)]
    rfl
  | cons e entries ih =>
    obtain ⟨key, value⟩ := e
    simp only [List.forall_mem_cons] at hkeys hvalues hreadKeys hreadValues
    rw [entryTokens] at hfuel ⊢
    simp only [List.length_append, List.length_cons] at hfuel
    obtain ⟨fuel, rfl⟩ : ∃ k, fuel = k + 1 := ⟨fuel - 1, by omega⟩
    have hmore := ih hkeys.2 hvalues.2 hreadKeys.2 hreadValues.2 false fuel (by omega)
    simp only [List.append_assoc, List.cons_append]
    rw [flowMapping_entry hkeys.1 hvalues.1 hreadKeys.1 hreadValues.1 first _ marks (by omega)
      (by omega), bind_of_some hmore]
    rfl

/-! ## Nodes -/

theorem content_sequence (inBlock indentless mayBeEmpty : Bool) (fuel : Nat) (rest : List Token)
    (marks : List (String × Nat)) :
    content handles inBlock indentless mayBeEmpty none (fuel + 1)
        ⟨.flowSequenceStart :: rest, marks⟩ =
      (flowSequence handles true fuel >>= fun items => pure (.sequence items)) ⟨rest, marks⟩ := by
  rw [content]
  rfl

theorem content_mapping (inBlock indentless mayBeEmpty : Bool) (fuel : Nat) (rest : List Token)
    (marks : List (String × Nat)) :
    content handles inBlock indentless mayBeEmpty none (fuel + 1)
        ⟨.flowMappingStart :: rest, marks⟩ =
      (flowMapping handles true fuel >>= fun entries => pure (.mapping entries)) ⟨rest, marks⟩ := by
  rw [content]
  rfl

/-- Every node in brackets is read back. -/
theorem node_tokens {n : Node} (h : n.InFlow) : ReadBack handles n := by
  induction h with
  | scalar style text =>
    intro inBlock fuel rest marks hfuel
    obtain ⟨fuel, rfl⟩ : ∃ k, fuel = k + 2 := ⟨fuel - 2, by simp [tokens] at hfuel; omega⟩
    rw [tokens, List.singleton_append, node_of_starts rfl, content]
    rfl
  | sequence hitems ih =>
    rename_i items
    intro inBlock fuel rest marks hfuel
    rw [tokens, List.length_cons, List.length_append] at hfuel
    obtain ⟨fuel, rfl⟩ : ∃ k, fuel = k + 3 := ⟨fuel - 3, by omega⟩
    have hread := flowSequence_itemTokens hitems ih true fuel rest marks (by omega)
    rw [tokens, List.cons_append, List.append_assoc, List.singleton_append, node_of_starts rfl,
      content_sequence, bind_of_some hread]
    rfl
  | mapping hkeys hvalues ihKeys ihValues =>
    rename_i entries
    intro inBlock fuel rest marks hfuel
    rw [tokens, List.length_cons, List.length_append] at hfuel
    obtain ⟨fuel, rfl⟩ : ∃ k, fuel = k + 3 := ⟨fuel - 3, by omega⟩
    have hread := flowMapping_entryTokens hkeys hvalues ihKeys ihValues true fuel rest marks
      (by omega)
    rw [tokens, List.cons_append, List.append_assoc, List.singleton_append, node_of_starts rfl,
      content_mapping, bind_of_some hread]
    rfl

/-- A node in brackets is the document of its tokens. -/
theorem ofTokens?_tokens {n : Node} (h : n.InFlow) : ofTokens? n.tokens = some n := by
  obtain ⟨t, ts, htokens, hstarts⟩ := exists_starts h
  have hback : ReadBack defaultHandles n := node_tokens h
  have hread := hback true (4 * n.tokens.length + 4) [] [] (Nat.le_add_right _ _)
  rw [List.append_nil] at hread
  have hwhole : whole? defaultHandles n.tokens = some (n, []) := by
    rw [whole?, StateT.run, hread]
    rfl
  have hdocument : document? n.tokens = whole? defaultHandles n.tokens := by
    rw [htokens]
    cases t <;> first | rfl | cases hstarts
  rw [ofTokens?, hdocument, hwhole]
  rfl

end WorkloadAuth.Yaml.Node
