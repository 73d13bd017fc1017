import WorkloadAuth.Certificate
import WorkloadAuth.Proofs.Result

/-!
# Texts in front of texts

Where blocks begin and end is decided by the lines alone, whether the blocks can be read or not. A
text that ends outside of its blocks leaves nothing behind: what follows it is read as if it stood
alone.

* `Pem.Ended`, `Pem.endedLines`: a text whose last line is ended; the lines that are.
* `Pem.openAfter`: whether a block is open behind some lines.
* `Pem.Complete`: a text of ended lines with no block open behind them.
* `Certificate.chainOfPem_append`: the certificates of a complete text and of another one behind it.
* `Certificate.complete_of_chainOfPem`: a text of which the certificates can be read is complete if
  its last line is ended.
-/

namespace WorkloadAuth

namespace Pem

/-! ## Lines -/

/-- A text is empty or ends with the end of a line. -/
def Ended (text : String) : Prop := text = "" ∨ ∃ front, text = front ++ "\n"

/-- The lines of a text that are ended. -/
def endedLines (text : String) : List (List Char) := (lines text).dropLast

theorem lines_append_newline (front more : String) :
    lines (front ++ "\n" ++ more) = lines front ++ lines more := by
  have hchars : (front ++ "\n" ++ more).toList = front.toList ++ '\n' :: more.toList := by simp
  rw [lines, hchars, List.splitOnP_append_cons _ _ (by rfl)]
  rfl

theorem lines_empty : lines "" = [[]] := by decide

/-- The lines of a text whose last line is ended, and of another one behind it. -/
theorem Ended.lines_append {text : String} (h : Ended text) (more : String) :
    lines (text ++ more) = endedLines text ++ lines more := by
  rcases h with rfl | ⟨front, rfl⟩
  · rw [endedLines, lines_empty, String.empty_append]
    rfl
  · have hself := lines_append_newline front ""
    rw [String.append_empty, lines_empty] at hself
    rw [lines_append_newline, endedLines, hself, List.dropLast_concat]

/-- Behind the end of the last line there is an empty one. -/
theorem Ended.lines_eq {text : String} (h : Ended text) : lines text = endedLines text ++ [[]] := by
  have hlines := h.lines_append ""
  rwa [String.append_empty, lines_empty] at hlines

/-! ## Open blocks -/

/-- Whether what follows a line is inside of a block, where it is known whether the line is. -/
def goesInside (inside : Bool) (line : List Char) : Bool :=
  if inside then !closing.isPrefixOf line else opening.isPrefixOf line

/-- Whether a block is open behind some lines. -/
def openAfter (ls : List (List Char)) : Bool := ls.foldl goesInside false

/-- A text of ended lines with no block open behind them. -/
structure Complete (text : String) : Prop where
  ended : Ended text
  closed : openAfter (endedLines text) = false

theorem complete_empty : Complete "" := ⟨.inl rfl, by decide⟩

theorem goesInside_false (line : List Char) : goesInside false line = opening.isPrefixOf line := rfl

theorem goesInside_true (line : List Char) : goesInside true line = !closing.isPrefixOf line := rfl

/-- An empty line at the end changes nothing. -/
theorem scan_concat_nil (state : Option (String × List Char)) (ls : List (List Char)) :
    scan state (ls ++ [[]]) = scan state ls := by
  have hopening : opening.isPrefixOf [] = false := by decide
  have hclosing : closing.isPrefixOf [] = false := by decide
  induction ls generalizing state with
  | nil => rcases state with - | ⟨label, body⟩ <;> simp [scan, hopening, hclosing]
  | cons line rest ih =>
    rcases state with - | ⟨label, body⟩ <;> simp only [List.cons_append, scan, ih]

/-- No block is open behind lines whose blocks can be read. -/
theorem foldl_goesInside_of_scan {state : Option (String × List Char)} {ls : List (List Char)}
    (h : ∀ found ∈ scan state ls, ∃ block, found = .ok block) :
    ls.foldl goesInside state.isSome = false := by
  have hfault {fault : Fault} : ¬ ∃ block : Block, Except.error fault = .ok block := by simp
  fun_induction scan state ls with
  | case1 => rfl
  | case2 => exact absurd (h _ List.mem_cons_self) hfault
  | case3 line rest hopens label hlabel ih =>
    rw [List.foldl_cons, Option.isSome_none, goesInside_false, hopens]
    exact ih h
  | case4 => exact absurd (h _ List.mem_cons_self) hfault
  | case5 line rest hopens ih =>
    rw [List.foldl_cons, Option.isSome_none, goesInside_false, Bool.eq_false_iff.2 hopens]
    exact ih h
  | case6 label body line rest hcloses content hcontent ih =>
    rw [List.foldl_cons, Option.isSome_some, goesInside_true, hcloses]
    exact ih fun found hfound => h found (List.mem_cons_of_mem _ hfound)
  | case7 => exact absurd (h _ List.mem_cons_self) hfault
  | case8 label body line rest hcloses ih =>
    rw [List.foldl_cons, Option.isSome_some, goesInside_true, Bool.eq_false_iff.2 hcloses]
    exact ih h

end Pem

/-! ## Certificates -/

namespace Certificate

open Pem

/-- The certificates of something that is read, and of what is read next. -/
def followedBy (first next : Except CertificateFault (List Certificate)) :
    Except CertificateFault (List Certificate) := do
  let certificates ← first
  let more ← next
  .ok (certificates ++ more)

theorem ok_followedBy (chain : List Certificate)
    (next : Except CertificateFault (List Certificate)) :
    followedBy (.ok chain) next = next.map (chain ++ ·) := by
  cases next <;> rfl

@[simp] theorem nil_followedBy (next : Except CertificateFault (List Certificate)) :
    followedBy (.ok []) next = next := by
  cases next <;> rfl

theorem followedBy_assoc (first next last : Except CertificateFault (List Certificate)) :
    followedBy (followedBy first next) last = followedBy first (followedBy next last) := by
  rcases first with fault | xs
  · rfl
  rcases next with fault | ys
  · rfl
  rcases last with fault | zs
  · rfl
  · exact congrArg Except.ok (List.append_assoc xs ys zs)

theorem followedBy_eq_ok_iff {first next : Except CertificateFault (List Certificate)}
    {chain : List Certificate} :
    followedBy first next = .ok chain ↔
      ∃ xs ys, first = .ok xs ∧ next = .ok ys ∧ chain = xs ++ ys := by
  simp only [followedBy, Except.bind_eq_ok_iff, Except.ok.injEq, eq_comm (b := chain)]
  exact ⟨fun ⟨xs, hxs, ys, hys, h⟩ => ⟨xs, ys, hxs, hys, h⟩,
    fun ⟨xs, ys, hxs, hys, h⟩ => ⟨xs, hxs, ys, hys, h⟩⟩

/-- The certificate of a block, if it has the label of one. -/
def chainOfBlock (block : Block) : Except CertificateFault (List Certificate) :=
  if block.label = pemLabel then (ofDer block.content).map fun certificate => [certificate]
  else .ok []

theorem chainOfBlocks_cons_ok (block : Block) (rest : List (Except Fault Block)) :
    chainOfBlocks (.ok block :: rest) = followedBy (chainOfBlock block) (chainOfBlocks rest) := by
  rw [chainOfBlocks, chainOfBlock]
  split
  · cases ofDer block.content <;> rfl
  · rw [nil_followedBy]

/-- The blocks of a list that has certificates can all be read. -/
theorem forall_ok_of_chainOfBlocks {found : List (Except Fault Block)} {chain : List Certificate}
    (h : chainOfBlocks found = .ok chain) : ∀ x ∈ found, ∃ block, x = .ok block := by
  induction found generalizing chain with
  | nil => exact fun x hx => absurd hx List.not_mem_nil
  | cons first rest ih =>
    rcases first with fault | block
    · cases h
    rw [chainOfBlocks_cons_ok, followedBy_eq_ok_iff] at h
    obtain ⟨xs, ys, -, hrest, -⟩ := h
    exact List.forall_mem_cons.2 ⟨⟨block, rfl⟩, ih hrest⟩

/-- The certificates of lines behind which no block is open, and of the lines that follow. -/
theorem chainOfBlocks_scan_append {state : Option (String × List Char)} {ls : List (List Char)}
    (h : ls.foldl goesInside state.isSome = false) (more : List (List Char)) :
    chainOfBlocks (scan state (ls ++ more)) =
      followedBy (chainOfBlocks (scan state ls)) (chainOfBlocks (scan none more)) := by
  -- Along the reader: a fault ends both sides, and a block that is closed leaves its state behind.
  fun_induction scan state ls with
  | case1 => rw [List.nil_append, chainOfBlocks, nil_followedBy]
  | case2 => cases h
  | case3 line rest hopens label hlabel ih =>
    rw [List.foldl_cons, Option.isSome_none, goesInside_false, hopens] at h
    rw [← ih h, List.cons_append, scan, if_pos hopens, hlabel]
  | case4 line rest hopens hlabel =>
    rw [List.cons_append, scan, if_pos hopens, hlabel]
    rfl
  | case5 line rest hopens ih =>
    rw [List.foldl_cons, Option.isSome_none, goesInside_false, Bool.eq_false_iff.2 hopens] at h
    rw [← ih h, List.cons_append, scan, if_neg hopens]
  | case6 label body line rest hcloses content hcontent ih =>
    rw [List.foldl_cons, Option.isSome_some, goesInside_true, hcloses] at h
    rw [List.cons_append, scan, if_pos hcloses, hcontent]
    simp only [chainOfBlocks_cons_ok]
    rw [ih h, followedBy_assoc]
  | case7 label body line rest hcloses hcontent =>
    rw [List.cons_append, scan, if_pos hcloses, hcontent]
    rfl
  | case8 label body line rest hcloses ih =>
    rw [List.foldl_cons, Option.isSome_some, goesInside_true, Bool.eq_false_iff.2 hcloses] at h
    rw [← ih h, List.cons_append, scan, if_neg hcloses]

/-- The end of the last line changes nothing. -/
theorem chainOfPem_newline (text : String) : chainOfPem (text ++ "\n") = chainOfPem text := by
  have hlines := lines_append_newline text ""
  rw [String.append_empty, lines_empty] at hlines
  rw [chainOfPem, blocks, hlines, scan_concat_nil]
  rfl

/-- **Texts one after the other.** The certificates of a complete text and of any text behind it
are those of the first one, and then those of the second one. -/
theorem chainOfPem_append {text : String} (h : Complete text) (more : String) :
    chainOfPem (text ++ more) = followedBy (chainOfPem text) (chainOfPem more) := by
  have hself : scan none (lines text) = scan none (endedLines text) := by
    rw [h.ended.lines_eq, scan_concat_nil]
  rw [chainOfPem, blocks, h.ended.lines_append, @chainOfBlocks_scan_append none _ h.closed, ← hself]
  rfl

/-- A text is complete if its last line is ended and its certificates can be read. -/
theorem complete_of_chainOfPem {text : String} {chain : List Certificate} (hended : Ended text)
    (h : chainOfPem text = .ok chain) : Complete text := by
  refine ⟨hended, ?_⟩
  rw [chainOfPem, blocks, hended.lines_eq, scan_concat_nil] at h
  exact @foldl_goesInside_of_scan none _ (forall_ok_of_chainOfBlocks h)

end Certificate

end WorkloadAuth
