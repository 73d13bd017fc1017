import WorkloadAuth.Configuration
import WorkloadAuth.Proofs.Result

/-!
# Certificates as text

* `Text.Base64.decode?_encode`: octets are read back from their base64 text.
* `Certificate.toPem`, `Certificate.chainOfPem_toPem`: a certificate is read back from its block.
* `Configuration.trustSettings_toPem`: so are the roots of a configuration.
-/

namespace WorkloadAuth

/-! ## Base64 -/

namespace Text.Base64

theorem value?_digit : ∀ n < 64, value? (digit n) = some n := by decide

theorem digit_ne_pad : ∀ n < 64, digit n ≠ '=' := by decide

theorem group?_three {x y z w : Nat} (hx : x < 64) (hy : y < 64) (hz : z < 64) (hw : w < 64) :
    group? (digit x) (digit y) (digit z) (digit w) =
      some [UInt8.ofNat (x * 4 + y / 16), UInt8.ofNat (y % 16 * 16 + z / 4),
        UInt8.ofNat (z % 4 * 64 + w)] := by
  simp [group?, value?_digit, digit_ne_pad, hx, hy, hz, hw]

theorem group?_two {x y z : Nat} (hx : x < 64) (hy : y < 64) (hz : z < 64) (hzero : z % 4 = 0) :
    group? (digit x) (digit y) (digit z) '=' =
      some [UInt8.ofNat (x * 4 + y / 16), UInt8.ofNat (y % 16 * 16 + z / 4)] := by
  simp [group?, value?_digit, digit_ne_pad, hx, hy, hz, hzero]

theorem group?_one {x y : Nat} (hx : x < 64) (hy : y < 64) (hzero : y % 16 = 0) :
    group? (digit x) (digit y) '=' '=' = some [UInt8.ofNat (x * 4 + y / 16)] := by
  simp [group?, value?_digit, hx, hy, hzero]

theorem ofNat_eq {n : Nat} {a : UInt8} (h : n = a.toNat) : UInt8.ofNat n = a := by
  rw [h, UInt8.ofNat_toNat]

/-- Octets are read back from their text. -/
theorem decode?_encode (bytes : List UInt8) : decode? (encode bytes) = some bytes := by
  induction bytes using encode.induct with
  | case1 => rfl
  | case2 a =>
    have ha := a.toNat_lt
    rw [encode, decode?, group?_one (by omega) (by omega) (by omega), decode?,
      ofNat_eq (a := a) (by omega)]
    rfl
  | case3 a b =>
    have ha := a.toNat_lt
    have hb := b.toNat_lt
    rw [encode, decode?, group?_two (by omega) (by omega) (by omega) (by omega), decode?,
      ofNat_eq (a := a) (by omega), ofNat_eq (a := b) (by omega)]
    rfl
  | case4 a b c rest ih =>
    have ha := a.toNat_lt
    have hb := b.toNat_lt
    have hc := c.toNat_lt
    rw [encode, decode?, group?_three (by omega) (by omega) (by omega) (by omega), ih,
      ofNat_eq (a := a) (by omega), ofNat_eq (a := b) (by omega), ofNat_eq (a := c) (by omega)]
    rfl

/-- The characters of a base64 text are digits and pads. -/
theorem mem_encode {bytes : List UInt8} {c : Char} (h : c ∈ encode bytes) :
    c = '=' ∨ ∃ n < 64, c = digit n := by
  induction bytes using encode.induct with
  | case1 => exact absurd h List.not_mem_nil
  | case2 a =>
    have ha := a.toNat_lt
    simp only [encode, List.mem_cons, List.not_mem_nil, or_false] at h
    rcases h with h | h | h | h
    · exact .inr ⟨_, by omega, h⟩
    · exact .inr ⟨_, by omega, h⟩
    · exact .inl h
    · exact .inl h
  | case3 a b =>
    have ha := a.toNat_lt
    have hb := b.toNat_lt
    simp only [encode, List.mem_cons, List.not_mem_nil, or_false] at h
    rcases h with h | h | h | h
    · exact .inr ⟨_, by omega, h⟩
    · exact .inr ⟨_, by omega, h⟩
    · exact .inr ⟨_, by omega, h⟩
    · exact .inl h
  | case4 a b d rest ih =>
    have ha := a.toNat_lt
    have hb := b.toNat_lt
    have hd := d.toNat_lt
    simp only [encode, List.mem_cons] at h
    rcases h with h | h | h | h | h
    · exact .inr ⟨_, by omega, h⟩
    · exact .inr ⟨_, by omega, h⟩
    · exact .inr ⟨_, by omega, h⟩
    · exact .inr ⟨_, by omega, h⟩
    · exact ih h

end Text.Base64

/-! ## Blocks -/

namespace Certificate

/-- The text of a certificate: a block of three lines. -/
def toPem (c : Certificate) : String :=
  String.ofList (['\n'].intercalate
    [Pem.opening ++ pemLabel.toList ++ Pem.dashes, Text.Base64.encode c.der,
      Pem.closing ++ pemLabel.toList ++ Pem.dashes])

/-- The characters of a base64 text neither end a line nor are blank, and are no dashes. -/
theorem plain_of_mem_encode {bytes : List UInt8} {ch : Char}
    (h : ch ∈ Text.Base64.encode bytes) : ch ≠ '\n' ∧ ch ≠ '-' ∧ Text.isBlank ch = false := by
  have hdigit : ∀ n < 64, Text.Base64.digit n ≠ '\n' ∧ Text.Base64.digit n ≠ '-' ∧
      Text.isBlank (Text.Base64.digit n) = false := by decide
  rcases Text.Base64.mem_encode h with rfl | ⟨n, hn, rfl⟩
  · decide
  · exact hdigit n hn

theorem lines_toPem (c : Certificate) :
    Pem.lines c.toPem = [Pem.opening ++ pemLabel.toList ++ Pem.dashes,
      Text.Base64.encode c.der, Pem.closing ++ pemLabel.toList ++ Pem.dashes] := by
  rw [Pem.lines, toPem, String.toList_ofList, ← List.splitOn_eq_splitOnP]
  refine List.splitOn_intercalate '\n' ?_ (by simp)
  intro line hline
  simp only [List.mem_cons, List.not_mem_nil, or_false] at hline
  rcases hline with rfl | rfl | rfl
  · decide
  · exact fun hmem => (plain_of_mem_encode hmem).1 rfl
  · decide

theorem toPem_ne_empty (c : Certificate) : c.toPem ≠ "" := by
  intro h
  have hlines := lines_toPem c
  rw [h] at hlines
  cases hlines

/-- A base64 text does not look like the end of a block. -/
theorem not_closing_encode (bytes : List UInt8) :
    Pem.closing.isPrefixOf (Text.Base64.encode bytes) = false := by
  cases htext : Text.Base64.encode bytes with
  | nil => decide
  | cons ch rest =>
    have hmem : ch ∈ Text.Base64.encode bytes := by
      rw [htext]
      exact List.mem_cons_self
    have hch : ch ≠ '-' := (plain_of_mem_encode hmem).2.1
    have hclosing : Pem.closing = '-' :: "----END ".toList := by decide
    rw [hclosing, List.isPrefixOf_cons_cons, beq_false_of_ne (Ne.symm hch), Bool.false_and]

theorem trimEnd_encode (bytes : List UInt8) :
    Text.trimEnd (Text.Base64.encode bytes) = Text.Base64.encode bytes := by
  have hkeep : (Text.Base64.encode bytes).reverse.dropWhile Text.isBlank =
      (Text.Base64.encode bytes).reverse := by
    cases htext : (Text.Base64.encode bytes).reverse with
    | nil => rfl
    | cons ch rest =>
      have hmem : ch ∈ Text.Base64.encode bytes := by
        rw [← List.mem_reverse, htext]
        exact List.mem_cons_self
      exact List.dropWhile_cons_of_neg (by simp [(plain_of_mem_encode hmem).2.2])
  rw [Text.trimEnd, hkeep, List.reverse_reverse]

/-- A certificate is read back from its text. -/
theorem chainOfPem_toPem {c : Certificate} (h : c.inspect.isOk) :
    chainOfPem c.toPem = .ok [c] := by
  have hopening : Pem.opening.isPrefixOf (Pem.opening ++ pemLabel.toList ++ Pem.dashes) := by
    decide
  have hlabel : Pem.label? (Pem.opening ++ pemLabel.toList ++ Pem.dashes) = some pemLabel := by
    decide
  have hclosing : Pem.closing.isPrefixOf (Pem.closing ++ pemLabel.toList ++ Pem.dashes) := by
    decide
  have hblocks : Pem.blocks c.toPem = [.ok ⟨pemLabel, c.der⟩] := by
    rw [Pem.blocks, lines_toPem]
    simp only [Pem.scan, hopening, hlabel, hclosing, not_closing_encode, trimEnd_encode,
      Text.Base64.decode?_encode, List.nil_append, if_true]
    rfl
  have hread : ofDer c.der = .ok c := by
    rw [ofDer]
    obtain ⟨inspected, hinspected⟩ := Except.isOk_iff.1 h
    exact Except.bind_eq_ok_iff.2 ⟨inspected, hinspected, rfl⟩
  rw [chainOfPem, hblocks]
  simp only [chainOfBlocks, hread, if_true]
  rfl

end Certificate

/-! ## Configurations -/

namespace Configuration

theorem rootsFrom_toPem {roots : List Certificate}
    (h : ∀ root ∈ roots, root.inspect.isOk) (index : Nat) :
    rootsFrom index (roots.map Certificate.toPem) = .ok roots := by
  induction roots generalizing index with
  | nil => rfl
  | cons root roots ih =>
    have hroot := Certificate.chainOfPem_toPem (h root List.mem_cons_self)
    have hrest := ih (fun other hother => h other (List.mem_cons_of_mem root hother)) (index + 1)
    simp only [List.map_cons, rootsFrom, hroot, hrest]
    rfl

/-- The roots of a configuration are read back from their texts. -/
theorem trustSettings_toPem {c : Configuration} {root : Certificate} {roots : List Certificate}
    (hentries : c.identityCertificates = (root :: roots).map Certificate.toPem)
    (h : ∀ r ∈ root :: roots, r.inspect.isOk) :
    c.trustSettings = .ok ⟨c.requiredUsage, root :: roots⟩ := by
  rw [trustSettings, hentries, rootsFrom_toPem h]

end Configuration

end WorkloadAuth
