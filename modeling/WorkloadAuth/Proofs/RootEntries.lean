import WorkloadAuth.Proofs.PemBlocks
import WorkloadAuth.Proofs.CertificateText
import WorkloadAuth.Proofs.Trust

/-!
# Roots of a configuration, entry by entry

* `Configuration.Holds`: some entries hold some certificates, each entry its own in order.
* `Configuration.trustSettings_eq_ok_iff`: the roots of a configuration are what its entries hold.
* `Configuration.holds_join_iff`: entries that are joined hold what they held.
* `Configuration.roots_concatenate`: texts, entries and joined entries, one after the other.
-/

namespace WorkloadAuth.Configuration

open Certificate

/-! ## Entries -/

/-- Every entry holds certificates, and these are all of them in order. -/
def Holds (entries : List String) (roots : List Certificate) : Prop :=
  ∃ chains, List.Forall₂ (fun entry chain => chainOfPem entry = .ok chain ∧ chain ≠ [])
    entries chains ∧ roots = chains.flatten

variable {entry : String} {entries others : List String} {roots : List Certificate}

theorem holds_nil_iff : Holds [] roots ↔ roots = [] := by
  simp [Holds]

theorem holds_cons_iff :
    Holds (entry :: entries) roots ↔
      ∃ chain more, chainOfPem entry = .ok chain ∧ chain ≠ [] ∧ Holds entries more ∧
        roots = chain ++ more := by
  constructor
  · rintro ⟨chains, hchains, rfl⟩
    cases hchains with
    | @cons _ chain _ rest hentry hrest =>
      exact ⟨chain, rest.flatten, hentry.1, hentry.2, ⟨rest, hrest, rfl⟩, rfl⟩
  · rintro ⟨chain, more, hchain, hne, ⟨rest, hrest, rfl⟩, rfl⟩
    exact ⟨chain :: rest, .cons ⟨hchain, hne⟩ hrest, rfl⟩

theorem holds_append_iff :
    Holds (entries ++ others) roots ↔
      ∃ first more, Holds entries first ∧ Holds others more ∧ roots = first ++ more := by
  induction entries generalizing roots with
  | nil => simp [holds_nil_iff]
  | cons entry entries ih =>
    simp only [List.cons_append, holds_cons_iff, ih]
    constructor
    · rintro ⟨chain, -, hchain, hne, ⟨first, more, hfirst, hmore, rfl⟩, rfl⟩
      exact ⟨chain ++ first, more, ⟨chain, first, hchain, hne, hfirst, rfl⟩, hmore, by simp⟩
    · rintro ⟨-, more, ⟨chain, first, hchain, hne, hfirst, rfl⟩, hmore, rfl⟩
      exact ⟨chain, first ++ more, hchain, hne, ⟨first, more, hfirst, hmore, rfl⟩, by simp⟩

/-- Entries among others may be replaced by some that hold the same. -/
theorem holds_among_iff {entries' : List String} (before after : List String)
    (h : ∀ roots, Holds entries roots ↔ Holds entries' roots) :
    Holds (before ++ entries ++ after) roots ↔ Holds (before ++ entries' ++ after) roots := by
  simp only [holds_append_iff, h]

theorem holds_singleton_iff : Holds [entry] roots ↔ chainOfPem entry = .ok roots ∧ roots ≠ [] := by
  simp only [holds_cons_iff, holds_nil_iff]
  constructor
  · rintro ⟨chain, -, hchain, hne, rfl, rfl⟩
    rw [List.append_nil]
    exact ⟨hchain, hne⟩
  · exact fun ⟨hchain, hne⟩ => ⟨roots, [], hchain, hne, rfl, (List.append_nil _).symm⟩

/-- Some entries hold at least one certificate. -/
theorem Holds.ne_nil (h : Holds entries roots) (hentries : entries ≠ []) : roots ≠ [] := by
  cases entries with
  | nil => exact absurd rfl hentries
  | cons entry entries =>
    obtain ⟨chain, more, -, hne, -, rfl⟩ := holds_cons_iff.1 h
    exact List.append_ne_nil_of_left_ne_nil hne more

theorem rootsFrom_eq_ok_iff {index : Nat} :
    rootsFrom index entries = .ok roots ↔ Holds entries roots := by
  induction entries generalizing index roots with
  | nil =>
    rw [holds_nil_iff, rootsFrom, Except.ok.injEq]
    exact eq_comm
  | cons entry entries ih =>
    rw [rootsFrom, holds_cons_iff, Except.bind_eq_ok_iff]
    refine exists_congr fun chain => ?_
    cases chain with
    | nil =>
      constructor
      · rintro ⟨-, ⟨⟩⟩
      · rintro ⟨-, -, hne, -⟩
        exact absurd rfl hne
    | cons certificate chain =>
      change _ ∧ (rootsFrom (index + 1) entries >>= fun more =>
        Except.ok (certificate :: chain ++ more)) = .ok roots ↔ _
      rw [Except.bind_eq_ok_iff]
      constructor
      · rintro ⟨hchain, more, hmore, h⟩
        exact ⟨more, hchain, List.cons_ne_nil _ _, ih.1 hmore, (Except.ok.inj h).symm⟩
      · rintro ⟨more, hchain, -, hmore, rfl⟩
        exact ⟨hchain, more, ih.2 hmore, rfl⟩

/-- The roots of a configuration are what its entries hold, of which there has to be one. -/
theorem trustSettings_eq_ok_iff {c : Configuration} {settings : TrustSettings} :
    c.trustSettings = .ok settings ↔
      settings.requiredUsage = c.requiredUsage ∧ c.identityCertificates ≠ [] ∧
        Holds c.identityCertificates settings.roots := by
  obtain ⟨usage, roots⟩ := settings
  rw [← @rootsFrom_eq_ok_iff _ _ 0, trustSettings]
  cases hroots : rootsFrom 0 c.identityCertificates with
  | error fault => simp
  | ok found =>
    have hholds := rootsFrom_eq_ok_iff.1 hroots
    cases found with
    | nil =>
      have hentries : c.identityCertificates = [] := by
        by_contra hne
        exact hholds.ne_nil hne rfl
      simp [hentries]
    | cons certificate found =>
      have hentries : c.identityCertificates ≠ [] := by
        intro hnil
        rw [hnil, holds_nil_iff] at hholds
        exact List.cons_ne_nil _ _ hholds
      simp only [Except.ok.injEq, TrustSettings.mk.injEq, ne_eq, hentries, not_false_eq_true,
        true_and]
      exact and_congr_left' eq_comm

/-! ## Joined entries -/

section Joined

variable {pieces : List String} {last : String}

theorem join_cons_append (piece : String) :
    String.join (piece :: pieces) ++ last = piece ++ (String.join pieces ++ last) := by
  rw [String.join_cons, String.append_assoc]

/-- Entries that do not hold nothing do not hold nothing when they are joined. -/
theorem chainOfPem_join_ne_nil (hcomplete : ∀ piece ∈ pieces, Pem.Complete piece)
    (hsome : ∀ piece ∈ pieces, chainOfPem piece ≠ .ok []) (hlast : chainOfPem last ≠ .ok []) :
    chainOfPem (String.join pieces ++ last) ≠ .ok [] := by
  cases pieces with
  | nil => rwa [String.join_nil, String.empty_append]
  | cons piece pieces =>
    rw [join_cons_append, chainOfPem_append (hcomplete piece List.mem_cons_self), ne_eq,
      followedBy_eq_ok_iff]
    rintro ⟨chain, more, hchain, -, h⟩
    obtain ⟨rfl, -⟩ := List.append_eq_nil_iff.1 h.symm
    exact hsome piece List.mem_cons_self hchain

/-- Entries of which all but the last one are complete hold what they hold when they are joined. -/
theorem holds_join_iff (hcomplete : ∀ piece ∈ pieces, Pem.Complete piece)
    (hsome : ∀ piece ∈ pieces, chainOfPem piece ≠ .ok []) (hlast : chainOfPem last ≠ .ok []) :
    Holds (pieces ++ [last]) roots ↔ Holds [String.join pieces ++ last] roots := by
  induction pieces generalizing roots with
  | nil => rw [String.join_nil, String.empty_append, List.nil_append]
  | cons piece pieces ih =>
    obtain ⟨hpiece, hcomplete⟩ := List.forall_mem_cons.1 hcomplete
    obtain ⟨hfirst, hsome⟩ := List.forall_mem_cons.1 hsome
    rw [List.cons_append, holds_cons_iff, join_cons_append, holds_singleton_iff,
      chainOfPem_append hpiece, followedBy_eq_ok_iff]
    simp only [ih hcomplete hsome, holds_singleton_iff]
    constructor
    · rintro ⟨chain, more, hchain, hne, ⟨hmore, -⟩, rfl⟩
      exact ⟨⟨chain, more, hchain, hmore, rfl⟩, List.append_ne_nil_of_left_ne_nil hne more⟩
    · rintro ⟨⟨chain, more, hchain, hmore, rfl⟩, -⟩
      have hne : chain ≠ [] := by
        rintro rfl
        exact hfirst hchain
      have hothers : more ≠ [] := by
        rintro rfl
        exact chainOfPem_join_ne_nil hcomplete hsome hlast hmore
      exact ⟨chain, more, hchain, hne, ⟨hmore, hothers⟩, rfl⟩

end Joined

/-- **Certificates of joined texts.** The certificates of a text whose last line is ended stand in
front of those of any text behind it. The roots of a configuration are the certificates of its
entries, of which each one holds some. Entries that are joined, or that one is split into outside of
its blocks, give the same roots. -/
theorem roots_concatenate :
    (∀ (text more : String) (chain : List Certificate), Pem.Ended text →
      chainOfPem text = .ok chain →
        Pem.Complete text ∧
          chainOfPem (text ++ more) = (chainOfPem more).map fun others => chain ++ others) ∧
    (∀ (c : Configuration) (settings : TrustSettings), c.trustSettings = .ok settings ↔
      settings.requiredUsage = c.requiredUsage ∧ c.identityCertificates ≠ [] ∧
        Holds c.identityCertificates settings.roots) ∧
    ∀ (c : Configuration) (before pieces after : List String) (last : String),
      (∀ piece ∈ pieces, Pem.Complete piece) → (∀ piece ∈ pieces, chainOfPem piece ≠ .ok []) →
      chainOfPem last ≠ .ok [] → ∀ settings : TrustSettings,
        { c with
            identityCertificates := before ++ (pieces ++ [last]) ++ after
          }.trustSettings = .ok settings ↔
        { c with
            identityCertificates := before ++ [String.join pieces ++ last] ++ after
          }.trustSettings = .ok settings := by
  refine ⟨?_, fun c settings => trustSettings_eq_ok_iff, ?_⟩
  · intro text more chain hended h
    have hcomplete := complete_of_chainOfPem hended h
    exact ⟨hcomplete, by rw [chainOfPem_append hcomplete, h, ok_followedBy]⟩
  · intro c before pieces after last hcomplete hsome hlast settings
    rw [trustSettings_eq_ok_iff, trustSettings_eq_ok_iff]
    refine and_congr_right' (and_congr (iff_of_true (by simp) (by simp)) ?_)
    exact holds_among_iff before after fun roots => holds_join_iff hcomplete hsome hlast

namespace Sample

open Certificate.Sample

/-- The text of the sample root, with its last line ended. -/
def endedRoot : String := root.toPem ++ "\n"

/-- A configuration with some entries. -/
def configuration (entries : List String) : Configuration where
  directory := { apiAddress := "https://api.example", password := "p", username := "u" }
  identityCertificates := entries

/-- An entry with a root and an intermediate certificate gives the roots that it gives when it is
split between them. -/
theorem split_entry :
    Pem.Ended endedRoot ∧ chainOfPem endedRoot = .ok [root] ∧
      chainOfPem (endedRoot ++ intermediate.toPem) = .ok [root, intermediate] ∧
      (configuration [leaf.toPem, endedRoot, intermediate.toPem]).trustSettings =
        .ok ⟨.any, [leaf, root, intermediate]⟩ ∧
      (configuration [leaf.toPem, endedRoot ++ intermediate.toPem]).trustSettings =
        .ok ⟨.any, [leaf, root, intermediate]⟩ := by
  obtain ⟨hjoin, hroots, hsplit⟩ := roots_concatenate
  have hended : Pem.Ended endedRoot := .inr ⟨_, rfl⟩
  have hroot : chainOfPem endedRoot = .ok [root] :=
    (chainOfPem_newline _).trans (chainOfPem_toPem (by decide +kernel))
  have hintermediate : chainOfPem intermediate.toPem = .ok [intermediate] :=
    chainOfPem_toPem (by decide +kernel)
  have hleaf : chainOfPem leaf.toPem = .ok [leaf] := chainOfPem_toPem (by decide +kernel)
  obtain ⟨hcomplete, happend⟩ := hjoin endedRoot intermediate.toPem [root] hended hroot
  have hentries : (configuration [leaf.toPem, endedRoot, intermediate.toPem]).trustSettings =
      .ok ⟨.any, [leaf, root, intermediate]⟩ := by
    refine (hroots _ _).2 ⟨rfl, by simp [configuration], [[leaf], [root], [intermediate]], ?_, rfl⟩
    simp [configuration, hleaf, hroot, hintermediate]
  have hjoined := (hsplit (configuration []) [leaf.toPem] [endedRoot] [] intermediate.toPem
    (by simpa using hcomplete) (by simp [hroot]) (by simp [hintermediate]) _).1 hentries
  rw [join_cons_append, String.join_nil, String.empty_append] at hjoined
  refine ⟨hended, hroot, ?_, hentries, hjoined⟩
  rw [happend, hintermediate]
  rfl

end Sample

end WorkloadAuth.Configuration
