import Mathlib.Data.List.TakeWhile
import WorkloadAuth.Proofs.AddressText
import WorkloadAuth.Proofs.Blanks
import WorkloadAuth.Proofs.RoleChecks

/-!
# Origins of requests as addresses

The text that names the origin of a request may be spelled in many ways. A role reads an address
from it, and nothing else of the text counts.

* `IpAddress.isLetter`, `IpAddress.letters_of_ofChars?`: the characters of the texts of addresses.
* `remoteAddress?_of_spelling`: the address of an origin with blanks around it.
* `RoleCondition.Holds.congr`: a condition of a role depends on the addresses only.
* `Role.verdict`, `Role.verdict_of_addresses`: so does the verdict of the whole check.
-/

namespace WorkloadAuth.Net

open Text

/-! ## Letters of addresses -/

/-- The characters that addresses are written with. -/
def IpAddress.isLetter (c : Char) : Bool := (hexValue? c).isSome || c == ':' || c == '.'

/-- A text is written with the characters of addresses. -/
def Lettered (cs : List Char) : Prop := ∀ c ∈ cs, IpAddress.isLetter c = true

theorem Lettered.append {xs ys : List Char} (hxs : Lettered xs) (hys : Lettered ys) :
    Lettered (xs ++ ys) := fun c hc =>
  (List.mem_append.1 hc).elim (hxs c) (hys c)

theorem Lettered.cons {c : Char} {cs : List Char} (hc : IpAddress.isLetter c = true)
    (hcs : Lettered cs) : Lettered (c :: cs) := List.forall_mem_cons.2 ⟨hc, hcs⟩

theorem Lettered.nil : Lettered [] := fun _ hc => absurd hc List.not_mem_nil

/-- Pieces with a separator between them are lettered if the separator and the pieces are. -/
theorem Lettered.of_split {separator : Char} {cs : List Char}
    (hseparator : IpAddress.isLetter separator = true)
    (h : ∀ piece ∈ split separator cs, Lettered piece) : Lettered cs := by
  have hcs : List.intercalate [separator] (split separator cs) = cs := by
    rw [split_eq_splitOn, List.intercalate_splitOn]
  rw [← hcs]
  generalize split separator cs = pieces at h
  induction pieces with
  | nil => exact Lettered.nil
  | cons piece pieces ih =>
    obtain ⟨hpiece, hpieces⟩ := List.forall_mem_cons.1 h
    match pieces with
    | [] => rwa [List.intercalate_singleton]
    | next :: pieces =>
      rw [List.intercalate_cons_cons]
      exact (hpiece.append (.cons hseparator .nil)).append (ih hpieces)

theorem lettered_of_octet? {rules : AddressRules} {cs : List Char} {n : Nat}
    (h : octet? rules cs = some n) : Lettered cs := by
  unfold octet? at h
  split at h
  · rename_i hoctet
    exact fun c hc => forall_isDigit (by decide) (List.all_eq_true.1 hoctet.2.2.1 c hc)
  · cases h

theorem lettered_of_group? {cs : List Char} {n : Nat} (h : group? cs = some n) : Lettered cs := by
  unfold group? at h
  split at h
  · obtain ⟨digits, hread, -⟩ := Option.map_eq_some_iff.1 h
    intro c hc
    have hdigit := hexValue?_ne_none_of_mem hread hc
    simp [IpAddress.isLetter, Option.isSome_iff_ne_none, hdigit]
  · cases h

theorem lettered_of_v4Bits? {rules : AddressRules} {cs : List Char} {bits : BitVec 32}
    (h : v4Bits? rules cs = some bits) : Lettered cs := by
  unfold v4Bits? at h
  split at h
  · rename_i a b c d hsplit
    simp only [Option.bind_eq_bind, Option.bind_eq_some_iff] at h
    obtain ⟨_, ha, _, hb, _, hc, _, hd, -⟩ := h
    refine .of_split (show IpAddress.isLetter '.' = true by decide) ?_
    rw [hsplit]
    simp only [List.forall_mem_cons]
    exact ⟨lettered_of_octet? ha, lettered_of_octet? hb, lettered_of_octet? hc,
      lettered_of_octet? hd, fun _ hnone => absurd hnone List.not_mem_nil⟩
  · cases h

theorem lettered_of_groups? {rules : AddressRules} {tail : Bool} {pieces : List (List Char)}
    {gs : List Nat} (h : groups? rules tail pieces = some gs) :
    ∀ piece ∈ pieces, Lettered piece := by
  induction pieces generalizing gs with
  | nil => exact fun _ hnone => absurd hnone List.not_mem_nil
  | cons piece pieces ih =>
    match pieces with
    | [] =>
      rw [List.forall_mem_singleton]
      simp only [groups?] at h
      split at h
      · rename_i hgroup
        exact lettered_of_group? hgroup
      · split at h
        · obtain ⟨bits, hbits, -⟩ := Option.map_eq_some_iff.1 h
          exact lettered_of_v4Bits? hbits
        · cases h
    | next :: pieces =>
      simp only [groups?, Option.bind_eq_bind, Option.bind_eq_some_iff] at h
      obtain ⟨g, hg, gs', hgs, -⟩ := h
      exact List.forall_mem_cons.2 ⟨lettered_of_group? hg, ih hgs⟩

theorem lettered_of_side? {rules : AddressRules} {tail : Bool} {cs : List Char} {gs : List Nat}
    (h : side? rules tail cs = some gs) : Lettered cs := by
  unfold side? at h
  split at h
  · rename_i hempty
    rw [List.isEmpty_iff.1 hempty]
    exact Lettered.nil
  · exact .of_split (by decide) (lettered_of_groups? h)

theorem eq_of_gap? {cs before after : List Char} (h : gap? cs = some (before, after)) :
    cs = before ++ ':' :: ':' :: after := by
  induction cs using gap?.induct generalizing before with
  | case1 => cases h
  | case2 rest =>
    cases h
    rfl
  | case3 c rest hgap ih =>
    rw [gap?] at h
    · obtain ⟨⟨first, last⟩, hrest, heq⟩ := Option.map_eq_some_iff.1 h
      cases heq
      rw [ih hrest, List.cons_append]
    · exact hgap

theorem lettered_of_v6Bits? {rules : AddressRules} {cs : List Char} {bits : BitVec 128}
    (h : v6Bits? rules cs = some bits) : Lettered cs := by
  have hcolon : IpAddress.isLetter ':' = true := by decide
  unfold v6Bits? at h
  split at h
  · rename_i before after hgap
    simp only [Option.bind_eq_bind, Option.bind_eq_some_iff] at h
    obtain ⟨head, hhead, tail, htail, -⟩ := h
    rw [eq_of_gap? hgap]
    exact (lettered_of_side? hhead).append (.cons hcolon (.cons hcolon (lettered_of_side? htail)))
  · simp only [Option.bind_eq_bind, Option.bind_eq_some_iff] at h
    obtain ⟨gs, hgs, -⟩ := h
    exact .of_split hcolon (lettered_of_groups? hgs)

theorem IpAddress.letters_of_ofChars? {rules : AddressRules} {cs : List Char} {a : IpAddress}
    (h : IpAddress.ofChars? rules cs = some a) : Lettered cs := by
  rw [IpAddress.ofChars?, Option.or_eq_some_iff] at h
  rcases h with h | ⟨-, h⟩
  · obtain ⟨bits, hbits, -⟩ := Option.map_eq_some_iff.1 h
    exact lettered_of_v4Bits? hbits
  · obtain ⟨bits, hbits, -⟩ := Option.map_eq_some_iff.1 h
    exact lettered_of_v6Bits? hbits

theorem IpAddress.ofChars?_nil (rules : AddressRules) : IpAddress.ofChars? rules [] = none := rfl

/-- No character of an address is blank, and none is a slash. -/
theorem IpAddress.isBlank_of_isLetter {c : Char} (h : IpAddress.isLetter c = true) :
    isBlank c = false ∧ c ≠ '/' := by
  have hrange : (0x30 ≤ c.toNat ∧ c.toNat ≤ 0x3a) ∨ (0x41 ≤ c.toNat ∧ c.toNat ≤ 0x66) ∨
      c.toNat = 0x2e := by
    simp only [IpAddress.isLetter, Bool.or_eq_true, beq_iff_eq] at h
    rcases h with (hdigit | rfl) | rfl
    · simp only [hexValue?, apply_ite Option.isSome, Option.isSome_some, Option.isSome_none]
        at hdigit
      grind
    · decide
    · decide
  constructor
  · simp only [isBlank, Bool.or_eq_false_iff, Bool.and_eq_false_iff, decide_eq_false_iff_not,
      beq_eq_false_iff_ne]
    omega
  · rintro rfl
    revert hrange
    decide

end WorkloadAuth.Net

namespace WorkloadAuth

open Net Text

/-! ## The address of an origin -/

/-- The text of an origin in front of the first slash, without blanks around it. -/
def originText (remote : String) : String :=
  String.ofList (trim (remote.toList.takeWhile (· != '/')))

theorem parse?_originText (remote : String) :
    IpAddress.parse? (originText remote) = remoteAddress? remote := by
  rw [originText, IpAddress.parse?, String.toList_ofList, remoteAddress?]

/-- What follows a slash does not count. -/
theorem originText_append_mask (remote mask : String) :
    originText (remote ++ "/" ++ mask) = originText remote := by
  have hslash : (remote ++ "/" ++ mask).toList.takeWhile (· != '/') =
      remote.toList.takeWhile (· != '/') := by
    rw [String.toList_append, String.toList_append, List.append_assoc]
    exact takeWhile_append_cons (by decide) _ _
  rw [originText, hslash, originText]

/-- An address may be spelled in any way, with blanks around it. -/
theorem originText_of_spelling {before spelled after : String} {a : IpAddress}
    (hread : IpAddress.parse? spelled = some a) (hbefore : before.toList.all isBlank = true)
    (hafter : after.toList.all isBlank = true) :
    originText (before ++ spelled ++ after) = spelled := by
  have hletters : Lettered spelled.toList := IpAddress.letters_of_ofChars? hread
  have hne : spelled.toList ≠ [] := by
    intro hnil
    rw [IpAddress.parse?, hnil, IpAddress.ofChars?_nil] at hread
    cases hread
  have hblank {c : Char} (hc : isBlank c = true) : (c != '/') = true := by
    rw [bne_iff_ne]
    rintro rfl
    exact absurd hc (by decide)
  have hslash : ∀ c ∈ before.toList ++ spelled.toList ++ after.toList, (c != '/') = true := by
    simp only [List.forall_mem_append]
    exact ⟨⟨fun c hc => hblank (List.all_eq_true.1 hbefore c hc),
      fun c hc => bne_iff_ne.2 (IpAddress.isBlank_of_isLetter (hletters c hc)).2⟩,
      fun c hc => hblank (List.all_eq_true.1 hafter c hc)⟩
  have hunblank : Unblank spelled.toList := fun c hc =>
    (IpAddress.isBlank_of_isLetter (hletters c hc)).1
  rw [originText, String.toList_append, String.toList_append, List.takeWhile_eq_self_iff.2 hslash,
    trim_of_blanks hbefore hafter hunblank hne, String.ofList_toList]

/-- Two origins are the same address when IPv4-mapped addresses are read as IPv4, or neither is an
address. -/
def SameOrigin (remote remote' : String) : Prop :=
  (IpAddress.parse? (originText remote)).map IpAddress.canonical =
    (IpAddress.parse? (originText remote')).map IpAddress.canonical

instance (remote remote' : String) : Decidable (SameOrigin remote remote') :=
  inferInstanceAs (Decidable (_ = _))

theorem SameOrigin.of_spelling {before spelled after remote : String} {a origin : IpAddress}
    (hremote : IpAddress.parse? (originText remote) = some origin)
    (hspelled : IpAddress.parse? spelled = some a) (hsame : a.canonical = origin.canonical)
    (hbefore : before.toList.all isBlank = true) (hafter : after.toList.all isBlank = true) :
    SameOrigin (before ++ spelled ++ after) remote := by
  rw [SameOrigin, originText_of_spelling hspelled hbefore hafter, hspelled, hremote,
    Option.map_some, Option.map_some, hsame]

/-- What is asked of an address as it is read holds of an origin or of none that is the same. -/
theorem SameOrigin.exists_iff {remote remote' : String} (h : SameOrigin remote remote')
    (P : IpAddress → Prop) :
    (∃ a, remoteAddress? remote = some a ∧ P a.canonical) ↔
      ∃ a, remoteAddress? remote' = some a ∧ P a.canonical := by
  have hread (remote : String) : (∃ a, remoteAddress? remote = some a ∧ P a.canonical) ↔
      ∃ b, (IpAddress.parse? (originText remote)).map IpAddress.canonical = some b ∧ P b := by
    rw [parse?_originText]
    cases remoteAddress? remote <;> simp
  rw [hread, hread, h]

/-! ## Conditions and verdict -/

/-- The condition that a mismatch is about. -/
def RoleMismatch.condition : RoleMismatch → RoleCondition
  | .address .. => .address
  | .attribute a .. => .bound a
  | .network .. => .network

section Conditions

variable {r : Role} {i : Identity} {remote remote' : String} {address : IpAddress}

@[simp] theorem RoleCondition.condition_mismatch (c : RoleCondition) :
    (c.mismatch r i remote).condition = c := by
  cases c <;> rfl

/-- A condition depends on the identifiers and on the addresses as they are read. -/
theorem RoleCondition.Holds.congr (horigin : SameOrigin remote' remote)
    (haddress : address.canonical = i.address.canonical) (c : RoleCondition) :
    c.Holds r { i with address := address } remote' ↔ c.Holds r i remote := by
  cases c with
  | address =>
    refine or_congr_right ?_
    rw [haddress]
    exact horigin.exists_iff (· = i.address.canonical)
  | bound a => cases a <;> exact Iff.rfl
  | network =>
    exact or_congr_right (horigin.exists_iff fun a => ∃ n ∈ r.boundNetworks, n.contains a = true)

/-- What the check of a condition tells, without the values. -/
def RoleCondition.unmet? (r : Role) (i : Identity) (remote : String) (c : RoleCondition) :
    Option RoleCondition :=
  if c.Holds r i remote then none else some c

/-- The verdict of a role: the condition that its check finds unmet, or none. -/
def Role.verdict (r : Role) (i : Identity) (remote : String) : Except RoleCondition Unit :=
  (r.check i remote).mapError RoleMismatch.condition

/-- The verdict is that of the series of the conditions. -/
theorem Role.verdict_eq_firstFault :
    r.verdict i remote =
      firstFault (RoleCondition.unmet? r i remote) RoleCondition.order := by
  rw [verdict, check_eq_firstFault]
  induction RoleCondition.order with
  | nil => rfl
  | cons c conditions ih =>
    by_cases hholds : c.Holds r i remote
    · have hmet : RoleCondition.unmet? r i remote c = none := if_pos hholds
      rw [firstFault_cons_none (RoleCondition.fault?_of_holds hholds), firstFault_cons_none hmet,
        ih]
    · have hunmet : RoleCondition.unmet? r i remote c = some c := if_neg hholds
      rw [firstFault_cons_some (RoleCondition.fault?_of_unmet hholds), firstFault_cons_some hunmet,
        Except.mapError_error, RoleCondition.condition_mismatch]

theorem Role.verdict_congr (horigin : SameOrigin remote' remote)
    (haddress : address.canonical = i.address.canonical) :
    r.verdict { i with address := address } remote' = r.verdict i remote := by
  have hunmet : RoleCondition.unmet? r { i with address := address } remote' =
      RoleCondition.unmet? r i remote :=
    funext fun c => if_congr (RoleCondition.Holds.congr horigin haddress c) rfl rfl
  rw [verdict_eq_firstFault, verdict_eq_firstFault, hunmet]

end Conditions

/-- **The verdict of a role depends on addresses only.** Two origins that are the same address, or
that are both no address, get the same verdict, and so do identities at the same address; an
IPv4-mapped address is the same as its IPv4 address in both places. What stands behind a slash does
not count, nor how the address is spelled, nor blanks around it. -/
theorem Role.verdict_of_addresses (r : Role) (i : Identity) (remote : String) :
    (∀ remote' address, SameOrigin remote' remote → address.canonical = i.address.canonical →
      r.verdict { i with address := address } remote' = r.verdict i remote) ∧
    (∀ mask, r.verdict i (remote ++ "/" ++ mask) = r.verdict i remote) ∧
    (∀ before spelled after mask : String, ∀ a origin,
      IpAddress.parse? (originText remote) = some origin → IpAddress.parse? spelled = some a →
      a.canonical = origin.canonical → before.toList.all isBlank = true →
      after.toList.all isBlank = true →
      r.verdict i (before ++ spelled ++ after ++ "/" ++ mask) = r.verdict i remote) := by
  have hmask (remote mask : String) : r.verdict i (remote ++ "/" ++ mask) = r.verdict i remote := by
    have hsame : SameOrigin (remote ++ "/" ++ mask) remote := by
      rw [SameOrigin, originText_append_mask]
    exact verdict_congr hsame rfl
  refine ⟨fun remote' address => verdict_congr, hmask remote, ?_⟩
  intro before spelled after mask a origin hremote hspelled hsame hbefore hafter
  rw [hmask]
  exact verdict_congr (.of_spelling hremote hspelled hsame hbefore hafter) rfl

namespace Role.Sample

/-- A role that binds the networks and the organization, and waives nothing. -/
def bound : Role := { waiving with disableIpMatching := false }

/-- The address of the workload in four spellings and two families. What stands behind a slash
changes nothing, and two origins that are no address are refused alike. -/
theorem spelled_origins :
    let mappedAddress := IpAddress.v6 (mapped 0x0a000005)
    bound.verdict workload "10.0.0.5" = .ok () ∧
      SameOrigin "\u2003::FFFF:0a00:5 /96/x" "10.0.0.5" ∧
      mappedAddress.canonical = workload.address.canonical ∧
      bound.verdict { workload with address := mappedAddress } "\u2003::FFFF:0a00:5 /96/x" =
        .ok () ∧
      bound.verdict workload "10.0.0.5/0" = .ok () ∧
      IpAddress.parse? (originText "10.0.0.5") = some workload.address ∧
      IpAddress.parse? "0:0::ffff:10.0.0.5" = some mappedAddress ∧
      bound.verdict workload (" " ++ "0:0::ffff:10.0.0.5" ++ "\t" ++ "/" ++ "255.0.0.0") = .ok () ∧
      SameOrigin "10.0.0.05" "" ∧
      bound.verdict workload "" = .error .address ∧
      bound.verdict workload "10.0.0.05" = .error .address := by
  intro mappedAddress
  have hok : bound.verdict workload "10.0.0.5" = .ok () := by decide +kernel
  have hempty : bound.verdict workload "" = .error .address := by decide +kernel
  have hmapped : SameOrigin "\u2003::FFFF:0a00:5 /96/x" "10.0.0.5" := by decide +kernel
  have hneither : SameOrigin "10.0.0.05" "" := by decide +kernel
  have hread : IpAddress.parse? (originText "10.0.0.5") = some workload.address := by decide +kernel
  have hspelled : IpAddress.parse? "0:0::ffff:10.0.0.5" = some mappedAddress := by decide +kernel
  have hcanonical : mappedAddress.canonical = workload.address.canonical := by decide +kernel
  obtain ⟨hsame, hmask, hspelling⟩ := verdict_of_addresses bound workload "10.0.0.5"
  obtain ⟨hrefused, -⟩ := verdict_of_addresses bound workload ""
  exact ⟨hok, hmapped, hcanonical, (hsame _ _ hmapped hcanonical).trans hok, (hmask "0").trans hok,
    hread, hspelled,
    (hspelling " " _ "\t" "255.0.0.0" _ _ hread hspelled hcanonical (by decide) (by decide)).trans
      hok, hneither, hempty,
    (hrefused "10.0.0.05" workload.address hneither rfl).trans hempty⟩

end Role.Sample

end WorkloadAuth
