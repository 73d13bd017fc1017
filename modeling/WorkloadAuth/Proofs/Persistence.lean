import WorkloadAuth.Credential
import WorkloadAuth.Configuration
import WorkloadAuth.LoginRequest
import WorkloadAuth.Engine.Renewal
import WorkloadAuth.Proofs.AddressText
import WorkloadAuth.Proofs.JsonSchema

/-!
# Stored values are read back

Credentials, roles, login requests and configurations are read back from their JSON text as they
were, with all of their networks.

* `Network.parse?_render`: a network is read from its own text, with the bits of its host.
* `Credential.shape_faithful`, `Role.shape_faithful`, `LoginRequest.shape_faithful`,
  `Configuration.shape_faithful`: the schemas tell all values apart.
* `stored_values_survive`: what follows for the values, for texts that are written anew, and for the
  renewal of a credential that was stored.
-/

namespace WorkloadAuth

open Json Net

/-! ## Networks -/

namespace Net

theorem prefixLength?_decimal {width bound : Nat} (length : Fin bound)
    (hlength : (Text.decimal length).length ≤ width) :
    prefixLength? width bound (Text.decimal length) = some length := by
  have hdigits : (Text.decimal length).all Text.isDigit :=
    List.all_eq_true.2 fun c => Text.isDigit_of_mem_decimal
  rw [prefixLength?, if_pos ⟨Text.length_decimal_pos _, hlength, hdigits⟩]
  simp only [Text.decimalValue_decimal, length.isLt, dite_true]

theorem not_mem_renderGroups (gs : List Nat) {c : Char} (hhex : Text.hexValue? c = none)
    (hcolon : c ≠ ':') : c ∉ renderGroups gs := by
  induction gs with
  | nil => nofun
  | cons g gs ih =>
    cases gs with
    | nil => simpa [renderGroups] using not_mem_hexOfNat g hhex
    | cons g' gs =>
      rw [renderGroups_cons_cons]
      simp [not_mem_hexOfNat g hhex, hcolon, ih]

/-- No address has a slash in its text. -/
theorem slash_not_mem_renderV6 (bits : BitVec 128) : '/' ∉ renderV6 bits := by
  have hgroups (gs : List Nat) : '/' ∉ renderGroups gs := not_mem_renderGroups gs rfl (by decide)
  unfold renderV6
  split
  · simp [not_mem_renderV4 _ (c := '/') rfl (by decide)]
  · unfold renderShortest
    split
    split
    · simp [hgroups]
    · exact hgroups _

theorem split_slash {address : List Char} (h : '/' ∉ address) (length : Nat) :
    split '/' (address ++ '/' :: Text.decimal length) = [address, Text.decimal length] := by
  have hlength : '/' ∉ Text.decimal length :=
    fun hmem => absurd (Text.isDigit_of_mem_decimal hmem) (by decide)
  rw [split_eq_splitOn, List.splitOn_append_cons_self_of_not_mem h,
    List.splitOn_eq_singleton hlength]

/-- **Round trip of networks.** Every network is read back from its text, whether or not bits behind
its prefix are set. -/
theorem Network.parse?_render (n : Network) : Network.parse? n.render = some n := by
  cases n with
  | v4 bits length =>
    have hslash : '/' ∉ renderV4 bits := not_mem_renderV4 bits rfl (by decide)
    have hlength : (Text.decimal length).length ≤ 2 :=
      (Nat.length_toDigits_le_iff (by decide) (by decide)).2 (by omega)
    simp only [Network.parse?, Network.render, String.toList_ofList, Network.ofChars?,
      split_slash hslash, v4Bits?_renderV4, prefixLength?_decimal length hlength, Option.map_some]
  | v6 bits length =>
    have hlength : (Text.decimal length).length ≤ 3 :=
      (Nat.length_toDigits_le_iff (by decide) (by decide)).2 (by omega)
    simp only [Network.parse?, Network.render, String.toList_ofList, Network.ofChars?,
      split_slash (slash_not_mem_renderV6 bits),
      v4Bits?_eq_none_of_colon _ (colon_mem_renderV6 bits), v6Bits?_renderV6,
      prefixLength?_decimal length hlength, Option.map_some,
      Option.bind_eq_bind, Option.bind_some]

end Net

/-! ## The schemas of stored values -/

theorem Net.Network.shape_faithful (depth : Nat) : Network.shape.Faithful depth := by
  rw [Network.shape, Shape.Faithful]
  exact Network.parse?_render

theorem Credential.shape_faithful : Credential.shape.Faithful Reader.depthLimit := by
  simp [shape, aliasShape, Lease.shape, Network.shape_faithful, Reader.depthLimit]

theorem Role.shape_faithful : Role.shape.Faithful Reader.depthLimit := by
  simp [shape, Network.shape_faithful, Reader.depthLimit]

theorem LoginRequest.shape_faithful : LoginRequest.shape.Faithful Reader.depthLimit := by
  simp [shape, Reader.depthLimit]

theorem RequiredUsage.shape_faithful (depth : Nat) : RequiredUsage.shape.Faithful depth := by
  rw [shape, Shape.Faithful]
  rintro (_ | _ | _) <;> rfl

theorem Configuration.shape_faithful : Configuration.shape.Faithful Reader.depthLimit := by
  simp [shape, DirectorySettings.shape, RequiredUsage.shape_faithful, Reader.depthLimit]

/-! ## Stored values -/

/-- **Stored values survive.** Credentials, roles, login requests and configurations are what their
JSON text is read as; a text that is read as one of them is the same after one rewriting and after
several; and the renewal of a credential is the same dialogue as that of the original, so both have
the same result and write the same log records in every world. -/
theorem stored_values_survive :
    Credential.shape.Survives ∧ Role.shape.Survives ∧ LoginRequest.shape.Survives ∧
      Configuration.shape.Survives ∧
      ∀ {I : Interface.{0}} (e : Engine I) (context : Log.Context) (credential : Credential)
        (remote : String),
        (e.renew context · remote) <$>
            Credential.shape.ofJson (Credential.shape.toJson credential) =
          .ok (e.renew context credential remote) := by
  refine ⟨Credential.shape_faithful.survives, Role.shape_faithful.survives,
    LoginRequest.shape_faithful.survives, Configuration.shape_faithful.survives, ?_⟩
  intro I e context credential remote
  rw [Shape.ofJson_toJson Credential.shape_faithful]
  rfl

end WorkloadAuth
