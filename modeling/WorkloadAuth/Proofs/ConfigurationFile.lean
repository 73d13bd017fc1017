import WorkloadAuth.Proofs.JsonAsYaml
import WorkloadAuth.Proofs.StoredConfiguration
import WorkloadAuth.Proofs.Utf8

/-!
# Configuration files that hold JSON

A configuration file is read as YAML. Where it holds the JSON text of a configuration, the texts in
there may be lost or changed, and nothing else.

* `Configuration.reread?`: the configuration with its texts read again; `Configuration.texts`: these
  texts.
* `Configuration.load_jsonFile`: it is what is loaded from the file.
* `Configuration.reread?_eq_some_iff`: when it is the same configuration.
* `Store.loadConfiguration_eq_ok_iff`: when a loaded configuration is stored.
* `Configuration.jsonFile_reread`: what this means for loading and for the store.
-/

namespace WorkloadAuth

open Json Yaml Yaml.Lexer

/-! ## The schema of configurations -/

section

variable {α ρ : Type} (name : String) (default : α) (shape : Shape α) (rest : Fields ρ)

@[simp] theorem Fields.rereadable_required :
    (required name shape rest).Rereadable ↔
      name ∉ rest.names ∧ PlainName name ∧ shape.Rereadable ∧ rest.Rereadable := by
  rw [required, Rereadable]

@[simp] theorem Fields.rereadable_optional :
    (optional name default shape rest).Rereadable ↔
      name ∉ rest.names ∧ PlainName name ∧ shape.Rereadable ∧ rest.Rereadable := by
  rw [optional, Rereadable]

end

theorem RequiredUsage.shape_rereadable : RequiredUsage.shape.Rereadable := by
  rw [shape, Shape.Rereadable]
  rintro (_ | _ | _) <;> exact ⟨by decide, rfl⟩

theorem DirectorySettings.shape_rereadable : DirectorySettings.shape.Rereadable := by
  simp only [shape, Shape.Rereadable, Fields.rereadable_required, Fields.rereadable_optional,
    Fields.Rereadable, Fields.names_required, Fields.names_optional, Fields.names_nil]
  decide

theorem Configuration.shape_rereadable : Configuration.shape.Rereadable := by
  simp only [shape, Shape.Rereadable, Fields.rereadable_required, Fields.rereadable_optional,
    Fields.Rereadable, Fields.names_required, Fields.names_optional, Fields.names_nil,
    DirectorySettings.shape_rereadable, RequiredUsage.shape_rereadable]
  decide

/-! ## Texts that are read again -/

/-- The settings of which the texts are read again. -/
def DirectorySettings.reread? (d : DirectorySettings) : Option DirectorySettings := do
  let apiAddress ← rereadText? d.apiAddress
  let trustedCertificates ← d.trustedCertificates.mapM rereadText?
  let password ← rereadText? d.password
  let username ← rereadText? d.username
  some { d with apiAddress, trustedCertificates, password, username }

theorem DirectorySettings.reread?_shape (d : DirectorySettings) :
    shape.reread? d = d.reread? := by
  rw [shape, Shape.reread?, reread?]
  simp only [Fields.required, Fields.optional, Fields.reread?, Shape.reread?]
  cases rereadText? d.apiAddress with
  | none => rfl
  | some apiAddress =>
    cases d.trustedCertificates.mapM rereadText? with
    | none => rfl
    | some trustedCertificates =>
      cases rereadText? d.password with
      | none => rfl
      | some password => cases rereadText? d.username <;> rfl

namespace Configuration

/-- The configuration of which the texts are read again. -/
def reread? (c : Configuration) : Option Configuration := do
  let directory ← c.directory.reread?
  let identityCertificates ← c.identityCertificates.mapM rereadText?
  some { c with directory, identityCertificates }

theorem reread?_shape (c : Configuration) : shape.reread? c = c.reread? := by
  rw [shape, Shape.reread?, reread?]
  simp only [Fields.required, Fields.optional, Fields.reread?, Shape.reread?, RequiredUsage.shape,
    DirectorySettings.reread?_shape]
  cases c.directory.reread? with
  | none => rfl
  | some directory => cases c.identityCertificates.mapM rereadText? <;> rfl

/-- The texts of a configuration. -/
def texts (c : Configuration) : List String :=
  c.directory.apiAddress :: c.directory.password :: c.directory.username ::
    (c.directory.trustedCertificates ++ c.identityCertificates)

variable {c : Configuration}

/-- A configuration is itself when it is read again if and only if all of its texts survive. -/
theorem reread?_eq_some_iff : c.reread? = some c ↔ ∀ text ∈ c.texts, Survives text := by
  obtain ⟨⟨address, certificates, password, timeout, username⟩, identityCertificates, usage⟩ := c
  simp only [← rereadText?_eq_some_iff, texts, List.forall_mem_cons, List.forall_mem_append,
    ← mapM_eq_self_iff]
  constructor
  · intro h
    simp only [reread?, DirectorySettings.reread?, Option.bind_eq_bind, Option.bind_eq_some_iff,
      Option.some.injEq] at h
    obtain ⟨_, ⟨_, haddress, _, hcertificates, _, hpassword, _, husername, rfl⟩, _, hidentity,
      heq⟩ := h
    cases heq
    exact ⟨haddress, hpassword, husername, hcertificates, hidentity⟩
  · rintro ⟨haddress, hpassword, husername, hcertificates, hidentity⟩
    simp [reread?, DirectorySettings.reread?, haddress, hpassword, husername, hcertificates,
      hidentity]

/-! ## Files -/

/-- The file that holds the JSON text of a configuration. -/
def jsonFile (c : Configuration) : StoredFile :=
  .content (Text.Utf8.encode (shape.toJson c).toList)

/-- What is loaded from the JSON text of a configuration. -/
theorem load_jsonFile (yaml : String → String) (path : String) (c : Configuration) :
    load yaml path c.jsonFile =
      match c.reread? with
      | some c' => .ok c'
      | none =>
        .error ((Failure.of (.foreign .yaml (yaml (shape.toJson c)))).within
          (.fileUndecodable path)) := by
  have htext : StoredFile.textOf (Text.Utf8.encode (shape.toJson c).toList) =
      .ok (shape.toJson c) := by
    rw [StoredFile.textOf, Text.Utf8.decode?_encode]
    exact congrArg Except.ok String.ofList_toList
  have hread : shape.ofYaml (shape.toJson c) = c.reread? := by
    rw [← reread?_shape]
    exact Shape.ofYaml_toJson shape_rereadable c
  simp only [jsonFile, load, htext, Except.mapError_ok, Except.ok_bind, ofText, hread]
  cases c.reread? <;> rfl

theorem load_jsonFile_eq_ok_iff {yaml : String → String} {path : String} {c' : Configuration} :
    load yaml path c.jsonFile = .ok c' ↔ c.reread? = some c' := by
  rw [load_jsonFile]
  cases c.reread? with
  | none => exact iff_of_false nofun nofun
  | some found => rw [Except.ok.injEq, Option.some.injEq]

end Configuration

namespace Store

/-- Loading a file stores a configuration if and only if it is what the file holds, and
certificates can be verified with it. -/
theorem loadConfiguration_eq_ok_iff {context : Log.Context} {yaml : String → String} {path : String}
    {file : StoredFile} {s : Store} {c : Configuration} :
    (s.loadConfiguration context yaml path file).result = .ok () ∧
        (s.loadConfiguration context yaml path file).store = { s with configuration := some c } ↔
      Configuration.load yaml path file = .ok c ∧ ∃ settings, c.trustSettings = .ok settings := by
  unfold loadConfiguration
  cases Configuration.load yaml path file with
  | error failure => exact iff_of_false (fun h => absurd h.1 (by simp [refuse])) (by simp)
  | ok found =>
    simp only [setConfiguration]
    cases htrust : found.trustSettings with
    | error fault =>
      refine iff_of_false (fun h => absurd h.1 (by simp [refuse])) ?_
      rintro ⟨hfound, settings, hsettings⟩
      rw [← Except.ok.inj hfound, htrust] at hsettings
      cases hsettings
    | ok settings =>
      constructor
      · rintro ⟨-, hstore⟩
        obtain rfl : found = c := Option.some.inj (congrArg Store.configuration hstore)
        exact ⟨rfl, settings, htrust⟩
      · rintro ⟨hfound, -⟩
        cases hfound
        exact ⟨rfl, rfl⟩

end Store

namespace Configuration

/-- **Configuration files that hold JSON.** The JSON text of a configuration is loaded as the
configuration with its texts read again as YAML, or refused if one of them may not stand there. So
it is loaded as it is, and stored where certificates can be verified with it, if and only if all of
its texts survive. -/
theorem jsonFile_reread (c : Configuration) (yaml : String → String) (path : String) :
    (load yaml path c.jsonFile =
      match c.reread? with
      | some c' => .ok c'
      | none =>
        .error ((Failure.of (.foreign .yaml (yaml (shape.toJson c)))).within
          (.fileUndecodable path))) ∧
    (load yaml path c.jsonFile = .ok c ↔ ∀ text ∈ c.texts, Survives text) ∧
    ∀ (context : Log.Context) (s : Store),
      (s.loadConfiguration context yaml path c.jsonFile).result = .ok () ∧
          (s.loadConfiguration context yaml path c.jsonFile).store =
            { s with configuration := some c } ↔
        (∀ text ∈ c.texts, Survives text) ∧ ∃ settings, c.trustSettings = .ok settings := by
  have hload : load yaml path c.jsonFile = .ok c ↔ ∀ text ∈ c.texts, Survives text :=
    load_jsonFile_eq_ok_iff.trans reread?_eq_some_iff
  refine ⟨load_jsonFile yaml path c, hload, fun context s => ?_⟩
  rw [Store.loadConfiguration_eq_ok_iff, hload]

namespace Sample

/-- A configuration with a password. -/
def withPassword (password : String) : Configuration where
  directory := { apiAddress := "https://api.example", password := password, username := "u" }
  identityCertificates := [Certificate.Sample.root.toPem]

theorem trustSettings_withPassword (password : String) :
    (withPassword password).trustSettings = .ok ⟨.any, [Certificate.Sample.root]⟩ :=
  trustSettings_toPem rfl (by decide +kernel)

/-- Words for a text that is no YAML. -/
def words (_ : String) : String := "control characters are not allowed"

/-- A next line in a password is stored as a space, and a password with a control character that
JSON does not escape is refused, though certificates can be verified with the configuration. -/
theorem password_changed :
    (withPassword "a\u0085b").trustSettings = .ok ⟨.any, [Certificate.Sample.root]⟩ ∧
      load words "config.json" (withPassword "a\u0085b").jsonFile = .ok (withPassword "a b") ∧
      withPassword "a b" ≠ withPassword "a\u0085b" ∧
      (Store.empty.loadConfiguration .root words "config.json"
        (withPassword "a\u0085b").jsonFile).store.configuration = some (withPassword "a b") ∧
      (withPassword "a\u007fb").trustSettings = .ok ⟨.any, [Certificate.Sample.root]⟩ ∧
      load words "config.json" (withPassword "a\u007fb").jsonFile =
        .error ((Failure.of (.foreign .yaml "control characters are not allowed")).within
          (.fileUndecodable "config.json")) := by
  have hchanged : load words "config.json" (withPassword "a\u0085b").jsonFile =
      .ok (withPassword "a b") :=
    load_jsonFile_eq_ok_iff.2 (by decide +kernel)
  have hstored : _ ∧ (Store.empty.loadConfiguration .root words "config.json"
      (withPassword "a\u0085b").jsonFile).store = _ :=
    Store.loadConfiguration_eq_ok_iff.2 ⟨hchanged, _, trustSettings_withPassword "a b"⟩
  have hrefused : (withPassword "a\u007fb").reread? = none := by decide +kernel
  have hne : withPassword "a b" ≠ withPassword "a\u0085b" :=
    fun heq => absurd (congrArg (·.directory.password) heq) (by decide)
  refine ⟨trustSettings_withPassword _, hchanged, hne, ?_, trustSettings_withPassword _, ?_⟩
  · rw [hstored.2]
  · rw [load_jsonFile, hrefused]
    rfl

end Sample

end Configuration

end WorkloadAuth
