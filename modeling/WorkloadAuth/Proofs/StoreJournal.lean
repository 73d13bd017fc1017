import Mathlib.Data.List.Induction
import Mathlib.Tactic.SplitIfs
import WorkloadAuth.Proofs.Keys
import WorkloadAuth.Proofs.StoredConfiguration

/-!
# The journal of a store

* `Latest`: the element of a list that counts, because no later one takes its place.
* `Store.Operation.Step`, `Store.Operation.step_apply`: all that an operation can do.
* `Store.Entry`, `Store.journal`: what was done with a store, and what of it failed.
* `Store.Operation.Step.configuration_iff`, `Store.Operation.Step.role_iff`: what one entry means
  for what is stored.
* `Store.Admissible`, `Store.admissible_run`: which roles are stored.
* `Store.reflects_journal`: what is stored is what the journal of the store says.
-/

namespace WorkloadAuth

/-! ## Elements that count -/

section Latest

variable {α : Type} {P Q : α → Prop} {as bs : List α} {a : α}

/-- Some element of a list has the one property, and no later one has the other. -/
def Latest (P Q : α → Prop) (as : List α) : Prop :=
  ∃ before a after, as = before ++ a :: after ∧ P a ∧ ∀ later ∈ after, ¬Q later

theorem not_latest_nil : ¬Latest P Q [] := by
  rintro ⟨before, a, after, h, -⟩
  simp at h

/-- The last element counts itself, or it leaves the one that counted before. -/
theorem latest_concat_iff : Latest P Q (as ++ [a]) ↔ P a ∨ ¬Q a ∧ Latest P Q as := by
  constructor
  · rintro ⟨before, x, after, h, hx, hafter⟩
    induction after using List.reverseRecOn with
    | nil =>
      obtain ⟨-, ⟨⟩⟩ := List.append_inj' h rfl
      exact .inl hx
    | append_singleton after y =>
      rw [← List.cons_append, ← List.append_assoc] at h
      obtain ⟨rfl, ⟨⟩⟩ := List.append_inj' h rfl
      refine .inr ⟨hafter a (by simp), before, x, after, rfl, hx, ?_⟩
      intro later hlater
      exact hafter later (List.mem_append_left _ hlater)
  · rintro (ha | ⟨ha, before, x, after, rfl, hx, hafter⟩)
    · exact ⟨as, a, [], rfl, ha, nofun⟩
    · refine ⟨before, x, after ++ [a], by simp, hx, ?_⟩
      intro later hlater
      rcases List.mem_append.1 hlater with hlater | hlater
      · exact hafter later hlater
      · rwa [List.mem_singleton.1 hlater]

/-- What counts comes after an element that does not count but takes the place of others. -/
theorem Latest.exists_mem (h : Latest P Q (as ++ a :: bs)) (ha : ¬P a) (hQ : Q a) :
    ∃ b ∈ bs, P b := by
  induction bs using List.reverseRecOn with
  | nil =>
    rcases latest_concat_iff.1 h with h | ⟨h, -⟩
    · exact absurd h ha
    · exact absurd hQ h
  | append_singleton bs b ih =>
    rw [← List.cons_append, ← List.append_assoc] at h
    rcases latest_concat_iff.1 h with h | ⟨-, h⟩
    · exact ⟨b, by simp, h⟩
    · obtain ⟨b', hb', hP⟩ := ih h
      exact ⟨b', List.mem_append_left _ hb', hP⟩

end Latest

/-! ## Roles that can be stored -/

theorem Role.validate_eq_ok_iff {r : Role} :
    r.validate = .ok () ↔ r.name ≠ "" ∧ (r.maxTtl = 0 ∨ r.ttl ≤ r.maxTtl) := by
  unfold validate
  split_ifs with hname hexceeds
  · simp [hname]
  · simp only [false_iff, not_and, not_or]
    simp only [UInt64.lt_iff_toNat_lt, UInt64.le_iff_toNat_le, ← UInt64.toNat_inj] at hexceeds ⊢
    intro
    simp only [UInt64.toNat_zero] at hexceeds ⊢
    omega
  · simp only [true_iff, hname, ne_eq, not_false_eq_true, true_and]
    simp only [UInt64.lt_iff_toNat_lt, UInt64.le_iff_toNat_le, ← UInt64.toNat_inj] at hexceeds ⊢
    simp only [UInt64.toNat_zero] at hexceeds ⊢
    omega

namespace Store

/-! ## What an operation does -/

namespace Operation

/-- Why an operation fails, if it does. -/
def failure? (context : Log.Context) : Operation → Store → Option Failure
  | .setConfiguration c, s => Except.error? (s.setConfiguration context c).result
  | .loadConfiguration yaml path file, s =>
    Except.error? (s.loadConfiguration context yaml path file).result
  | .clearConfiguration, s => Except.error? (s.clearConfiguration context).result
  | .putRole role, s => Except.error? (s.putRole context role).result
  | .deleteRole name, s => Except.error? (s.deleteRole context name).result

/-- An operation is to store a configuration. -/
def Brings : Operation → Configuration → Prop
  | .setConfiguration c, c' => c = c'
  | .loadConfiguration yaml path file, c' => Configuration.load yaml path file = .ok c'
  | _, _ => False

/-- The role that an operation is about, if it is about one. -/
def target? : Operation → Option String
  | .putRole role => some role.name
  | .deleteRole name => some name
  | _ => none

/-- All that an operation can do with a store: whether it fails, and what is stored after it. -/
inductive Step (s : Store) : Operation → Option Failure → Store → Prop
  | refused {op : Operation} {failure : Failure} (clears : op ≠ .clearConfiguration)
      (deletes : ∀ name, op ≠ .deleteRole name) : Step s op (some failure) s
  | configured {op : Operation} {c : Configuration} {settings : TrustSettings}
      (brings : op.Brings c) (decodable : c.trustSettings = .ok settings) :
      Step s op none { s with configuration := some c }
  | cleared : Step s .clearConfiguration none { s with configuration := none }
  | stored {role : Role} (valid : role.validate = .ok ()) :
      Step s (.putRole role) none { s with roles := s.roles.insert role.name role }
  | absent {name : String} (none : s.role? name = none) : Step s (.deleteRole name) .none s
  | deleted {name : String} : Step s (.deleteRole name) none { s with roles := s.roles.erase name }

variable {context : Log.Context} {s s' : Store} {op : Operation} {failure? : Option Failure}

theorem Brings.unique {c c' : Configuration} (h : op.Brings c) (h' : op.Brings c') : c = c' := by
  cases op with
  | setConfiguration c'' => exact (show c'' = c from h).symm.trans h'
  | loadConfiguration yaml path file =>
    exact Except.ok.inj ((show Configuration.load yaml path file = .ok c from h).symm.trans h')
  | _ => exact h.elim

theorem step_setConfiguration {c : Configuration} (hbrings : op.Brings c) :
    Step s op (Except.error? (s.setConfiguration context c).result)
      (s.setConfiguration context c).store := by
  unfold Store.setConfiguration
  split
  · exact .refused (by rintro rfl; exact hbrings) (by rintro name rfl; exact hbrings)
  · rename_i settings hsettings
    exact .configured hbrings hsettings

/-- A configuration whose roots can be decoded is stored. -/
theorem apply_setConfiguration {c : Configuration} {settings : TrustSettings}
    (h : c.trustSettings = .ok settings) :
    apply context (.setConfiguration c) s = { s with configuration := some c } := by
  simp only [apply, Store.setConfiguration, h]

/-- Every operation does one of the things that an operation can do. -/
theorem step_apply (context : Log.Context) (op : Operation) (s : Store) :
    Step s op (op.failure? context s) (op.apply context s) := by
  cases op with
  | setConfiguration c => exact step_setConfiguration rfl
  | loadConfiguration yaml path file =>
    simp only [Operation.failure?, apply, Store.loadConfiguration]
    split
    · exact .refused (by rintro ⟨⟩) (by rintro name ⟨⟩)
    · rename_i c hload
      exact step_setConfiguration (show Brings (.loadConfiguration yaml path file) c from hload)
  | clearConfiguration => exact .cleared
  | putRole role =>
    simp only [Operation.failure?, apply, Store.putRole]
    split
    · exact .refused (by rintro ⟨⟩) (by rintro name ⟨⟩)
    · rename_i hvalid
      exact .stored hvalid
  | deleteRole name =>
    simp only [Operation.failure?, apply, Store.deleteRole]
    split
    · rename_i hnone
      exact .absent hnone
    · exact .deleted

end Operation

/-! ## The journal -/

/-- What the journal says of an operation. -/
structure Entry where
  operation : Operation
  failure? : Option Failure

namespace Entry

/-- A configuration was stored. -/
def Configures (c : Configuration) (e : Entry) : Prop :=
  e.failure? = none ∧ e.operation.Brings c

/-- Some configuration was stored, or there was none any more. -/
def Reconfigures (e : Entry) : Prop :=
  (∃ c, e.Configures c) ∨ e.operation = .clearConfiguration

/-- A role was stored under a name. -/
def Puts (name : String) (role : Role) (e : Entry) : Prop :=
  e.failure? = none ∧ e.operation = .putRole role ∧ role.name = name

/-- Some role was stored under a name, or there was none any more. -/
def Replaces (name : String) (e : Entry) : Prop :=
  (∃ role, e.Puts name role) ∨ e.operation = .deleteRole name

end Entry

/-- The journal of some operations, each in a context of its own. -/
def journal : List (Log.Context × Operation) → Store → List Entry
  | [], _ => []
  | (context, op) :: ops, s => ⟨op, op.failure? context s⟩ :: journal ops (op.apply context s)

theorem run_append (ops ops' : List (Log.Context × Operation)) (s : Store) :
    run (ops ++ ops') s = run ops' (run ops s) := by
  induction ops generalizing s with
  | nil => rfl
  | cons op ops ih => exact ih _

theorem journal_append (ops ops' : List (Log.Context × Operation)) (s : Store) :
    journal (ops ++ ops') s = journal ops s ++ journal ops' (run ops s) := by
  induction ops generalizing s with
  | nil => rfl
  | cons op ops ih =>
    show _ :: journal (ops ++ ops') _ = _ :: (journal ops _ ++ journal ops' _)
    rw [ih]
    rfl

/-! ## What is stored -/

section Step

open Operation

variable {s s' : Store} {op : Operation} {failure? : Option Failure}

/-- A configuration is stored after an operation if the operation stored it, or if it was stored
before and the operation left it. -/
theorem Operation.Step.configuration_iff (h : Step s op failure? s') {c : Configuration} :
    s'.configuration = some c ↔ Entry.Configures c ⟨op, failure?⟩ ∨
      ¬Entry.Reconfigures ⟨op, failure?⟩ ∧ s.configuration = some c := by
  cases h with
  | refused clears deletes => simp [Entry.Configures, Entry.Reconfigures, clears]
  | configured brings decodable =>
    rename_i c' settings
    have hbrings : op.Brings c ↔ c' = c := ⟨brings.unique, fun h => h ▸ brings⟩
    have hsome : ∃ c, op.Brings c := ⟨c', brings⟩
    simp [Entry.Configures, Entry.Reconfigures, hbrings, hsome]
  | cleared => simp [Entry.Configures, Entry.Reconfigures, Brings]
  | stored valid => simp [Entry.Configures, Entry.Reconfigures, Brings]
  | absent none => simp [Entry.Configures, Entry.Reconfigures, Brings]
  | deleted => simp [Entry.Configures, Entry.Reconfigures, Brings]

/-- A role is stored after an operation if the operation stored it, or if it was stored before and
the operation left it. -/
theorem Operation.Step.role_iff (h : Step s op failure? s') {name : String} {role : Role} :
    s'.role? name = some role ↔ Entry.Puts name role ⟨op, failure?⟩ ∨
      ¬Entry.Replaces name ⟨op, failure?⟩ ∧ s.role? name = some role := by
  cases h with
  | refused clears deletes => simp [Entry.Puts, Entry.Replaces, deletes]
  | configured brings decodable =>
    have hputs (role : Role) : op ≠ .putRole role := by rintro rfl; exact brings
    have hdeletes (name : String) : op ≠ .deleteRole name := by rintro rfl; exact brings
    simp [Entry.Puts, Entry.Replaces, hputs, hdeletes, role?]
  | cleared => simp [Entry.Puts, Entry.Replaces, role?]
  | stored valid =>
    rename_i role'
    by_cases hname : name = role'.name
    · subst hname
      have hsame : role' = role → role.name = role'.name := fun h => h ▸ rfl
      simpa [Entry.Puts, Entry.Replaces, role?] using hsame
    · have hother : role'.name ≠ name := Ne.symm hname
      have hputs (role : Role) (h : role' = role) : role.name ≠ name := h ▸ hother
      have hnew (h : role' = role) (h' : role.name = name) : s.roles.get? name = some role :=
        absurd h' (hputs role h)
      simpa [Entry.Puts, Entry.Replaces, role?, hname, hother] using hnew
  | absent none =>
    rename_i name'
    by_cases hname : name = name'
    · subst hname
      simp [Entry.Puts, Entry.Replaces, none]
    · simp [Entry.Puts, Entry.Replaces, Ne.symm hname]
  | deleted =>
    rename_i name'
    by_cases hname : name = name'
    · subst hname
      simp [Entry.Puts, Entry.Replaces, role?]
    · simp [Entry.Puts, Entry.Replaces, role?, hname, Ne.symm hname]

/-- A role that was stored can be stored. -/
theorem Operation.Step.valid {role : Role} (h : Step s (.putRole role) none s') :
    role.validate = .ok () := by
  cases h with
  | stored valid => exact valid
  | configured brings decodable => exact brings.elim

/-- An operation that fails leaves everything as it was. -/
theorem Operation.Step.eq_of_failure (h : Step s op failure? s') (hfailure : failure? ≠ none) :
    s' = s := by
  cases h
  case refused => rfl
  all_goals exact absurd rfl hfailure

/-- An operation that is about no role leaves all roles as they were. -/
theorem Operation.Step.roles_eq (h : Step s op failure? s') (htarget : op.target? = none) :
    s'.roles = s.roles := by
  cases h
  case stored => cases htarget
  case deleted => cases htarget
  all_goals rfl

/-- An operation that is about a role leaves the configuration as it was, and all other roles. -/
theorem Operation.Step.eq_of_target (h : Step s op failure? s') {name : String}
    (htarget : op.target? = some name) :
    s'.configuration = s.configuration ∧
      ∀ other, other ≠ name → s'.role? other = s.role? other := by
  cases h with
  | configured brings decodable =>
    cases op with
    | putRole role => exact brings.elim
    | deleteRole name => exact brings.elim
    | _ => cases htarget
  | cleared => cases htarget
  | refused clears deletes => exact ⟨rfl, fun _ _ => rfl⟩
  | absent none => exact ⟨rfl, fun _ _ => rfl⟩
  | stored valid =>
    cases htarget
    refine ⟨rfl, fun other hother => ?_⟩
    exact (s.roles.get?_insert _ other _).trans (if_neg hother)
  | deleted =>
    cases htarget
    refine ⟨rfl, fun other hother => ?_⟩
    exact (s.roles.get?_erase _ other).trans (if_neg hother)

end Step

/-! ## Which roles are stored -/

/-- Each role is stored under its own name, and could be stored again. -/
def Admissible (s : Store) : Prop :=
  ∀ name role, s.role? name = some role → role.name = name ∧ role.validate = .ok ()

theorem admissible_empty : empty.Admissible := fun _ _ h => nomatch h

/-- No operation stores a role that cannot be stored, or one under another name than its own. -/
theorem admissible_apply (context : Log.Context) (op : Operation) {s : Store} (h : s.Admissible) :
    (op.apply context s).Admissible := by
  intro name role hrole
  have hstep := op.step_apply context s
  rcases hstep.role_iff.1 hrole with ⟨hok, hput, hname⟩ | ⟨-, hbefore⟩
  · obtain rfl : op = .putRole role := hput
    rw [show Operation.failure? context (.putRole role) s = none from hok] at hstep
    exact ⟨hname, hstep.valid⟩
  · exact h name role hbefore

theorem admissible_run (ops : List (Log.Context × Operation)) {s : Store} (h : s.Admissible) :
    (run ops s).Admissible := by
  induction ops generalizing s with
  | nil => exact h
  | cons op ops ih => exact ih (admissible_apply op.1 op.2 h)

/-! ## Whole runs -/

variable {ops : List (Log.Context × Operation)}

/-- The configuration is the last one that was stored, unless it was cleared since. -/
theorem configuration_run_iff {c : Configuration} :
    (run ops empty).configuration = some c ↔
      Latest (Entry.Configures c) Entry.Reconfigures (journal ops empty) := by
  induction ops using List.reverseRecOn with
  | nil => exact iff_of_false nofun not_latest_nil
  | append_singleton ops op ih =>
    have hstep := op.2.step_apply op.1 (run ops empty)
    rw [run_append, journal_append]
    exact hstep.configuration_iff.trans ((or_congr_right (and_congr_right' ih)).trans
      latest_concat_iff.symm)

/-- The role of a name is the last one that was stored with it, unless it was deleted since. -/
theorem role_run_iff {name : String} {role : Role} :
    (run ops empty).role? name = some role ↔
      Latest (Entry.Puts name role) (Entry.Replaces name) (journal ops empty) := by
  induction ops using List.reverseRecOn with
  | nil => exact iff_of_false nofun not_latest_nil
  | append_singleton ops op ih =>
    have hstep := op.2.step_apply op.1 (run ops empty)
    rw [run_append, journal_append]
    exact hstep.role_iff.trans ((or_congr_right (and_congr_right' ih)).trans
      latest_concat_iff.symm)

/-- What is stored is what a journal says. -/
structure Reflects (entries : List Entry) (s : Store) : Prop where
  configuration : ∀ c, s.configuration = some c ↔
    Latest (Entry.Configures c) Entry.Reconfigures entries
  role : ∀ name role, s.role? name = some role ↔
    Latest (Entry.Puts name role) (Entry.Replaces name) entries
  ascending : s.roleNames.Pairwise fun a b =>
    Text.Utf8.encode a.toList < Text.Utf8.encode b.toList
  listed : ∀ name, name ∈ s.roleNames ↔ ∃ role, s.role? name = some role
  valid : ∀ name role, s.role? name = some role →
    role.name = name ∧ name ≠ "" ∧ (role.maxTtl = 0 ∨ role.ttl ≤ role.maxTtl)
  decodable : ∀ c, s.configuration = some c → ∃ settings, c.trustSettings = .ok settings

/-- **The store is what its journal says.** After any operations the configuration is the last one
that was stored and not cleared since, and the role of each name the last one that was stored and
not deleted since; the names are listed in order, and what is stored can be used. An operation that
fails changes nothing, and another one only the configuration or only the role it is about. -/
theorem reflects_journal :
    (∀ ops, Reflects (journal ops empty) (run ops empty)) ∧
    ∀ (context : Log.Context) (op : Operation) (s : Store),
      (op.failure? context s ≠ none → op.apply context s = s) ∧
      (op.target? = none → (op.apply context s).roles = s.roles) ∧
      ∀ name, op.target? = some name →
        (op.apply context s).configuration = s.configuration ∧
          ∀ other, other ≠ name → (op.apply context s).role? other = s.role? other := by
  constructor
  · intro ops
    constructor
    case configuration => exact fun _ => configuration_run_iff
    case role => exact fun _ _ => role_run_iff
    case ascending => exact (run ops empty).roles.keys_ascend
    case listed => exact fun _ => Dictionary.mem_keys_iff
    case valid =>
      intro name role hrole
      obtain ⟨hname, hvalid⟩ := admissible_run ops admissible_empty name role hrole
      obtain ⟨hnamed, hlifetimes⟩ := Role.validate_eq_ok_iff.1 hvalid
      exact ⟨hname, hname ▸ hnamed, hlifetimes⟩
    case decodable => exact decodable_run ops decodable_empty
  · intro context op s
    have hstep := op.step_apply context s
    exact ⟨hstep.eq_of_failure, hstep.roles_eq, fun _ => hstep.eq_of_target⟩

namespace Sample

/-- A role whose first lifetime is within the longest one. -/
def role : Role := { name := "r", maxTtl := 120, ttl := 60 }

/-- A configuration that can be stored. -/
def configuration : Configuration := sampleConfiguration [Certificate.Sample.root, trailingRoot]

/-- What is done after a configuration was stored: one load and one role fail, and one role is
deleted again. -/
def operations : List (Log.Context × Operation) :=
  [(.root, .loadConfiguration (fun _ => "") "auth.yaml" .missing), (.root, .putRole role),
    (.root, .putRole { role with ttl := 300 }), (.root, .putRole { name := "s" }),
    (.root, .deleteRole "s")]

theorem run_operations :
    run ((.root, .setConfiguration configuration) :: operations) empty =
      ⟨some configuration, Dictionary.empty.insert "r" role⟩ := by
  have hrooted : configuration.trustSettings =
      .ok ⟨.clientAuth, [Certificate.Sample.root, trailingRoot]⟩ := trustSettings_trailing
  rw [run, Operation.apply_setConfiguration hrooted]
  rfl

/-- The failed operations leave what was stored before them. -/
theorem journal_operations :
    Latest (Entry.Configures configuration) Entry.Reconfigures
        (journal ((.root, .setConfiguration configuration) :: operations) empty) ∧
      Latest (Entry.Puts "r" role) (Entry.Replaces "r")
        (journal ((.root, .setConfiguration configuration) :: operations) empty) ∧
      Operation.apply .root (.putRole { role with ttl := 300 })
          ⟨some configuration, Dictionary.empty.insert "r" role⟩ =
        ⟨some configuration, Dictionary.empty.insert "r" role⟩ := by
  obtain ⟨hreflects, hframes⟩ := reflects_journal
  obtain ⟨hconfiguration, hrole, -, -, -, -⟩ :=
    hreflects ((.root, .setConfiguration configuration) :: operations)
  rw [run_operations] at hconfiguration hrole
  exact ⟨(hconfiguration _).1 rfl, (hrole _ _).1 (by decide +kernel),
    (hframes _ _ _).1 (by decide +kernel)⟩

end Sample

end Store

end WorkloadAuth
