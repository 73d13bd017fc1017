import WorkloadAuth.Proofs.FirstFault
import WorkloadAuth.Proofs.Refusals

/-!
# The checks of the directory

The comparison of an identity with the directory is a series of checks, each of which looks at one
record. A record is looked up when the first check of it is made, so what is looked up tells how far
the series went.

* `Directory.Check`, `Directory.Check.order`: the checks, in the order in which they are made.
* `Directory.Check.fault?`: what a check finds, whatever the others do; `Directory.Check.Tells`: the
  causes of its failure.
* `Directory.Makes`: a dialogue makes a series of checks; `Directory.makes_reconcile`.
* `Directory.Comparison.reconcile_decides`: how the comparison ends, and which records it looks up.
-/

namespace WorkloadAuth

open Dialogue

/-! ## Records -/

namespace RecordKind

/-- The kinds of records, in the order in which they are looked up. -/
def order : List RecordKind := [.serviceInstance, .app, .org, .space]

/-- The attribute of an identity that claims a record of a kind. -/
def claimed : RecordKind → Attribute
  | .serviceInstance => .serviceInstance
  | .app => .app
  | .org => .org
  | .space => .space

/-- The identifier that a record has of itself. -/
def guidOf : (kind : RecordKind) → kind.Record → String
  | .serviceInstance, record => record.guid
  | .app, record => record.guid
  | .org, record => record.guid
  | .space, record => record.guid

/-- The attribute that a record tells besides its own identifier, with its value. -/
def parentOf? : (kind : RecordKind) → kind.Record → Option (Attribute × String)
  | .serviceInstance, record => some (.space, record.spaceGuid)
  | .app, record => some (.space, record.spaceGuid)
  | .org, _ => none
  | .space, record => some (.org, record.orgGuid)

end RecordKind

namespace Directory

/-- What is looked up for the record of a kind that an identity claims. -/
def claim (i : Identity) (kind : RecordKind) : RecordKind × String := (kind, kind.claimed.of i)

/-! ## Checks -/

/-- The checks of the comparison. -/
inductive Check where
  /-- A record is found. -/
  | found (record : RecordKind)
  /-- It is the one with the identifier that it is found by. -/
  | guid (record : RecordKind)
  /-- It belongs to what the identity claims. -/
  | parent (record : RecordKind)
  /-- Instances of the app run. -/
  | runs
  deriving DecidableEq, Repr

namespace Check

/-- The checks, in the order in which they are made. -/
def order : List Check :=
  [.found .serviceInstance, .guid .serviceInstance, .parent .serviceInstance,
    .found .app, .guid .app, .parent .app, .runs,
    .found .org, .guid .org,
    .found .space, .guid .space, .parent .space]

/-- The kind of the record that a check looks at. -/
def record : Check → RecordKind
  | .found kind => kind
  | .guid kind => kind
  | .parent kind => kind
  | .runs => .app

/-- The failure of a record that tells another value of an attribute than the identity does. -/
def disagreement (i : Identity) (record : RecordKind) (a : Attribute) (actual : String) :
    Option Failure :=
  if actual = a.of i then none
  else some (.of (.directoryMismatch ⟨a.label, a.of i, actual, record⟩))

/-- What a check finds, given the records. A check of a record that is not found finds nothing. -/
def fault? (lookUp : (kind : RecordKind) → String → Found kind) (i : Identity) :
    Check → Option Failure
  | .found kind =>
    (Except.error? (lookUp kind (kind.claimed.of i))).map
      (Failure.within (.aboutRecord kind (kind.claimed.of i)))
  | .guid kind =>
    (lookUp kind (kind.claimed.of i)).toOption.bind fun record =>
      disagreement i kind kind.claimed (kind.guidOf record)
  | .parent kind =>
    (lookUp kind (kind.claimed.of i)).toOption.bind fun record =>
      (kind.parentOf? record).bind fun (a, actual) => disagreement i kind a actual
  | .runs =>
    (lookUp .app (RecordKind.app.claimed.of i)).toOption.bind fun app =>
      if app.instances = 0 then some (.of (.appNotRunning app.guid)) else none

/-- What the causes of a failure tell of the check that fails. -/
inductive Tells (lookUp : (kind : RecordKind) → String → Found kind) (i : Identity) :
    Check → Failure → Prop where
  /-- The failed look-up, and in front of it the record that was looked for. -/
  | found {kind : RecordKind} {missing failure : Failure}
      (lookedUp : lookUp kind (kind.claimed.of i) = .error missing)
      (causes : failure.causes = .aboutRecord kind (kind.claimed.of i) :: missing.causes) :
      Tells lookUp i (.found kind) failure
  | guid {kind : RecordKind} {record : kind.Record} {failure : Failure}
      (lookedUp : lookUp kind (kind.claimed.of i) = .ok record)
      (differs : kind.guidOf record ≠ kind.claimed.of i)
      (causes : failure.causes = [.directoryMismatch
        ⟨kind.claimed.label, kind.claimed.of i, kind.guidOf record, kind⟩]) :
      Tells lookUp i (.guid kind) failure
  | parent {kind : RecordKind} {record : kind.Record} {a : Attribute} {actual : String}
      {failure : Failure} (lookedUp : lookUp kind (kind.claimed.of i) = .ok record)
      (parent : kind.parentOf? record = some (a, actual)) (differs : actual ≠ a.of i)
      (causes : failure.causes = [.directoryMismatch ⟨a.label, a.of i, actual, kind⟩]) :
      Tells lookUp i (.parent kind) failure
  | runs {app : App} {failure : Failure} (lookedUp : lookUp .app i.appId = .ok app)
      (idle : app.instances = 0) (causes : failure.causes = [.appNotRunning app.guid]) :
      Tells lookUp i .runs failure

/-- What a check looks up. -/
def lookUps (i : Identity) : Check → List (RecordKind × String)
  | .found kind => [claim i kind]
  | _ => []

variable {lookUp lookUp' : (kind : RecordKind) → String → Found kind} {i : Identity}

/-- What a check finds depends on the record that it looks at. -/
theorem fault?_congr {c : Check}
    (h : lookUp' c.record (c.record.claimed.of i) = lookUp c.record (c.record.claimed.of i)) :
    c.fault? lookUp' i = c.fault? lookUp i := by
  cases c <;> simp only [fault?, record] at h ⊢ <;> rw [h]

theorem disagreement_eq_some_iff {record : RecordKind} {a : Attribute} {actual : String}
    {failure : Failure} :
    disagreement i record a actual = some failure ↔
      actual ≠ a.of i ∧ failure = .of (.directoryMismatch ⟨a.label, a.of i, actual, record⟩) := by
  unfold disagreement
  split
  · rename_i hsame
    exact iff_of_false nofun fun h => h.1 hsame
  · rename_i hdiffers
    rw [Option.some.injEq, eq_comm]
    exact (and_iff_right hdiffers).symm

/-- The failure of a check tells what is wrong. -/
theorem tells_of_fault? {c : Check} {failure : Failure} (h : c.fault? lookUp i = some failure) :
    c.Tells lookUp i failure := by
  cases c with
  | found kind =>
    obtain ⟨missing, hmissing, rfl⟩ := Option.map_eq_some_iff.1 h
    exact .found (Except.error?_eq_some_iff.1 hmissing) (Failure.causes_within _ missing)
  | guid kind =>
    obtain ⟨record, hrecord, hdisagrees⟩ := Option.bind_eq_some_iff.1 h
    obtain ⟨hdiffers, rfl⟩ := disagreement_eq_some_iff.1 hdisagrees
    exact .guid (Except.toOption_eq_some_iff.1 hrecord) hdiffers (Failure.causes_of _)
  | parent kind =>
    obtain ⟨record, hrecord, hparent⟩ := Option.bind_eq_some_iff.1 h
    obtain ⟨⟨a, actual⟩, hactual, hdisagrees⟩ := Option.bind_eq_some_iff.1 hparent
    obtain ⟨hdiffers, rfl⟩ := disagreement_eq_some_iff.1 hdisagrees
    exact .parent (Except.toOption_eq_some_iff.1 hrecord) hactual hdiffers (Failure.causes_of _)
  | runs =>
    obtain ⟨app, happ, hidle⟩ := Option.bind_eq_some_iff.1 h
    split at hidle
    · rename_i hnone
      obtain rfl := Option.some.inj hidle
      exact .runs (Except.toOption_eq_some_iff.1 happ) hnone (Failure.causes_of _)
    · cases hidle

end Check

/-! ## Series of checks -/

variable {lookUp : (kind : RecordKind) → String → Found kind} {i : Identity}

/-- What a series of checks looks up before it ends. -/
def lookUpsOf (lookUp : (kind : RecordKind) → String → Found kind) (i : Identity) :
    List Check → List (RecordKind × String)
  | [] => []
  | c :: checks =>
    c.lookUps i ++ if c.fault? lookUp i = none then lookUpsOf lookUp i checks else []

/-- A dialogue makes a series of checks: it ends as the series does, and looks up what that does. -/
structure Makes (lookUp : (kind : RecordKind) → String → Found kind) (i : Identity)
    (checks : List Check) (p : ExceptT Failure (Dialogue records) Unit) : Prop where
  outcome_eq : outcome (answers lookUp) p () = firstFault (Check.fault? lookUp i) checks
  asked_eq : p.run.asked (answers lookUp) () = lookUpsOf lookUp i checks

theorem runWith_records (kind : RecordKind) (id : String) :
    (Access.records.lookUp kind id).runWith (answers lookUp) () = (lookUp kind id, ()) := rfl

theorem outcome_find (kind : RecordKind) (id : String) :
    outcome (answers lookUp) (find Access.records kind id) () =
      (lookUp kind id).mapError (Failure.within (.aboutRecord kind id)) := by
  simp only [find, outcome_mk, runWith_bind, runWith_records]
  cases lookUp kind id <;> rfl

theorem asked_find (kind : RecordKind) (id : String) :
    (find Access.records kind id).run.asked (answers lookUp) () = [(kind, id)] := by
  have hasked : (Access.records.lookUp kind id).asked (answers lookUp) () = [(kind, id)] := rfl
  simp only [find, ExceptT.run_mk, asked_bind, runWith_records, hasked]
  cases lookUp kind id <;> rfl

/-- A look-up makes the check that there is a record, and leads to the other ones. -/
theorem makes_find {kind : RecordKind} {checks : List Check}
    {f : kind.Record → ExceptT Failure (Dialogue records) Unit}
    (h : ∀ record, lookUp kind (kind.claimed.of i) = .ok record →
      Makes lookUp i checks (f record)) :
    Makes lookUp i (.found kind :: checks)
      (find Access.records kind (kind.claimed.of i) >>= f) := by
  cases hfound : lookUp kind (kind.claimed.of i) with
  | error failure =>
    have hfault : Check.fault? lookUp i (.found kind) =
        some (failure.within (.aboutRecord kind (kind.claimed.of i))) := by
      simp [Check.fault?, hfound]
    constructor
    · rw [outcome_bind, outcome_find, hfound, firstFault_cons_some hfault]
      rfl
    · rw [asked_run_bind, asked_find, outcome_find, hfound, lookUpsOf, hfault]
      rfl
  | ok record =>
    have hfault : Check.fault? lookUp i (.found kind) = none := by simp [Check.fault?, hfound]
    have hrest := h record hfound
    constructor
    · rw [outcome_bind, outcome_find, hfound, firstFault_cons_none hfault, ← hrest.outcome_eq]
      rfl
    · rw [asked_run_bind, asked_find, outcome_find, hfound, lookUpsOf, hfault, if_pos rfl,
        ← hrest.asked_eq]
      rfl

/-- A check that looks nothing up ends a series or leads to the other ones. -/
theorem makes_guard {c : Check} {checks : List Check} {disagrees : Prop} [Decidable disagrees]
    {failure : Failure} {p : ExceptT Failure (Dialogue records) Unit} (hsilent : c.lookUps i = [])
    (hfault : c.fault? lookUp i = if disagrees then some failure else none)
    (h : Makes lookUp i checks p) :
    Makes lookUp i (c :: checks) (if disagrees then throw failure else p) := by
  by_cases hdisagrees : disagrees
  · rw [if_pos hdisagrees] at hfault ⊢
    constructor
    · rw [firstFault_cons_some hfault]
      rfl
    · rw [lookUpsOf, hsilent, hfault]
      rfl
  · rw [if_neg hdisagrees] at hfault ⊢
    constructor
    · rw [firstFault_cons_none hfault, h.outcome_eq]
    · rw [lookUpsOf, hsilent, hfault, if_pos rfl, h.asked_eq]
      rfl

/-- The comparison of an attribute is a check of its own. -/
theorem makes_agree {c : Check} {checks : List Check} {record : RecordKind} {a : Attribute}
    {actual : String} {f : Unit → ExceptT Failure (Dialogue records) Unit}
    (hsilent : c.lookUps i = [])
    (hfault : c.fault? lookUp i = Check.disagreement i record a actual)
    (h : Makes lookUp i checks (f ())) :
    Makes lookUp i (c :: checks) (agree record a.label (a.of i) actual >>= f) := by
  have hguard : (agree record a.label (a.of i) actual >>= f) =
      if actual ≠ a.of i then
        throw (.of (.directoryMismatch ⟨a.label, a.of i, actual, record⟩))
      else f () := by
    unfold agree
    by_cases hsame : actual = a.of i
    · rw [if_pos hsame, if_neg (not_not.2 hsame), pure_bind]
    · rw [if_neg hsame, if_pos hsame]
      rfl
  rw [hguard]
  refine makes_guard hsilent ?_ h
  rw [hfault, Check.disagreement]
  by_cases hsame : actual = a.of i
  · rw [if_pos hsame, if_neg (not_not.2 hsame)]
  · rw [if_neg hsame, if_pos hsame]

/-- The comparison makes all checks, in order. -/
theorem makes_reconcile (lookUp : (kind : RecordKind) → String → Found kind) (i : Identity) :
    Makes lookUp i Check.order (reconcile .records .root i) := by
  have hguid {kind : RecordKind} {record : kind.Record}
      (h : lookUp kind (kind.claimed.of i) = .ok record) :
      Check.fault? lookUp i (.guid kind) =
        Check.disagreement i kind kind.claimed (kind.guidOf record) := by
    simp [Check.fault?, h, Except.toOption]
  have hparent {kind : RecordKind} {record : kind.Record} {a : Attribute} {actual : String}
      (h : lookUp kind (kind.claimed.of i) = .ok record)
      (hparent : kind.parentOf? record = some (a, actual)) :
      Check.fault? lookUp i (.parent kind) = Check.disagreement i kind a actual := by
    simp [Check.fault?, h, hparent, Except.toOption]
  refine makes_find fun inst hinst => ?_
  refine makes_agree rfl (hguid hinst) (makes_agree rfl (hparent hinst rfl) ?_)
  refine makes_find fun app happ => ?_
  refine makes_agree rfl (hguid happ) (makes_agree rfl (hparent happ rfl) ?_)
  have hruns : Check.fault? lookUp i .runs =
      if app.instances = 0 then some (.of (.appNotRunning app.guid)) else none := by
    have hfound : lookUp .app (RecordKind.app.claimed.of i) = .ok app := happ
    simp only [Check.fault?, hfound]
    rfl
  refine makes_guard rfl hruns (makes_find fun org horg => ?_)
  refine makes_agree rfl (hguid horg) (makes_find fun space hspace => ?_)
  refine makes_agree rfl (hguid hspace) (makes_agree rfl (hparent hspace rfl) ?_)
  exact ⟨rfl, rfl⟩

/-- A series that ends well looks up all that its checks do. -/
theorem lookUpsOf_of_passed {checks : List Check}
    (h : ∀ c ∈ checks, c.fault? lookUp i = none) :
    lookUpsOf lookUp i checks = checks.flatMap (Check.lookUps i) := by
  induction checks with
  | nil => rfl
  | cons c checks ih =>
    rw [List.forall_mem_cons] at h
    rw [lookUpsOf, if_pos h.1, ih h.2, List.flatMap_cons]

/-- A series that fails looks up what its checks do up to the one that fails. -/
theorem lookUpsOf_of_failsFirst {checks : List Check} {check : Check} {failure : Failure}
    (h : FailsFirst (Check.fault? lookUp i) checks check failure) :
    lookUpsOf lookUp i checks = (upTo checks check).flatMap (Check.lookUps i) := by
  induction checks with
  | nil => exact absurd h.mem List.not_mem_nil
  | cons c checks ih =>
    cases hfault : c.fault? lookUp i with
    | none =>
      have hne : c ≠ check := by
        rintro rfl
        rw [h.fails] at hfault
        cases hfault
      have hrest := (failsFirst_cons_of_none hfault).1 h
      rw [lookUpsOf, if_pos hfault, ih hrest, upTo_cons_of_ne hne, List.flatMap_cons]
    | some failure' =>
      obtain ⟨rfl, -⟩ := (failsFirst_cons_of_some hfault).1 h
      rw [lookUpsOf, hfault, upTo_cons_self, if_neg nofun, List.append_nil, List.flatMap_singleton]

namespace Check

/-- All checks together look up the four records. -/
theorem flatMap_lookUps_order (i : Identity) :
    order.flatMap (lookUps i) = RecordKind.order.map (claim i) := rfl

/-- The checks up to one of them look up the records up to the one that it looks at. -/
theorem flatMap_lookUps_upTo (i : Identity) :
    ∀ check ∈ order, (upTo order check).flatMap (lookUps i) =
      (upTo RecordKind.order check.record).map (claim i) := by
  simp only [order, List.forall_mem_cons]
  exact ⟨rfl, rfl, rfl, rfl, rfl, rfl, rfl, rfl, rfl, rfl, rfl, rfl, nofun⟩

/-- The checks up to one of them look at no other records. -/
theorem record_mem_upTo :
    ∀ check ∈ order, ∀ c ∈ upTo order check, c.record ∈ upTo RecordKind.order check.record := by
  decide

end Check

theorem verdict_eq (lookUp : (kind : RecordKind) → String → Found kind) (i : Identity) :
    verdict lookUp i = firstFault (Check.fault? lookUp i) Check.order :=
  (makes_reconcile lookUp i).outcome_eq

/-- The comparison fails as its first check that does, and looks up the records up to the one that
this check looks at. -/
theorem sought_of_failsFirst {check : Check} {failure : Failure}
    (h : FailsFirst (Check.fault? lookUp i) Check.order check failure) :
    sought lookUp i = (upTo RecordKind.order check.record).map (claim i) :=
  calc sought lookUp i
      = lookUpsOf lookUp i Check.order := (makes_reconcile lookUp i).asked_eq
    _ = (upTo Check.order check).flatMap (Check.lookUps i) := lookUpsOf_of_failsFirst h
    _ = (upTo RecordKind.order check.record).map (claim i) :=
      Check.flatMap_lookUps_upTo i check h.mem

theorem sought_of_verdict (h : verdict lookUp i = .ok ()) :
    sought lookUp i = RecordKind.order.map (claim i) := by
  rw [verdict_eq, firstFault_eq_ok_iff] at h
  calc sought lookUp i
      = lookUpsOf lookUp i Check.order := (makes_reconcile lookUp i).asked_eq
    _ = Check.order.flatMap (Check.lookUps i) := lookUpsOf_of_passed h
    _ = RecordKind.order.map (claim i) := Check.flatMap_lookUps_order i

/-- The first check that fails stays so where the records up to the one that it looks at are the
same. -/
theorem failsFirst_congr {lookUp' : (kind : RecordKind) → String → Found kind} {check : Check}
    {failure : Failure} (h : FailsFirst (Check.fault? lookUp i) Check.order check failure)
    (hsame : ∀ kind ∈ upTo RecordKind.order check.record,
      lookUp' kind (kind.claimed.of i) = lookUp kind (kind.claimed.of i)) :
    FailsFirst (Check.fault? lookUp' i) Check.order check failure :=
  h.congr fun c hc => Check.fault?_congr (hsame _ (Check.record_mem_upTo check h.mem c hc))

/-! ## Comparisons -/

/-- The comparison of an identity with a directory in some world. -/
structure Comparison (Client σ : Type) where
  world : World Client σ
  client : Client
  context : Log.Context
  identity : Identity
  state : σ

namespace Comparison

variable {Client σ τ : Type}

/-- The dialogue of a comparison. -/
def dialogue (c : Comparison Client σ) :
    ExceptT Failure (Dialogue (Inquiry.interface Client)) Unit :=
  reconcile (World.access c.client) c.context c.identity

/-- How a comparison ends. -/
def result (c : Comparison Client σ) : Except Failure Unit :=
  outcome c.world.answer c.dialogue c.state

/-- What a comparison asks the directory for, in order. -/
def calls (c : Comparison Client σ) : List (DirectoryCall Client) :=
  Inquiry.directoryCalls (c.dialogue.run.asked c.world.answer c.state)

/-- The records of the directory. -/
def records (c : Comparison Client σ) : (kind : RecordKind) → String → Found kind :=
  c.world.lookUp c.client

/-- A check is the first one of a comparison that fails. -/
def FailsAt (c : Comparison Client σ) (check : Check) (failure : Failure) : Prop :=
  FailsFirst (Check.fault? c.records c.identity) Check.order check failure

/-- The look-ups of the records that an identity claims. -/
def lookUps (c : Comparison Client σ) (kinds : List RecordKind) : List (DirectoryCall Client) :=
  kinds.map fun kind => .lookUp c.client kind (kind.claimed.of c.identity)

theorem result_eq (c : Comparison Client σ) : c.result = verdict c.records c.identity :=
  c.world.outcome_reconcile c.client c.context c.identity c.state

theorem calls_eq (c : Comparison Client σ) {kinds : List RecordKind}
    (h : sought c.records c.identity = kinds.map (claim c.identity)) :
    c.calls = c.lookUps kinds := by
  have hcalls : c.calls = (sought c.records c.identity).map fun sought =>
      .lookUp c.client sought.1 sought.2 :=
    c.world.directoryCalls_reconcile c.client c.context c.identity c.state
  rw [hcalls, h, List.map_map]
  rfl

theorem FailsAt.result_eq {c : Comparison Client σ} {check : Check} {failure : Failure}
    (h : c.FailsAt check failure) : c.result = .error failure := by
  rw [Comparison.result_eq, verdict_eq]
  exact firstFault_eq_error_iff.2 ⟨check, h⟩

theorem FailsAt.calls_eq {c : Comparison Client σ} {check : Check} {failure : Failure}
    (h : c.FailsAt check failure) : c.calls = c.lookUps (upTo RecordKind.order check.record) :=
  c.calls_eq (sought_of_failsFirst h)

/-- **The comparison, end to end.** An identity passes if and only if the directory agrees with it,
and then its four records have been looked up. Otherwise the comparison fails as the first of its
checks that does, and tells what this check finds wrong; the records up to the one of this check
have been looked up, and no other record has an influence on how it fails. -/
theorem reconcile_decides (c : Comparison Client σ) :
    (c.result = .ok () ↔ Agrees c.records c.identity) ∧
    (c.result = .ok () → c.calls = c.lookUps RecordKind.order) ∧
    (∀ failure, c.result = .error failure ↔ ∃ check, c.FailsAt check failure) ∧
    ∀ check failure, c.FailsAt check failure →
      check.Tells c.records c.identity failure ∧
      c.calls = c.lookUps (upTo RecordKind.order check.record) ∧
      ∀ {τ : Type} (d : Comparison Client τ), d.client = c.client → d.identity = c.identity →
        (∀ kind ∈ upTo RecordKind.order check.record,
          d.records kind (kind.claimed.of c.identity) =
            c.records kind (kind.claimed.of c.identity)) →
        d.result = .error failure ∧ d.calls = c.calls := by
  refine ⟨?_, ?_, ?_, ?_⟩
  · exact c.world.outcome_reconcile_eq_ok_iff c.client c.context c.identity c.state
  · intro hpassed
    rw [result_eq] at hpassed
    exact c.calls_eq (sought_of_verdict hpassed)
  · intro failure
    rw [result_eq, verdict_eq]
    exact firstFault_eq_error_iff
  · intro check failure hfails
    refine ⟨Check.tells_of_fault? hfails.fails, hfails.calls_eq,
      fun d hclient hidentity hsame => ?_⟩
    have hother : d.FailsAt check failure := by
      rw [FailsAt, hidentity]
      exact failsFirst_congr hfails hsame
    refine ⟨hother.result_eq, ?_⟩
    rw [hother.calls_eq, hfails.calls_eq, lookUps, lookUps, hclient, hidentity]

end Comparison

namespace Sample

open World.Sample (identity world)

/-- A directory in which the app of the sample has moved to another space, and does not run. -/
def moved : Inventory := (Inventory.forIdentity identity).insertApp "a" ⟨"a", 0, "t"⟩

/-- The same directory without organizations and spaces. -/
def bare : Inventory := { moved with orgs := Dictionary.empty, spaces := Dictionary.empty }

/-- The directory of the sample without the app. -/
def appless : Inventory := { Inventory.forIdentity identity with apps := Dictionary.empty }

/-- The comparison of the sample with an inventory. -/
def comparison (inventory : Inventory) : Comparison Unit Unit where
  world := { world with lookUp := fun _ kind id => (inventory.lookUp kind id).1 }
  client := ()
  context := .root
  identity := identity
  state := ()

/-- The failure of an app in another space. -/
def elsewhere : Failure := .of (.directoryMismatch ⟨"space", "s", "t", .app⟩)

/-- Of two things that are wrong with an app the first one counts, and what is wrong with later
records has no influence. An app that is missing is told with its identifier. -/
theorem moved_app_elsewhere :
    (comparison moved).FailsAt (.parent .app) elsewhere ∧
      (comparison moved).result = .error elsewhere ∧
      (comparison moved).calls =
        [.lookUp () .serviceInstance "i", .lookUp () .app "a"] ∧
      (comparison bare).result = .error elsewhere ∧
      (comparison bare).calls = (comparison moved).calls ∧
      (comparison (.forIdentity identity)).calls =
        (comparison (.forIdentity identity)).lookUps RecordKind.order ∧
      ∃ failure, (comparison appless).result = .error failure ∧
        failure.causes = [.aboutRecord .app "a", .recordNotFound] := by
  have hfails : (comparison moved).FailsAt (.parent .app) elsewhere :=
    ⟨by decide, by decide +kernel, by decide +kernel⟩
  obtain ⟨-, -, herror, hfirst⟩ := (comparison moved).reconcile_decides
  obtain ⟨-, hcalls, hsame⟩ := hfirst _ _ hfails
  obtain ⟨hresult, hagain⟩ := hsame (comparison bare) rfl rfl fun kind hkind => by
    have hkinds : kind ∈ [RecordKind.serviceInstance, .app] := hkind
    simp only [List.mem_cons, List.not_mem_nil, or_false] at hkinds
    rcases hkinds with rfl | rfl <;> rfl
  obtain ⟨hagrees, hall, -⟩ := (comparison (.forIdentity identity)).reconcile_decides
  have hmissing : (comparison appless).FailsAt (.found .app)
      ((Failure.of .recordNotFound).within (.aboutRecord .app "a")) :=
    ⟨by decide, by decide +kernel, by decide +kernel⟩
  obtain ⟨-, -, herror', hfirst'⟩ := (comparison appless).reconcile_decides
  obtain ⟨⟨hlookedUp, hcauses⟩, -, -⟩ := hfirst' _ _ hmissing
  obtain rfl : _ = Failure.of .recordNotFound := (Except.error.inj hlookedUp).symm
  exact ⟨hfails, (herror _).2 ⟨_, hfails⟩, hcalls, hresult, hagain,
    hall (hagrees.2 (World.agrees_forIdentity identity)), _, (herror' _).2 ⟨_, hmissing⟩, hcauses⟩

end Sample

end Directory

/-! ## Inventories -/

namespace Inventory

open Directory

variable {α : Type}

/-- The records of an inventory. -/
def find (inventory : Inventory) (kind : RecordKind) (id : String) : Found kind :=
  (inventory.lookUp kind id).1

/-- The answers of an inventory. -/
def answer (q : records.Question) (inventory : Inventory) : records.Answer q × Inventory :=
  inventory.lookUp q.1 q.2

/-- A dialogue finds the records of an inventory, which keeps account of what is looked up. -/
theorem runWith_answer (p : Dialogue records α) (inventory : Inventory) :
    p.runWith answer inventory =
      ((p.runWith (answers inventory.find) ()).1,
        { inventory with
          calls := inventory.calls ++ p.asked (answers inventory.find) () }) := by
  induction p generalizing inventory with
  | done a =>
    rw [asked, List.append_nil]
    rfl
  | ask q next ih =>
    obtain ⟨kind, id⟩ := q
    have hfind : (inventory.lookUp kind id).2.find = inventory.find := by
      funext kind' id'
      cases kind' <;> rfl
    show (next (inventory.find kind id)).runWith answer (inventory.lookUp kind id).2 = _
    rw [ih, hfind]
    show (_, { inventory with
      calls := inventory.calls ++ [(kind, id)] ++ asked (answers inventory.find) _ () }) = _
    rw [List.append_assoc]
    rfl

/-- The comparison with an inventory ends as that with its records does, and the inventory keeps
account of the look-ups. -/
theorem runWith_reconcile (inventory : Inventory) (i : Identity) :
    (reconcile .records .root i).run.runWith answer inventory =
      (verdict inventory.find i,
        { inventory with calls := inventory.calls ++ sought inventory.find i }) :=
  runWith_answer _ inventory

end Inventory

end WorkloadAuth
