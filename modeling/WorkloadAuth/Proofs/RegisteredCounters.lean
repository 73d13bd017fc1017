import Mathlib.Data.List.Nodup
import Mathlib.Data.List.TakeWhile
import Mathlib.Logic.Function.Basic
import WorkloadAuth.Metrics

/-!
# Counters that are registered once

The counters count as registered from the start of the first attempt on, whether or not it goes
well. So what becomes of them is decided by that attempt alone.

* `Registry.addAll_eq`: collectors are added up to the first whose name is taken.
* `Registries`, `Registries.attempts`: the registries of a program, and the attempts to register the
  counters in them, while others register collectors of their own.
* `Attempt.Decides`, `Attempt.Skips`: what the first attempt does, and what every later one does.
* `Registries.skips_attempt`, `Registries.decides_attempt`: which of the two an attempt does.
* `Registries.attempts_of_done`, `Registries.attempts_cases`: what a whole run does.
* `Backed`: some attempts registered all counters in one registry.
* `Registries.registered_once`: no counter is registered twice, and in a run of several attempts
  a success means that all are registered exactly if the first found none of their names taken.
-/

namespace WorkloadAuth

/-! ## Collectors that are added -/

namespace Counter

theorem mem_all (c : Counter) : c ∈ all := by cases c <;> decide

theorem nodup_all : all.Nodup := by decide

theorem name_injective : Function.Injective name := by
  have h : ∀ c ∈ all, ∀ d ∈ all, c.name = d.name → c = d := by decide
  exact fun c d => h c c.mem_all d d.mem_all

theorem collector_injective : Function.Injective collector :=
  fun _ _ h => name_injective (congrArg Collector.name h)

end Counter

namespace Registry

variable {r q : Registry} {cs : List Collector}

theorem has_concat (c : Collector) (name : String) :
    has ⟨r.collectors ++ [c]⟩ name = (r.has name || c.name == name) := by
  simp [has]

/-- Collectors are added up to the first whose name was taken at the start: a collector that was
added since takes none of the names that follow. -/
theorem addAll_of_has_eq (hnames : (cs.map Collector.name).Nodup)
    (hsame : ∀ c ∈ cs, r.has c.name = q.has c.name) :
    r.addAll cs = (cs.all fun c => !q.has c.name,
      ⟨r.collectors ++ cs.takeWhile fun c => !q.has c.name⟩) := by
  induction cs generalizing r with
  | nil => simp [addAll]
  | cons c cs ih =>
    obtain ⟨hnew, hnames⟩ := List.nodup_cons.1 hnames
    have hc : r.has c.name = q.has c.name := hsame c List.mem_cons_self
    cases htaken : q.has c.name with
    | true => simp [addAll, add?, hc, htaken]
    | false =>
      have hlater : ∀ d ∈ cs, has ⟨r.collectors ++ [c]⟩ d.name = q.has d.name := by
        intro d hd
        have hne : c.name ≠ d.name := fun h => hnew (h ▸ List.mem_map_of_mem hd)
        rw [has_concat, hsame d (List.mem_cons_of_mem c hd), beq_false_of_ne hne, Bool.or_false]
      have hadd : r.add? c = some ⟨r.collectors ++ [c]⟩ := by simp [add?, hc, htaken]
      rw [addAll, hadd]
      simp [ih hnames hlater, htaken]

/-- Collectors with different names are added up to the first whose name is taken. -/
theorem addAll_eq (r : Registry) (hnames : (cs.map Collector.name).Nodup) :
    r.addAll cs = (cs.all fun c => !r.has c.name,
      ⟨r.collectors ++ cs.takeWhile fun c => !r.has c.name⟩) :=
  addAll_of_has_eq hnames fun _ _ => rfl

/-- No name of a counter is taken. -/
def Vacant (r : Registry) : Prop := ∀ c : Counter, r.has c.name = false

instance : Decidable r.Vacant :=
  decidable_of_iff (∀ c ∈ Counter.all, r.has c.name = false)
    ⟨fun h c => h c c.mem_all, fun h c _ => h c⟩

/-- The counters in front of the first whose name is taken. -/
def vacancies (r : Registry) : List Counter := Counter.all.takeWhile fun c => !r.has c.name

theorem vacancies_eq_all_iff : r.vacancies = Counter.all ↔ r.Vacant := by
  simp [vacancies, List.takeWhile_eq_self_iff, Vacant, Counter.mem_all]

theorem nodup_vacancies (r : Registry) : r.vacancies.Nodup :=
  Counter.nodup_all.sublist (List.takeWhile_sublist _)

end Registry

/-! ## Attempts -/

/-- An attempt to register the counters: where, and what is collected there before and after it. -/
structure Attempt (ι : Type) where
  target : ι
  before : Registry
  succeeded : Bool
  after : Registry
  deriving DecidableEq, Repr

namespace Attempt

variable {ι : Type} {a : Attempt ι}

/-- What an attempt registers. -/
def added (a : Attempt ι) : List Collector :=
  a.after.collectors.drop a.before.collectors.length

/-- The counters are registered up to the first whose name is taken, and that none is taken is what
success means. -/
def Decides (a : Attempt ι) : Prop :=
  (a.succeeded = true ↔ a.before.Vacant) ∧
    a.after.collectors = a.before.collectors ++ a.before.vacancies.map Counter.collector

/-- Nothing is registered, and that is called a success. -/
def Skips (a : Attempt ι) : Prop := a.succeeded = true ∧ a.after = a.before

theorem Decides.added_eq (h : a.Decides) :
    a.added = a.before.vacancies.map Counter.collector := by
  rw [added, h.2, List.drop_left]

theorem Skips.added_eq (h : a.Skips) : a.added = [] := by
  rw [added, h.2, List.drop_length]

end Attempt

namespace Registration

variable {state : Registration}

theorem register_of_done (h : state.done = true) (r : Registry) :
    state.register r = (true, state, r) := by
  simp [register, h]

/-- The first time, the counters are registered up to the first whose name is taken. -/
theorem register_of_not_done (h : state.done = false) (r : Registry) :
    state.register r = (Counter.all.all fun c => !r.has c.name, ⟨true⟩,
      ⟨r.collectors ++ r.vacancies.map Counter.collector⟩) := by
  have hnames : ((Counter.all.map Counter.collector).map Collector.name).Nodup := by
    rw [List.map_map]
    exact Counter.nodup_all.map Counter.name_injective
  simp only [register, h, Bool.false_eq_true, if_false, r.addAll_eq hnames, List.all_map,
    List.takeWhile_map]
  rfl

end Registration

/-! ## Runs -/

/-- The registries of a program, and whether the counters have been registered. -/
structure Registries (ι : Type) where
  registration : Registration := {}
  registry : ι → Registry

namespace Registries

/-- What happens to the registries of a program. -/
inductive Event (ι : Type) where
  /-- The counters are to be registered. -/
  | register (target : ι)
  /-- Another collector is to be registered. -/
  | collect (target : ι) (c : Collector)
  deriving DecidableEq, Repr

variable {ι : Type}

/-- What comes of registering the counters in a registry. -/
def attempt (m : Registries ι) (i : ι) : Attempt ι :=
  let (succeeded, _, after) := m.registration.register (m.registry i)
  ⟨i, m.registry i, succeeded, after⟩

section Step

variable [DecidableEq ι]

/-- The registries after an event. -/
def after (m : Registries ι) : Event ι → Registries ι
  | .register i =>
    let (_, registration, r) := m.registration.register (m.registry i)
    ⟨registration, Function.update m.registry i r⟩
  | .collect i c =>
    let r := m.registry i
    { m with registry := Function.update m.registry i ((r.add? c).getD r) }

/-- The attempts of a run to register the counters, the first one in front. -/
def attempts (m : Registries ι) : List (Event ι) → List (Attempt ι)
  | [] => []
  | .register i :: events => m.attempt i :: (m.after (.register i)).attempts events
  | .collect i c :: events => (m.after (.collect i c)).attempts events

end Step

variable {m : Registries ι}

theorem skips_attempt (h : m.registration.done = true) (i : ι) : (m.attempt i).Skips := by
  simp [attempt, Registration.register_of_done h, Attempt.Skips]

theorem decides_attempt (h : m.registration.done = false) (i : ι) : (m.attempt i).Decides := by
  simp [attempt, Registration.register_of_not_done h, Attempt.Decides, Registry.Vacant,
    Counter.mem_all]

variable [DecidableEq ι]

/-- Whatever comes of an attempt, the counters count as registered after it. -/
theorem done_after_register (m : Registries ι) (i : ι) :
    (m.after (.register i)).registration.done = true := by
  cases h : m.registration.done with
  | true => simp [after, Registration.register_of_done h, h]
  | false => simp [after, Registration.register_of_not_done h]

/-- Once the counters count as registered, every attempt of a run is skipped. -/
theorem attempts_of_done (h : m.registration.done = true) (events : List (Event ι)) :
    ∀ a ∈ m.attempts events, a.Skips := by
  induction events generalizing m with
  | nil => exact fun _ ha => nomatch ha
  | cons event events ih =>
    cases event with
    | register i =>
      intro a ha
      rcases List.mem_cons.1 ha with rfl | ha
      · exact skips_attempt h i
      · exact ih (m.done_after_register i) a ha
    | collect i c => exact ih h

/-- Before that, the first attempt of a run decides, and the others are skipped. -/
theorem attempts_cases (h : m.registration.done = false) (events : List (Event ι)) :
    m.attempts events = [] ∨
      ∃ a rest, m.attempts events = a :: rest ∧ a.Decides ∧ ∀ b ∈ rest, b.Skips := by
  induction events generalizing m with
  | nil => exact .inl rfl
  | cons event events ih =>
    cases event with
    | register i =>
      exact .inr ⟨_, _, rfl, decides_attempt h i, attempts_of_done (m.done_after_register i) _⟩
    | collect i c => exact ih h

end Registries

/-! ## What a success tells -/

section Backed

variable {ι : Type} {a : Attempt ι} {calls rest : List (Attempt ι)}

/-- All counters are registered in one registry by some attempts. -/
def Backed (calls : List (Attempt ι)) : Prop :=
  ∃ i, ∀ c : Counter, ∃ a ∈ calls, a.target = i ∧ c.collector ∈ a.added

/-- Whenever an attempt is called a success, all counters are registered by then. -/
def SuccessesBacked (calls : List (Attempt ι)) : Prop :=
  ∀ earlier a later, calls = earlier ++ a :: later → a.succeeded = true → Backed (earlier ++ [a])

/-- Whenever an attempt in a vacant registry is called a success although an earlier one failed, all
counters are registered by then. -/
def FailuresMended (calls : List (Attempt ι)) : Prop :=
  ∀ earlier a later, calls = earlier ++ a :: later → (∃ b ∈ earlier, b.succeeded = false) →
    a.before.Vacant → a.succeeded = true → Backed (earlier ++ [a])

/-- Only the first attempt registers anything, so all depends on what it finds. -/
theorem backed_iff (ha : a.Decides) (hrest : ∀ b ∈ rest, b.Skips) :
    Backed (a :: rest) ↔ a.before.Vacant := by
  have hmem (c : Counter) : c.collector ∈ a.added ↔ c ∈ a.before.vacancies := by
    rw [ha.added_eq, List.mem_map_of_injective Counter.collector_injective]
  constructor
  · rintro ⟨i, h⟩ c
    obtain ⟨b, hb, -, hadded⟩ := h c
    rcases List.mem_cons.1 hb with rfl | hb
    · simpa using List.mem_takeWhile_imp ((hmem c).1 hadded)
    · -- A skipped attempt adds nothing, so it is not the one that registered the counter.
      rw [(hrest b hb).added_eq] at hadded
      exact absurd hadded List.not_mem_nil
  · intro hvacant
    refine ⟨a.target, fun c => ⟨a, List.mem_cons_self, rfl, (hmem c).2 ?_⟩⟩
    rw [Registry.vacancies_eq_all_iff.2 hvacant]
    exact c.mem_all

/-- The attempts of a run up to one of them are the first and some that are skipped. -/
theorem exists_rest_of_split {earlier later : List (Attempt ι)} {b : Attempt ι}
    (hsplit : a :: rest = earlier ++ b :: later) (hrest : ∀ c ∈ rest, c.Skips) :
    ∃ skipped, earlier ++ [b] = a :: skipped ∧ ∀ c ∈ skipped, c.Skips := by
  rcases List.cons_eq_append_iff.1 hsplit with ⟨rfl, hfirst⟩ | ⟨skipped, rfl, rfl⟩
  · obtain ⟨rfl, -⟩ := List.cons.inj hfirst
    exact ⟨[], rfl, nofun⟩
  · refine ⟨skipped ++ [b], rfl, fun c hc => hrest c ?_⟩
    rw [List.append_cons]
    exact List.mem_append_left later hc

theorem backed_iff_of_split {earlier later : List (Attempt ι)} {b : Attempt ι} (ha : a.Decides)
    (hrest : ∀ c ∈ rest, c.Skips) (hsplit : a :: rest = earlier ++ b :: later) :
    Backed (earlier ++ [b]) ↔ a.before.Vacant := by
  obtain ⟨skipped, hskipped, hskip⟩ := exists_rest_of_split hsplit hrest
  rw [hskipped, backed_iff ha hskip]

/-- A success tells the truth if the first attempt did well, or if it is the first attempt. -/
theorem successesBacked_iff (ha : a.Decides) (hrest : ∀ b ∈ rest, b.Skips) :
    SuccessesBacked (a :: rest) ↔ rest = [] ∨ a.before.Vacant := by
  constructor
  · intro h
    cases rest with
    | nil => exact .inl rfl
    | cons b later =>
      have hsplit : a :: b :: later = [a] ++ b :: later := rfl
      have hbacked := h [a] b later hsplit (hrest b List.mem_cons_self).1
      exact .inr ((backed_iff_of_split ha hrest hsplit).1 hbacked)
  · intro h earlier b later hsplit hsuccess
    rw [backed_iff_of_split ha hrest hsplit]
    rcases h with rfl | hvacant
    · rcases List.cons_eq_append_iff.1 hsplit with ⟨-, hfirst⟩ | ⟨between, -, hlater⟩
      · obtain ⟨rfl, -⟩ := List.cons.inj hfirst
        exact ha.1.1 hsuccess
      · simp at hlater
    · exact hvacant

/-- A failure of the first attempt is never made up for: either the first attempt does not fail, or
no later one finds a vacant registry. -/
theorem failuresMended_iff (ha : a.Decides) (hrest : ∀ b ∈ rest, b.Skips) :
    FailuresMended (a :: rest) ↔ a.before.Vacant ∨ ∀ b ∈ rest, ¬b.before.Vacant := by
  constructor
  · intro h
    by_cases hvacant : a.before.Vacant
    · exact .inl hvacant
    · refine .inr fun b hb hb' => hvacant ?_
      obtain ⟨between, later, rfl⟩ := List.append_of_mem hb
      have hsplit : a :: (between ++ b :: later) = (a :: between) ++ b :: later := rfl
      have hfailed : a.succeeded = false := Bool.eq_false_iff.2 (mt ha.1.1 hvacant)
      have hbacked := h (a :: between) b later hsplit ⟨a, List.mem_cons_self, hfailed⟩ hb'
        (hrest b hb).1
      exact (backed_iff_of_split ha hrest hsplit).1 hbacked
  · rintro h earlier b later hsplit ⟨failed, hfailed, hfailure⟩ hvacant -
    rw [backed_iff_of_split ha hrest hsplit]
    rcases h with ha' | hnone
    · exact ha'
    · rcases List.cons_eq_append_iff.1 hsplit with ⟨rfl, -⟩ | ⟨between, rfl, rfl⟩
      · exact absurd hfailed List.not_mem_nil
      · exact absurd hvacant (hnone b (by simp))

/-- No counter is registered twice, because no attempt but the first registers any. -/
theorem nodup_added (ha : a.Decides) (hrest : ∀ b ∈ rest, b.Skips) :
    ((a :: rest).flatMap Attempt.added).Nodup := by
  have hnone : rest.flatMap Attempt.added = [] :=
    List.flatMap_eq_nil_iff.2 fun b hb => (hrest b hb).added_eq
  rw [List.flatMap_cons, hnone, List.append_nil, ha.added_eq]
  exact a.before.nodup_vacancies.map Counter.collector_injective

end Backed

namespace Registries

variable {ι : Type} [DecidableEq ι]

/-- **The first attempt decides.** In every run it registers the counters up to the first whose name
is taken, and fails if there is one; all later attempts register nothing and are called successes.
So no counter is registered twice. But that a success means that all counters are registered, and
that a failure is made up for later, holds only as far as the first attempt found no name taken. -/
theorem registered_once (registry : ι → Registry) (events : List (Event ι)) :
    let calls := attempts { registry } events
    (∀ a ∈ calls.head?, a.Decides) ∧ (∀ a ∈ calls.tail, a.Skips) ∧
    (calls.flatMap Attempt.added).Nodup ∧
    (SuccessesBacked calls ↔ calls.tail = [] ∨ ∀ a ∈ calls.head?, a.before.Vacant) ∧
    (FailuresMended calls ↔
      (∀ a ∈ calls.head?, a.before.Vacant) ∨ ∀ a ∈ calls.tail, ¬a.before.Vacant) := by
  intro calls
  have hcases := attempts_cases (m := { registry }) rfl events
  rcases hcases with hnone | ⟨a, rest, hcalls, ha, hrest⟩
  · rw [show calls = [] from hnone]
    simp [SuccessesBacked, FailuresMended]
  · rw [show calls = a :: rest from hcalls]
    refine ⟨by simpa using ha, hrest, nodup_added ha hrest, ?_, ?_⟩
    · simpa using successesBacked_iff ha hrest
    · simpa using failuresMended_iff ha hrest

namespace Sample

/-- In the one registry the name of a counter is taken, the other is empty. -/
def registry : Bool → Registry
  | true => ⟨[⟨"cf_auth_renew_count", "Renewals"⟩]⟩
  | false => {}

/-- A first attempt in the empty registry registers all counters beside what is collected there, and
the second one needs to register none. -/
theorem registered_beside_other :
    let calls := attempts { registry }
      [.collect false ⟨"requests", "Requests"⟩, .register false, .register true]
    ∃ a b, calls = [a, b] ∧ (a.before.Vacant ∧ a.Decides) ∧ (¬b.before.Vacant ∧ b.Skips) ∧
      SuccessesBacked calls ∧ FailuresMended calls := by
  intro calls
  obtain ⟨hfirst, hlater, -, hbacked, hmended⟩ := registered_once registry
    [.collect false ⟨"requests", "Requests"⟩, .register false, .register true]
  have hvacant : ∀ a ∈ calls.head?, a.before.Vacant := by decide +kernel
  have htaken : ∀ b ∈ calls.tail, ¬b.before.Vacant := by decide +kernel
  refine ⟨_, _, rfl, ⟨hvacant _ rfl, hfirst _ rfl⟩, ⟨htaken _ List.mem_cons_self, ?_⟩,
    hbacked.2 (.inr hvacant), hmended.2 (.inl hvacant)⟩
  exact hlater _ List.mem_cons_self

/-- A first attempt in the registry where a name is taken fails, with two of the counters
registered. The second one, in the empty registry, is called a success and registers none. -/
theorem success_unbacked :
    let calls := attempts { registry } [.register true, .register false]
    calls = [⟨true, registry true, false, ⟨[⟨"cf_auth_renew_count", "Renewals"⟩,
        Counter.loginCount.collector, Counter.loginFailed.collector]⟩⟩, ⟨false, {}, true, {}⟩] ∧
      (∀ a ∈ calls, Counter.renewCount.collector ∉ a.after.collectors) ∧
      ¬SuccessesBacked calls ∧ ¬FailuresMended calls := by
  intro calls
  have hunbacked : ¬Backed calls := by
    rintro ⟨i, h⟩
    obtain ⟨a, ha, -, hadded⟩ := h .renewCount
    have hmissing : ∀ a ∈ calls, Counter.renewCount.collector ∉ a.added := by decide +kernel
    exact hmissing a ha hadded
  refine ⟨by decide +kernel, by decide +kernel, fun h => ?_, fun h => ?_⟩
  · exact hunbacked (h [_] _ [] rfl rfl)
  · exact hunbacked (h [_] _ [] rfl ⟨_, List.mem_cons_self, rfl⟩ (by decide +kernel) rfl)

end Sample

end Registries

end WorkloadAuth
