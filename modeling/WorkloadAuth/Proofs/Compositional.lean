import WorkloadAuth.Engine.Inquiry

/-!
# Properties of dialogues by their parts

Many properties hold of a dialogue that may fail if they hold of each of its steps. For these the
dialogues of the engine are taken apart once and for all.

* `Engine.attempt_connect_asking`, `Engine.attempt_connect_overHttp`: how clients of the directory
  look records up.
* `Dialogue.Compositional`: a property of sequences if it is one of their steps.
* `Dialogue.Compositional.reconcile`, `Dialogue.Compositional.connect`,
  `Dialogue.Compositional.validate`: the checks against the directory.
-/

namespace WorkloadAuth

open Directory

/-! ## Clients of the directory -/

namespace Engine

variable {Client : Type} (words : CloudController.Wording) (scheme : IdentityScheme)
  (context : Log.Context) (settings : DirectorySettings)

/-- A new client that is asked for answers look-ups itself. -/
theorem attempt_connect_asking :
    attempt ((asking scheme : Engine (Inquiry.interface Client)).connect context settings) =
      (fun client kind id => Inquiry.ask (.lookUp client kind id)) <$>
        (attempt (Inquiry.ask (.connect context settings)) :
          ExceptT Failure (Dialogue (Inquiry.interface Client)) Client) := by
  refine congrArg ExceptT.mk (bind_congr fun result => ?_)
  cases result <;> rfl

/-- A new client that speaks HTTP looks records up over its connection. -/
theorem attempt_connect_overHttp :
    attempt ((overHttp words scheme : Engine (Inquiry.interface Client)).connect context settings) =
      CloudController.lookUp (cloudController words) <$>
        CloudController.connect (cloudController words) context settings := by
  refine congrArg ExceptT.mk (bind_congr fun result => ?_)
  cases result <;> rfl

/-- A look-up over a connection is an exchange. -/
theorem attempt_lookUp {I : Interface.{0}} (access : CloudController.Access I)
    (c : CloudController.Connection) (kind : RecordKind) (id : String) :
    attempt (CloudController.lookUp access c kind id) =
      CloudController.exchange access (CloudController.recordShape kind)
        (CloudController.recordRequest? c kind id) := by
  have hrun {α : Type} (p : ExceptT Failure (Dialogue I) α) : attempt p.run = p := rfl
  exact hrun _

end Engine

/-- A look-up tells its own failure in another way. -/
theorem Directory.find_eq_mapError {I : Interface.{0}} (access : Directory.Access I)
    (kind : RecordKind) (id : String) :
    Directory.find access kind id =
      ExceptT.mk (Except.mapError (Failure.within (.aboutRecord kind id)) <$>
        access.lookUp kind id) := by
  rw [Directory.find, map_eq_pure_bind]
  congr 2
  funext found
  cases found <;> rfl

namespace Dialogue

/-! ## Steps -/

/-- Nothing follows a failure. -/
theorem throw_bind {I : Interface.{0}} {α β : Type} (failure : Failure)
    (f : α → ExceptT Failure (Dialogue I) β) :
    (throw failure : ExceptT Failure (Dialogue I) α) >>= f = throw failure := rfl

/-- A property that a dialogue has if its steps have it. -/
structure Compositional {I : Interface.{0}}
    (P : {α : Type} → ExceptT Failure (Dialogue I) α → Prop) : Prop where
  pure : ∀ {α : Type} (a : α), P (pure a : ExceptT Failure (Dialogue I) α)
  throw : ∀ {α : Type} (failure : Failure), P (throw failure : ExceptT Failure (Dialogue I) α)
  bind : ∀ {α β : Type} {p : ExceptT Failure (Dialogue I) α}
    {f : α → ExceptT Failure (Dialogue I) β}, P p → (∀ a, P (f a)) → P (p >>= f)
  /-- A failure is told in another way. -/
  mapError : ∀ {α : Type} {p : ExceptT Failure (Dialogue I) α} (change : Failure → Failure),
    P p → P (ExceptT.mk (Except.mapError change <$> p.run))

namespace Compositional

variable {I : Interface.{0}} {P : {α : Type} → ExceptT Failure (Dialogue I) α → Prop}

theorem agree (h : Compositional P) (record : RecordKind) (field claimed actual : String) :
    P (Directory.agree (I := I) record field claimed actual) := by
  unfold Directory.agree
  split
  · exact h.pure ()
  · exact h.throw _

theorem find (h : Compositional P) {access : Directory.Access I} {kind : RecordKind} {id : String}
    (hlookUp : P (Engine.attempt (access.lookUp kind id))) : P (Directory.find access kind id) := by
  rw [Directory.find_eq_mapError]
  exact h.mapError _ hlookUp

/-! ## Checks against the directory -/

/-- The comparison with the directory, by its look-ups. -/
theorem reconcile (h : Compositional P) {access : Directory.Access I}
    (hlookUp : ∀ kind id, P (Engine.attempt (access.lookUp kind id)))
    (hlog : ∀ record : Log.Record, record.level = .debug → P (ExceptT.lift (access.log record)))
    (context : Log.Context) (identity : Identity) :
    P (Directory.reconcile access context identity) := by
  have hfind (kind : RecordKind) (id : String) : P (Directory.find access kind id) :=
    h.find (hlookUp kind id)
  refine h.bind (hfind _ _) fun inst => h.bind (h.agree _ _ _ _) fun _ => ?_
  refine h.bind (h.agree _ _ _ _) fun _ => h.bind (hfind _ _) fun app => ?_
  refine h.bind (h.agree _ _ _ _) fun _ => h.bind (h.agree _ _ _ _) fun _ => ?_
  split
  · rw [throw_bind]
    exact h.throw _
  · refine h.bind (hfind _ _) fun org => h.bind (h.agree _ _ _ _) fun _ => ?_
    refine h.bind (hfind _ _) fun space => h.bind (h.agree _ _ _ _) fun _ => ?_
    exact h.bind (h.agree _ _ _ _) fun _ => hlog _ rfl

/-- A login into the server of a directory, by its exchanges. -/
theorem connect (h : Compositional P) {access : CloudController.Access I}
    (hexchange : ∀ {α : Type} (shape : Shape α) (request : Option Http.Request),
      P (CloudController.exchange access shape request))
    (hlog : ∀ record : Log.Record, record.level = .debug → P (ExceptT.lift (access.log record)))
    (context : Log.Context) (settings : DirectorySettings) :
    P (CloudController.connect access context settings) := by
  unfold CloudController.connect
  split
  · rw [throw_bind]
    exact h.throw _
  · refine h.bind (hexchange _ _) fun endpoint => ?_
    split
    · exact h.throw _
    · refine h.bind (hlog _ rfl) fun _ => h.bind (hexchange _ _) fun token => ?_
      exact h.pure _

/-- The checks against a role and the directory, by a connection and the look-ups over it. -/
theorem validate (h : Compositional P) {e : Engine I} {context : Log.Context}
    {settings : DirectorySettings} {Connection : Type}
    {connection : ExceptT Failure (Dialogue I) Connection} {lookUp : Connection → LookUp I}
    (hconnect : Engine.attempt (e.connect context settings) = lookUp <$> connection)
    (hconnection : P connection)
    (hlookUp : ∀ c kind id, P (Engine.attempt (lookUp c kind id)))
    (hlog : ∀ record : Log.Record, record.level = .debug →
      P (ExceptT.lift (e.surroundings.log record))) (role : Role)
    (identity : Identity) (remote : String) :
    P (e.validate context settings role identity remote) := by
  unfold Engine.validate
  split
  · exact h.throw _
  · rw [hconnect, ← bind_pure_comp, bind_assoc]
    refine h.bind hconnection fun c => ?_
    rw [pure_bind]
    exact h.reconcile (hlookUp c) hlog context identity

end Compositional

end Dialogue

end WorkloadAuth
