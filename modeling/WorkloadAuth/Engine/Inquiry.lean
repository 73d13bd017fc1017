import WorkloadAuth.Directory.CloudController
import WorkloadAuth.Engine
import WorkloadAuth.Http.Client

/-!
# Inquiries

The questions of an engine whose parts ask the surroundings for all they have to know, one question
at each step.

* `Inquiry`: the questions.
* `Inquiry.interface`: the questions with their answers.
* `Inquiry.overWire`: answers where requests are sent over a wire.
* `Engine.asking`: the engine that asks for clients of a directory.
* `Engine.overHttp`: the engine that asks the Cloud Controller over HTTP.
-/

namespace WorkloadAuth

open Calendar Directory

/-- A question of an engine, where clients of the directory are of a given type. -/
inductive Inquiry (Client : Type) where
  | now
  | failureId
  | certificateFor (signature : String) (data : SignedData)
  | configuration
  | role (name : String)
  | connect (context : Log.Context) (settings : DirectorySettings)
  | lookUp (client : Client) (kind : RecordKind) (id : String)
  /-- Sends a request over HTTP, whose response may fail to come. -/
  | send (request : Http.Request)
  | log (record : Log.Record)
  | count (counter : Counter)

namespace Inquiry

/-- The type of the answers to a question. -/
@[reducible] def Answer {Client : Type} : Inquiry Client → Type
  | now => Moment
  | failureId => FailureId
  | certificateFor .. => Except Failure Certificate
  | configuration => Except Failure (Option Configuration)
  | role _ => Except Failure (Option Role)
  | connect .. => Except Failure Client
  | lookUp _ kind _ => Found kind
  | send _ => Except Failure Http.Response
  | log _ => Unit
  | count _ => Unit

/-- The questions with their answers. -/
@[reducible] def interface (Client : Type) : Interface := ⟨Inquiry Client, Answer⟩

variable {Client : Type}

/-- Asks a question. -/
def ask (q : Inquiry Client) : Dialogue (interface Client) q.Answer :=
  .perform (I := interface Client) q

/-- The answers to questions, where a client sends the requests over a wire. -/
def overWire {σ : Type} (wire : Http.Wire σ) (answer : (q : Inquiry Client) → σ → q.Answer × σ)
    (q : Inquiry Client) (s : σ) : q.Answer × σ :=
  match q with
  | .send request => wire.deliver request s
  | q => answer q s

/-- What any engine may ask for. -/
def surroundings : Surroundings (interface Client) where
  systemClock := ask .now
  failureId := ask .failureId
  log record := ask (.log record)
  count counter := ask (.count counter)

end Inquiry

namespace Engine

open Inquiry

variable {Client : Type}

/-- The engine that asks for everything, with a given scheme of certificates. -/
def asking (scheme : IdentityScheme) : Engine (interface Client) where
  surroundings := Inquiry.surroundings
  clock := ask .now
  scheme := scheme
  configuration := ask .configuration
  role name := ask (.role name)
  certificateFor signature data := ask (.certificateFor signature data)
  connect context settings := do
    match ← ask (.connect context settings) with
    | .error failure => pure (.error failure)
    | .ok client => pure (.ok fun kind id => ask (.lookUp client kind id))

/-- How the Cloud Controller is reached. -/
def cloudController (words : CloudController.Wording) :
    CloudController.Access (interface Client) where
  send request := ask (.send request)
  log record := ask (.log record)
  words := words

/-- The engine that asks the Cloud Controller over HTTP. -/
def overHttp (words : CloudController.Wording) (scheme : IdentityScheme) :
    Engine (interface Client) :=
  { asking scheme with
    connect := fun context settings => do
      match ← (CloudController.connect (cloudController words) context settings).run with
      | .error failure => pure (.error failure)
      | .ok connection => pure (.ok (CloudController.lookUp (cloudController words) connection)) }

end Engine

end WorkloadAuth
