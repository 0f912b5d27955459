import BrokerConnector.Endpoint

/-!
# Links to a broker

A reader and a writer each hold one connection with one session on it. A link is what they hold of
the two. Each leaves the link before its release is asked for, so a call that is dropped in between
does not ask twice.
-/

namespace BrokerConnector

/-- What a client holds of its connection and its session. -/
structure Link where
  connection : Option ConnectionHandle := none
  session : Option SessionHandle := none
  deriving DecidableEq, Inhabited

/-- Makes a request of a setup step. -/
def setupStep {ρ σ : Type} (endpoint : Endpoint σ) (step : SetupStep) (request : Request) :
    Call ρ σ request.Answer :=
  (Scene.ask endpoint request).mapError (.setup step)

namespace Link

variable {σ : Type}

/-- Whether nothing is held. -/
def isEmpty (link : Link) : Bool :=
  link.connection.isNone && link.session.isNone

/-- Opens a connection, starts it and opens a session. What was acquired before a failing step is
held. -/
def acquire (endpoint : Endpoint σ) (credentials : Option Credentials) (mode : AcknowledgeMode) :
    Call Link σ SessionHandle := do
  let connection ← setupStep endpoint .connect (.broker (.connect credentials))
  Scene.modify ({ · with connection := some connection })
  let _ ← setupStep endpoint .startConnection (.broker (.startConnection connection))
  let session ← setupStep endpoint .createSession (.broker (.createSession connection mode))
  Scene.modify ({ · with session := some session })
  return session

/-- Closes the session, if it is held. -/
def releaseSession (endpoint : Endpoint σ) : Call Link σ (List BrokerError) := do
  match (← Scene.get).session with
  | none => return []
  | some session =>
    Scene.modify ({ · with session := none })
    Scene.release endpoint (.broker (.closeSession session)) .sessionNotClosed

/-- Stops and closes the connection, if it is held. -/
def releaseConnection (endpoint : Endpoint σ) : Call Link σ (List BrokerError) := do
  match (← Scene.get).connection with
  | none => return []
  | some connection =>
    Scene.modify ({ · with connection := none })
    let stopping ←
      Scene.release endpoint (.broker (.stopConnection connection)) .connectionNotStopped
    let closing ←
      Scene.release endpoint (.broker (.closeConnection connection)) .connectionNotClosed
    return stopping ++ closing

/-- Releases whatever is held, the session first. The failures are listed in order. -/
def release (endpoint : Endpoint σ) : Call Link σ (List BrokerError) := do
  let ofSession ← releaseSession endpoint
  let ofConnection ← releaseConnection endpoint
  return ofSession ++ ofConnection

end Link

end BrokerConnector
