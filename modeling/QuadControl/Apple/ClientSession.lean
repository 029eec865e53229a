import QuadControl.Apple.Envelope
import QuadControl.Apple.Server

/-! # The client's session

A session runs on its own queue, one block after the other. A block is a call of `start` or
`close`, a state of the transport, the completion of a send or a receive, or a timer that
is armed. Between the transport's completion and the block that takes it, any other block
may run. A timer that was cancelled does not fire, and a completion comes once.
-/

namespace QuadControl.Apple.Diagnostic

open Lib Lib.Utf8 Constants

/-- `DiagnosticClientState`. -/
inductive DiagnosticClientState where
  | connecting
  | authenticating
  | connected
  | disconnected
  | failed (failure : Failure)
  deriving Repr, DecidableEq

/-- `DiagnosticClientSession.Phase`. -/
inductive ClientPhase where
  | idle
  | awaitingChallenge
  | awaitingFinished
  | authenticated
  | closed
  deriving Repr, DecidableEq

/-- What a session sends. -/
inductive Sending where
  | hello
  | clientProof
  | heartbeat (sequence : UInt64)
  deriving Repr, DecidableEq

/-- What a session waits for. -/
inductive Receiving where
  | challenge
  | serverFinished
  | ack (sequence : UInt64)
  deriving Repr, DecidableEq

/-- What is received once a message is sent. -/
def Sending.answer : Sending → Receiving
  | .hello => .challenge
  | .clientProof => .serverFinished
  | .heartbeat sequence => .ack sequence

/-- What the transport has been told to do and has not completed. -/
inductive ClientAwaited where
  | send (message : Sending)
  | receive (message : Receiving)
  deriving Repr, DecidableEq

/-- `DiagnosticClientSession`. A completion is the number of the call of `start` that gave it,
    and a timer is a flag that says whether it is armed. -/
structure ClientSession where
  connectionID : Bytes
  handshake : Option ClientHandshake
  sessionID : Option Bytes
  sessionKey : Option Bytes
  phase : ClientPhase
  startCompletion : Option Nat
  handshakeTimeout : Bool
  heartbeatTimeout : Bool
  heartbeatSchedule : Bool
  outgoingSequence : HeartbeatSequence
  incomingSequence : HeartbeatSequence
  transportStarted : Bool
  awaited : List ClientAwaited
  deriving Repr, DecidableEq

/-- What goes in and out of a session. -/
inductive ClientRecord where
  | received (body : Bytes)
  | sent (wire : Bytes)
  | completed (call : Nat) (result : Except Failure Unit)
  | told (state : DiagnosticClientState)
  deriving DecidableEq

/-- A session, with how often `start` was called, and what went in and out, the latest first. -/
structure Client where
  session : ClientSession
  calls : Nat
  history : List ClientRecord
  deriving DecidableEq

namespace Client

/-- The initializer. The hosts it refuses have no session. -/
def new (connectionID : RandomData identifierLength) (token : Bytes)
    (clientNonce : RandomData nonceLength) : Except Failure Client := do
  let handshake ← ClientHandshake.new token clientNonce
  return {
    session := {
      connectionID := connectionID
      handshake := some handshake
      sessionID := none
      sessionKey := none
      phase := .idle
      startCompletion := none
      handshakeTimeout := false
      heartbeatTimeout := false
      heartbeatSchedule := false
      outgoingSequence := .new
      incomingSequence := .new
      transportStarted := false
      awaited := [] }
    calls := 0
    history := [] }

variable (coders : Coders) (primitives : Primitives) (client : Client)

def record (entry : ClientRecord) : Client := { client with history := entry :: client.history }

def finishStart (result : Except Failure Unit) : Client :=
  match client.session.startCompletion with
  | none => client
  | some call =>
      let finished : Client :=
        { client with session := { client.session with startCompletion := none } }
      finished.record (.completed call result)

def closeInternal (state : DiagnosticClientState) (initialFailure : Failure) : Client :=
  if client.session.phase = .closed then client
  else
    let closed : Client := { client with session := { client.session with
      phase := .closed
      handshakeTimeout := false
      heartbeatTimeout := false
      heartbeatSchedule := false
      handshake := none
      sessionID := none
      sessionKey := none } }
    (closed.finishStart (.error initialFailure)).record (.told state)

def fail (failure : Failure) : Client := client.closeInternal (.failed failure) failure

/-- What throws fails the session. -/
def settle : Except Failure Unit × Client → Client
  | (.ok (), client) => client
  | (.error failure, client) => client.fail failure

/-- `start`. -/
def start : Client :=
  let called : Client := { client with calls := client.calls + 1 }
  if client.session.phase = .idle then
    let connecting : Client := { called with session := { client.session with
      startCompletion := some client.calls
      phase := .awaitingChallenge
      handshakeTimeout := true
      transportStarted := true } }
    connecting.record (.told .connecting)
  else called.record (.completed client.calls (.error .state))

/-- `close`. -/
def close : Client := client.closeInternal .disconnected .network

/-- `transport.send`, of what could be encoded. -/
def send (wire : Except Failure Bytes) (message : Sending) : Except Failure Unit × Client :=
  match wire with
  | .error failure => (.error failure, client)
  | .ok wire =>
      let sending : Client := { client with session := { client.session with
        awaited := .send message :: client.session.awaited } }
      (.ok (), sending.record (.sent wire))

/-- `transport.receive`. -/
def receive (message : Receiving) : Client :=
  { client with session := { client.session with
    awaited := .receive message :: client.session.awaited } }

/-- `DiagnosticWire.encode` of a message of the handshake. -/
def wire {α : Type} [DiagnosticPayload α] (coder : Coder α) (message : α) (type : DiagnosticType) :
    Except Failure Bytes := do
  let payload ← Wire.payload coder message
  Wire.encode coders payload type client.session.connectionID 0 none

def beginHandshake : Client :=
  match client.session.phase, client.session.handshake with
  | .awaitingChallenge, some handshake =>
      let authenticating := client.record (.told .authenticating)
      settle (authenticating.send (authenticating.wire coders coders.hello handshake.hello .hello)
        .hello)
  | _, _ => client

def handleConnectionState (state : Turn.TransportState) : Client :=
  match state with
  | .ready => client.beginHandshake coders
  | .failed => client.fail .network
  | .cancelled => client.closeInternal .disconnected .network
  | .other => client

/-- A message of the handshake, with the checks of its envelope. -/
def unpack {α : Type} [DiagnosticPayload α] (coder : Coder α) (type : DiagnosticType)
    (result : Except Failure Bytes) : Except Failure α := do
  let body ← result
  let envelope ← Wire.decode coders body
  if envelope.type = type ∧ envelope.connectionID = client.session.connectionID ∧
      envelope.sequence = 0 ∧ envelope.mac = none then
    Wire.unpack coder envelope
  else throw .state

/-- What `receiveChallenge` leaves of the handshake. -/
def prove (handshake : ClientHandshake) : Client :=
  { client with session := { client.session with handshake := some handshake } }

/-- `receiveChallenge`, once something is received. -/
def receiveChallenge (result : Except Failure Bytes) : Except Failure Unit × Client :=
  match client.session.phase, client.session.handshake with
  | .awaitingChallenge, some handshake =>
      match client.unpack coders coders.challenge .challenge result with
      | .error failure => (.error failure, client)
      | .ok challenge =>
          match handshake.receiveChallenge primitives challenge with
          | (.error failure, handshake) => (.error failure, client.prove handshake)
          | (.ok proof, handshake) =>
              let proved : Client := { client.prove handshake with
                session := { (client.prove handshake).session with phase := .awaitingFinished } }
              proved.send (proved.wire coders coders.clientProof proof .clientProof) .clientProof
  | _, _ => (.error .state, client)

/-- The session is authenticated. -/
def authenticate (sessionID sessionKey : Bytes) : Client :=
  let authenticated : Client := { client with session := { client.session with
    sessionID := some sessionID
    sessionKey := some sessionKey
    handshake := none
    phase := .authenticated
    handshakeTimeout := false } }
  let connected := (authenticated.finishStart (.ok ())).record (.told .connected)
  { connected with session := { connected.session with heartbeatSchedule := true } }

/-- `receiveFinished`, once something is received. -/
def receiveFinished (result : Except Failure Bytes) : Except Failure Unit × Client :=
  match client.session.phase, client.session.handshake with
  | .awaitingFinished, some handshake =>
      match client.unpack coders coders.serverFinished .serverFinished result with
      | .error failure => (.error failure, client)
      | .ok finished =>
          match handshake.receiveFinished primitives finished with
          | .error failure => (.error failure, client)
          | .ok ((sessionID, sessionKey), _) => (.ok (), client.authenticate sessionID sessionKey)
  | _, _ => (.error .state, client)

/-- A heartbeat as it is sent. -/
def heartbeatWire (sessionID sessionKey : Bytes) (sequence : UInt64) : Except Failure Bytes := do
  let payload ← Wire.payload coders.heartbeat .new
  let transcript ← Transcript.clientHeartbeat sessionID sequence Heartbeat.new.status
  let mac ← primitives.mac sessionKey transcript
  Wire.encode coders payload .heartbeat client.session.connectionID sequence (some mac)

/-- A heartbeat is numbered. -/
def count (counter : HeartbeatSequence) : Client :=
  { client with session := { client.session with outgoingSequence := counter } }

def sendHeartbeat : Except Failure Unit × Client :=
  match client.session.phase, client.session.sessionID, client.session.sessionKey with
  | .authenticated, some sessionID, some sessionKey =>
      match client.session.outgoingSequence.next with
      | .error failure => (.error failure, client)
      | .ok (sequence, counter) =>
          match (client.count counter).heartbeatWire coders primitives sessionID sessionKey sequence
            with
          | .error failure => (.error failure, client.count counter)
          | .ok wire =>
              let armed : Client := { client.count counter with
                session := { (client.count counter).session with heartbeatTimeout := true } }
              armed.send (.ok wire) (.heartbeat sequence)
  | _, _, _ => (.error .state, client)

/-- The checks of an acknowledgement, and the counter as it is left. -/
def checkAck (sessionID sessionKey : Bytes) (sequence : UInt64) (result : Except Failure Bytes) :
    Except Failure HeartbeatSequence := do
  let body ← result
  let envelope ← Wire.decode coders body
  match envelope.mac with
  | none => throw .state
  | some mac =>
      if envelope.type = .ack ∧ envelope.connectionID = client.session.connectionID ∧
          envelope.sequence = sequence then
        let ack ← Wire.unpack coders.ack envelope
        ack.validate
        let transcript ← Transcript.serverAck sessionID sequence ack.status
        if primitives.isValid mac sessionKey transcript then
          client.session.incomingSequence.accept sequence
        else throw .authentication
      else throw .state

/-- A heartbeat is acknowledged, and the next one is scheduled. -/
def acknowledge (counter : HeartbeatSequence) : Client :=
  { client with session := { client.session with
    incomingSequence := counter
    heartbeatTimeout := false
    heartbeatSchedule := true } }

/-- `awaitAck`, once something is received. -/
def receiveAck (sequence : UInt64) (result : Except Failure Bytes) :
    Except Failure Unit × Client :=
  match client.session.phase, client.session.sessionID, client.session.sessionKey with
  | .authenticated, some sessionID, some sessionKey =>
      match client.checkAck coders primitives sessionID sessionKey sequence result with
      | .error failure => (.error failure, client)
      | .ok counter => (.ok (), client.acknowledge counter)
  | _, _, _ => (.error .state, client)

/-- A completion is awaited no longer. -/
def complete (awaited : ClientAwaited) : Client :=
  { client with session := { client.session with
    awaited := client.session.awaited.erase awaited } }

/-- The completion of a send. -/
def sent (message : Sending) (failure : Option Failure) : Client :=
  match failure with
  | some failure => client.fail failure
  | none => client.receive message.answer

/-- What is received goes in, if it is not a failure. -/
def hear (result : Except Failure Bytes) : Client :=
  match result with
  | .error _ => client
  | .ok body => client.record (.received body)

/-- The completion of a receive. -/
def received (message : Receiving) (result : Except Failure Bytes) : Client :=
  match message with
  | .challenge => settle ((client.hear result).receiveChallenge coders primitives result)
  | .serverFinished => settle ((client.hear result).receiveFinished coders primitives result)
  | .ack sequence => settle ((client.hear result).receiveAck coders primitives sequence result)

/-- A block of a session's queue. -/
inductive Block where
  | start
  | close
  | transport (state : Turn.TransportState)
  | sent (message : Sending) (failure : Option Failure)
  | received (message : Receiving) (result : Except Failure Bytes)
  | handshakeTimeout
  | heartbeatTimeout
  | heartbeatSchedule

def step : Block → Option Client
  | .start => some client.start
  | .close => some client.close
  | .transport state =>
      if client.session.transportStarted then some (client.handleConnectionState coders state)
      else none
  | .sent message failure =>
      if .send message ∈ client.session.awaited then
        some ((client.complete (.send message)).sent message failure)
      else none
  | .received message result =>
      if .receive message ∈ client.session.awaited then
        some ((client.complete (.receive message)).received coders primitives message result)
      else none
  | .handshakeTimeout =>
      if client.session.handshakeTimeout then
        let fired : Client :=
          { client with session := { client.session with handshakeTimeout := false } }
        some (fired.fail .timeout)
      else none
  | .heartbeatTimeout =>
      if client.session.heartbeatTimeout then
        let fired : Client :=
          { client with session := { client.session with heartbeatTimeout := false } }
        some (fired.fail .timeout)
      else none
  | .heartbeatSchedule =>
      if client.session.heartbeatSchedule then
        let fired : Client :=
          { client with session := { client.session with heartbeatSchedule := false } }
        some (settle (fired.sendHeartbeat coders primitives))
      else none

end Client

end QuadControl.Apple.Diagnostic
