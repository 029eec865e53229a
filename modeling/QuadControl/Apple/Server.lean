import QuadControl.Apple.Admission
import QuadControl.Apple.Envelope
import QuadControl.Apple.TokenUse

/-! # The diagnostic server

The handlers of the server's connections, the admission controller and the one-time token
they share, and the table of the connections there are. All of it runs on one queue, one
callback after the other: what may come next is a connection, a state of a transport, the
completion of a receive or a send, a timer that is armed, or the end of the server. A timer
that was cancelled does not fire, and a completion comes once.
-/

namespace QuadControl.Apple.Diagnostic

open Lib Lib.Utf8 Constants

/-- `DiagnosticServerConnection.Phase`. -/
inductive Phase where
  | awaitingReady
  | awaitingHello
  | awaitingProof
  | authenticated
  | closed
  deriving Repr, DecidableEq

/-- What the transport has been told to do and has not completed. A send remembers whether its
    failure is to be recorded. -/
inductive Awaited where
  | receive
  | send (recordFailure : Bool)
  deriving Repr, DecidableEq

/-- `DiagnosticServerConnection`. A timeout is a flag that says whether its timer is armed. -/
structure ServerConnection (Id Peer : Type) where
  connectionID : Id
  peerKey : Peer
  handshake : ServerHandshake
  incomingSequence : HeartbeatSequence
  phase : Phase
  wireConnectionID : Option Bytes
  sessionID : Option Bytes
  sessionKey : Option Bytes
  handshakeTimeout : Bool
  heartbeatTimeout : Bool
  awaited : List Awaited
  deriving Repr, DecidableEq

/-- The events of connections. -/
inductive ServerEvent (Id : Type) where
  | connectionAccepted (connectionID : Id)
  | authenticated (connectionID : Id)
  | heartbeat (connectionID : Id) (sequence : UInt64)
  | connectionClosed (connectionID : Id) (failure : Failure)
  deriving Repr, DecidableEq

/-- What goes in and out of the server. -/
inductive Record (Id : Type) where
  | received (connectionID : Id) (body : Bytes)
  | sent (connectionID : Id) (wire : Bytes)
  | emitted (event : ServerEvent Id)
  deriving Repr, DecidableEq

/-- What the handlers of a server share, and what went in and out so far, the latest first. -/
structure Surroundings (Id Peer : Type) where
  token : OneTimeToken
  admission : AdmissionController Id Peer
  connections : Finset Id
  history : List (Record Id)

/-- A handler at its turn. -/
structure Turn (Id Peer : Type) where
  connection : ServerConnection Id Peer
  around : Surroundings Id Peer

/-- The times that a turn reads and the random data it draws. -/
structure Readings where
  nowNanos : Nat
  closeNanos : Nat
  serverNonce : RandomData nonceLength
  challengeID : RandomData identifierLength
  sessionID : RandomData identifierLength

namespace Turn

variable {Id Peer : Type} [DecidableEq Id] [DecidableEq Peer]
variable (coders : Coders) (primitives : Primitives) (turn : Turn Id Peer)

def record (entry : Record Id) : Turn Id Peer :=
  { turn with around := { turn.around with history := entry :: turn.around.history } }

/-- `receive`. -/
def receive : Turn Id Peer :=
  { turn with connection := { turn.connection with awaited := .receive :: turn.connection.awaited } }

/-- `send`, with a flag that says whether its failure will be recorded. -/
def send (payload : Except Failure Bytes) (type : DiagnosticType) (sequence : UInt64)
    (mac : Option Bytes) (recordFailure : Bool) : Except Failure Unit × Turn Id Peer :=
  let wire : Except Failure Bytes := do
    let payload ← payload
    match turn.connection.wireConnectionID with
    | none => throw .state
    | some connectionID => Wire.encode coders payload type connectionID sequence mac
  match wire with
  | .error failure => (.error failure, turn)
  | .ok wire =>
      let sending : Turn Id Peer := { turn with connection := { turn.connection with
        awaited := .send recordFailure :: turn.connection.awaited } }
      (.ok (), sending.record (.sent turn.connection.connectionID wire))

/-- The handshake has taken a hello. -/
def greet (handshake : ServerHandshake) : Turn Id Peer :=
  { turn with connection := { turn.connection with
    handshake := handshake
    phase := .awaitingProof } }

def handleHello (envelope : Envelope) (readings : Readings) : Except Failure Unit × Turn Id Peer :=
  if envelope.type = .hello ∧ envelope.sequence = 0 ∧ envelope.mac = none then
    match Wire.unpack coders.hello envelope with
    | .error failure => (.error failure, turn)
    | .ok hello =>
        match turn.connection.handshake.receiveHello hello readings.nowNanos readings.serverNonce
            readings.challengeID with
        | .error failure => (.error failure, turn)
        | .ok (challenge, handshake) =>
            (turn.greet handshake).send coders (Wire.payload coders.challenge challenge) .challenge
              0 none true
  else (.error .state, turn)

/-- What `receiveProof` leaves of its handshake and of the token. -/
def prove (handshake : ServerHandshake) (token : OneTimeToken) : Turn Id Peer :=
  { connection := { turn.connection with handshake := handshake }
    around := { turn.around with token := token } }

/-- The connection is authenticated. -/
def authenticate (finished : ServerFinished) (sessionKey : Bytes)
    (admission : AdmissionController Id Peer) : Turn Id Peer :=
  let authenticated : Turn Id Peer :=
    { connection := { turn.connection with
        sessionID := some finished.sessionID
        sessionKey := some sessionKey
        phase := .authenticated
        handshakeTimeout := false
        heartbeatTimeout := true }
      around := { turn.around with admission := admission } }
  authenticated.record (.emitted (.authenticated turn.connection.connectionID))

def handleProof (envelope : Envelope) (readings : Readings) : Except Failure Unit × Turn Id Peer :=
  if envelope.type = .clientProof ∧ envelope.sequence = 0 ∧ envelope.mac = none then
    match Wire.unpack coders.clientProof envelope with
    | .error failure => (.error failure, turn)
    | .ok proof =>
        match turn.connection.handshake.receiveProof primitives turn.around.token proof
            readings.nowNanos readings.sessionID with
        | (.error failure, handshake, token) => (.error failure, turn.prove handshake token)
        | (.ok (finished, sessionKey), handshake, token) =>
            let proved := turn.prove handshake token
            match proved.around.admission.authenticationSucceeded proved.connection.connectionID with
            | (false, admission) => (.error .resourceLimit,
                { proved with around := { proved.around with admission := admission } })
            | (true, admission) =>
                (proved.authenticate finished sessionKey admission).send coders
                  (Wire.payload coders.serverFinished finished) .serverFinished 0 none false
  else (.error .state, turn)

/-- The checks of `handleHeartbeat`: the session's id and key, and the counter as it is left. -/
def checkHeartbeat (envelope : Envelope) :
    Except Failure (Bytes × Bytes × HeartbeatSequence) := do
  match envelope.type, envelope.mac, turn.connection.sessionID, turn.connection.sessionKey with
  | .heartbeat, some mac, some sessionID, some sessionKey =>
      let heartbeat ← Wire.unpack coders.heartbeat envelope
      heartbeat.validate
      let transcript ←
        Transcript.clientHeartbeat sessionID envelope.sequence heartbeat.status
      if primitives.isValid mac sessionKey transcript then
        let counter ← turn.connection.incomingSequence.accept envelope.sequence
        return (sessionID, sessionKey, counter)
      else throw .authentication
  | _, _, _, _ => throw .state

/-- The payload of an acknowledgement and its tag. -/
def acknowledge (sessionID sessionKey : Bytes) (sequence : UInt64) :
    Except Failure (Bytes × Bytes) := do
  let payload ← Wire.payload coders.ack .new
  let transcript ← Transcript.serverAck sessionID sequence Ack.new.status
  let mac ← primitives.mac sessionKey transcript
  return (payload, mac)

/-- A heartbeat is counted, and stops the clock. -/
def count (counter : HeartbeatSequence) : Turn Id Peer :=
  { turn with connection := { turn.connection with
    incomingSequence := counter
    heartbeatTimeout := false } }

/-- A heartbeat is told, and the clock starts anew. -/
def beat (sequence : UInt64) : Turn Id Peer :=
  let armed : Turn Id Peer :=
    { turn with connection := { turn.connection with heartbeatTimeout := true } }
  armed.record (.emitted (.heartbeat turn.connection.connectionID sequence))

def handleHeartbeat (envelope : Envelope) : Except Failure Unit × Turn Id Peer :=
  match turn.checkHeartbeat coders primitives envelope with
  | .error failure => (.error failure, turn)
  | .ok (sessionID, sessionKey, counter) =>
      match acknowledge coders primitives sessionID sessionKey envelope.sequence with
      | .error failure => (.error failure, turn.count counter)
      | .ok (payload, mac) =>
          ((turn.count counter).beat envelope.sequence).send coders (.ok payload) .ack
            envelope.sequence (some mac) false

/-- The first envelope's connection id is the one that counts from then on. -/
def pin (envelope : Envelope) : Except Failure (Turn Id Peer) :=
  if turn.connection.wireConnectionID = none then
    if turn.connection.phase = .awaitingHello ∧ envelope.type = .hello then
      .ok { turn with connection := { turn.connection with
        wireConnectionID := some envelope.connectionID } }
    else .error .state
  else .ok turn

def handle (body : Bytes) (readings : Readings) : Except Failure Unit × Turn Id Peer :=
  match Wire.decode coders body with
  | .error failure => (.error failure, turn)
  | .ok envelope =>
      match turn.pin envelope with
      | .error failure => (.error failure, turn)
      | .ok pinned =>
          if some envelope.connectionID = pinned.connection.wireConnectionID then
            match pinned.connection.phase with
            | .awaitingHello => pinned.handleHello coders envelope readings
            | .awaitingProof => pinned.handleProof coders primitives envelope readings
            | .authenticated => pinned.handleHeartbeat coders primitives envelope
            | .awaitingReady => (.error .state, pinned)
            | .closed => (.error .state, pinned)
          else (.error .authentication, pinned)

/-- `close`, and the server's `closeHandler`. -/
def close (failure : Failure) (recordFailure : Bool) (nowNanos : Nat) : Turn Id Peer :=
  if turn.connection.phase = .closed then turn
  else
    let closed : Turn Id Peer :=
      { connection := { turn.connection with
          phase := .closed
          handshakeTimeout := false
          heartbeatTimeout := false
          sessionID := none
          sessionKey := none }
        around := { turn.around with
          admission :=
            if recordFailure then
              turn.around.admission.recordFailure turn.connection.connectionID
                turn.connection.peerKey nowNanos
            else turn.around.admission.endConnection turn.connection.connectionID
          connections := turn.around.connections.erase turn.connection.connectionID } }
    closed.record (.emitted (.connectionClosed turn.connection.connectionID failure))

/-- The completion of a receive. -/
def received (result : Except Failure Bytes) (readings : Readings) : Turn Id Peer :=
  let handled : Except Failure Unit × Turn Id Peer :=
    match result with
    | .error failure => (.error failure, turn)
    | .ok body =>
        (turn.record (.received turn.connection.connectionID body)).handle coders primitives body
          readings
  match handled with
  | (.ok (), next) => next
  | (.error failure, next) =>
      next.close failure (next.connection.phase ≠ .authenticated) readings.closeNanos

/-- The completion of a send. -/
def sent (recordFailure : Bool) (failure : Option Failure) (nowNanos : Nat) : Turn Id Peer :=
  match failure with
  | some failure => turn.close failure recordFailure nowNanos
  | none => turn.receive

/-- The states of a transport. -/
inductive TransportState where
  | ready
  | failed
  | cancelled
  | other
  deriving Repr, DecidableEq

def handleConnectionState (state : TransportState) (nowNanos : Nat) : Turn Id Peer :=
  match state with
  | .ready =>
      if turn.connection.phase = .awaitingReady then
        let ready : Turn Id Peer :=
          { turn with connection := { turn.connection with phase := .awaitingHello } }
        ready.receive
      else turn
  | .failed => turn.close .network false nowNanos
  | .cancelled => turn.close .network false nowNanos
  | .other => turn

end Turn

/-- The initializer and `start`. -/
def ServerConnection.start {Id Peer : Type} (connectionID : Id) (peerKey : Peer)
    (serverID : RandomData identifierLength) (nowNanos : Nat) :
    Except Failure (ServerConnection Id Peer) := do
  -- The one token of a server has the number 0.
  let handshake ← ServerHandshake.new 0 serverID nowNanos
  return {
    connectionID := connectionID
    peerKey := peerKey
    handshake := handshake
    incomingSequence := .new
    phase := .awaitingReady
    wireConnectionID := none
    sessionID := none
    sessionKey := none
    handshakeTimeout := true
    heartbeatTimeout := false
    awaited := [] }

/-- A server with all the handlers it has created. -/
structure Server (Id Peer : Type) where
  around : Surroundings Id Peer
  handlers : Id → Option (ServerConnection Id Peer)

/-- What happens next. A new connection comes with what the address policy says of its
    endpoint. -/
inductive Happening (Id Peer : Type) where
  | accept (connectionID : Id) (peerKey : Option Peer) (allowed : Bool) (nowNanos : Nat)
      (serverID : RandomData identifierLength) (createdNanos failedNanos : Nat)
  | transport (connectionID : Id) (state : Turn.TransportState) (nowNanos : Nat)
  | received (connectionID : Id) (result : Except Failure Bytes) (readings : Readings)
  | sent (connectionID : Id) (recordFailure : Bool) (failure : Option Failure) (nowNanos : Nat)
  | handshakeTimeout (connectionID : Id) (nowNanos : Nat)
  | heartbeatTimeout (connectionID : Id) (nowNanos : Nat)
  | stop (order : List Id) (nowNanos : Nat)

namespace Server

variable {Id Peer : Type} [DecidableEq Id] [DecidableEq Peer]
variable (coders : Coders) (primitives : Primitives) (server : Server Id Peer)

def start (token : OneTimeToken) : Server Id Peer := ⟨⟨token, .new, ∅, []⟩, fun _ => none⟩

/-- What a turn of a handler leaves. -/
def put (turn : Turn Id Peer) : Server Id Peer :=
  ⟨turn.around, Function.update server.handlers turn.connection.connectionID (some turn.connection)⟩

omit [DecidableEq Peer] in
theorem handlers_put_self (turn : Turn Id Peer) :
    (server.put turn).handlers turn.connection.connectionID = some turn.connection :=
  Function.update_self _ _ _

omit [DecidableEq Peer] in
theorem handlers_put_of_ne {turn : Turn Id Peer} {other : Id}
    (ne : other ≠ turn.connection.connectionID) :
    (server.put turn).handlers other = server.handlers other :=
  Function.update_of_ne ne _ _

omit [DecidableEq Peer] in
/-- A handler is the one that had its turn, or another as it was. -/
theorem handlers_put_eq_some {turn : Turn Id Peer} {other : Id}
    {connection : ServerConnection Id Peer}
    (here : (server.put turn).handlers other = some connection) :
    other = turn.connection.connectionID ∧ connection = turn.connection ∨
      other ≠ turn.connection.connectionID ∧ server.handlers other = some connection := by
  by_cases same : other = turn.connection.connectionID
  · subst same
    rw [handlers_put_self] at here
    exact .inl ⟨rfl, (Option.some.inj here).symm⟩
  · rw [handlers_put_of_ne server same] at here
    exact .inr ⟨same, here⟩

def accept (connectionID : Id) (peerKey : Option Peer) (allowed : Bool) (nowNanos : Nat)
    (serverID : RandomData identifierLength) (createdNanos failedNanos : Nat) : Server Id Peer :=
  match peerKey, allowed with
  | some peerKey, true =>
      match server.around.admission.begin connectionID peerKey nowNanos with
      | (.error _, admission) =>
          { server with around := { server.around with admission := admission } }
      | (.ok (), admission) =>
          match ServerConnection.start connectionID peerKey serverID createdNanos with
          | .error _ => { server with around := { server.around with
              admission := admission.recordFailure connectionID peerKey failedNanos } }
          | .ok handler => server.put
              { connection := handler
                around := { server.around with
                  admission := admission
                  connections := insert connectionID server.around.connections
                  history := .emitted (.connectionAccepted connectionID) ::
                    server.around.history } }
  | _, _ => server

/-- The turn of a handler that meets a condition. -/
def turn (connectionID : Id) (may : ServerConnection Id Peer → Bool)
    (act : Turn Id Peer → Turn Id Peer) : Option (Server Id Peer) :=
  match server.handlers connectionID with
  | none => none
  | some connection =>
      if may connection then some (server.put (act ⟨connection, server.around⟩)) else none

omit [DecidableEq Peer] in
theorem turn_eq_some {connectionID : Id} {may : ServerConnection Id Peer → Bool}
    {act : Turn Id Peer → Turn Id Peer} {next : Server Id Peer}
    (turned : server.turn connectionID may act = some next) :
    ∃ connection, server.handlers connectionID = some connection ∧ may connection = true ∧
      next = server.put (act ⟨connection, server.around⟩) := by
  unfold turn at turned
  split at turned
  · cases turned
  · rename_i connection here
    obtain ⟨may, same⟩ := Option.ite_none_right_eq_some.mp turned
    exact ⟨connection, here, may, (Option.some.inj same).symm⟩

/-- A completion is awaited no longer. -/
def complete (awaited : Awaited) (turn : Turn Id Peer) : Turn Id Peer :=
  { turn with connection := { turn.connection with
    awaited := turn.connection.awaited.erase awaited } }

/-- The loop of `stopInternal`. -/
def stopAll (nowNanos : Nat) : List Id → Server Id Peer → Server Id Peer
  | [], server => server
  | connectionID :: order, server =>
      match server.handlers connectionID with
      | none => stopAll nowNanos order server
      | some connection => stopAll nowNanos order
          (server.put (Turn.close ⟨connection, server.around⟩ .network false nowNanos))

/-- `stopInternal` takes the connections of the table, in some order. -/
def stopInternal (order : List Id) (nowNanos : Nat) : Option (Server Id Peer) :=
  if order.Nodup ∧ order.toFinset = server.around.connections then
    some (stopAll nowNanos order
      { server with around := { server.around with connections := ∅ } })
  else none

def step : Happening Id Peer → Option (Server Id Peer)
  | .accept connectionID peerKey allowed nowNanos serverID createdNanos failedNanos =>
      -- The id is a new one.
      if (server.handlers connectionID).isNone then
        some (server.accept connectionID peerKey allowed nowNanos serverID createdNanos failedNanos)
      else none
  | .transport connectionID state nowNanos =>
      server.turn connectionID (fun _ => true) fun turn =>
        turn.handleConnectionState state nowNanos
  | .received connectionID result readings =>
      server.turn connectionID (fun connection => .receive ∈ connection.awaited) fun turn =>
        (complete .receive turn).received coders primitives result readings
  | .sent connectionID recordFailure failure nowNanos =>
      server.turn connectionID (fun connection => .send recordFailure ∈ connection.awaited)
        fun turn => (complete (.send recordFailure) turn).sent recordFailure failure nowNanos
  | .handshakeTimeout connectionID nowNanos =>
      server.turn connectionID ServerConnection.handshakeTimeout fun turn =>
        let fired : Turn Id Peer :=
          { turn with connection := { turn.connection with handshakeTimeout := false } }
        fired.close .timeout true nowNanos
  | .heartbeatTimeout connectionID nowNanos =>
      server.turn connectionID ServerConnection.heartbeatTimeout fun turn =>
        let fired : Turn Id Peer :=
          { turn with connection := { turn.connection with heartbeatTimeout := false } }
        fired.close .timeout false nowNanos
  | .stop order nowNanos => server.stopInternal order nowNanos

end Server

end QuadControl.Apple.Diagnostic
