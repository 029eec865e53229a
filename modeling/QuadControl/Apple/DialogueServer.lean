import QuadControl.Apple.DialogueClient

/-! # The server's side of a dialogue

The handler of one connection, on a server that has no other: the client's messages take it from
stage to stage, as long as they come in time.
-/

namespace QuadControl.Apple.Diagnostic

open Lib Lib.Utf8 Constants

/-- What a server has sent, and how much it has received. -/
def Record.wire {Id : Type} : Record Id → Option Bytes
  | .sent _ wire => some wire
  | _ => none

def Record.isReceived {Id : Type} : Record Id → Bool
  | .received _ _ => true
  | _ => false

def Record.isClose {Id : Type} : Record Id → Bool
  | .emitted (.connectionClosed _ _) => true
  | _ => false

namespace Server

variable {Id Peer : Type} (server : Server Id Peer)

def wires : List Bytes := server.around.history.reverse.filterMap Record.wire

def heard : Nat := server.around.history.countP Record.isReceived

/-- No connection was closed. -/
def Intact : Prop := server.around.history.any Record.isClose = false

end Server

namespace Dialogue

variable {Id Peer : Type} (coders : Coders) (primitives : Primitives) (dialogue : Dialogue Id Peer)

/-! ### The server's stages -/

/-- What a handler has answered last, and whether the send has not completed yet. -/
inductive ServerStage where
  | absent
  | accepted
  | listening
  | challenged (sending : Bool)
  | authenticated (beats : Nat) (sending : Bool)
  deriving Repr, DecidableEq

namespace ServerStage

/-- How many messages have been received, and answered. -/
def heard : ServerStage → Nat
  | .absent => 0
  | .accepted => 0
  | .listening => 0
  | .challenged _ => 1
  | .authenticated beats _ => beats + 2

def consumed : ServerStage → Bool
  | .authenticated _ _ => true
  | _ => false

/-- The connection is pending. -/
def pending : ServerStage → Bool
  | .accepted => true
  | .listening => true
  | .challenged _ => true
  | _ => false

end ServerStage

/-- What is awaited once a message is answered. -/
def answering (recordFailure sending : Bool) : List Awaited :=
  if sending then [.send recordFailure] else [.receive]

def newHandshake : ServerHandshake :=
  ⟨0, dialogue.serverID, dialogue.createdNanos, .awaitingHello, none, none⟩

def newConnection : ServerConnection Id Peer where
  connectionID := dialogue.connection
  peerKey := dialogue.peer
  handshake := dialogue.newHandshake
  incomingSequence := .new
  phase := .awaitingReady
  wireConnectionID := none
  sessionID := none
  sessionKey := none
  handshakeTimeout := true
  heartbeatTimeout := false
  awaited := []

def handshakeAt (state : ServerState) : ServerHandshake :=
  ⟨0, dialogue.serverID, dialogue.createdNanos, state, some dialogue.hello, some dialogue.challenge⟩

def connectionAt : ServerStage → Option (ServerConnection Id Peer)
  | .absent => none
  | .accepted => some dialogue.newConnection
  | .listening => some { dialogue.newConnection with
      phase := .awaitingHello
      awaited := [.receive] }
  | .challenged sending => some { dialogue.newConnection with
      handshake := dialogue.handshakeAt .awaitingProof
      phase := .awaitingProof
      wireConnectionID := some dialogue.connectionID
      awaited := answering true sending }
  | .authenticated beats sending => some { dialogue.newConnection with
      handshake := dialogue.handshakeAt .complete
      incomingSequence := ⟨0, UInt64.ofNat beats⟩
      phase := .authenticated
      wireConnectionID := some dialogue.connectionID
      sessionID := some dialogue.sessionID
      sessionKey := some (dialogue.key primitives)
      handshakeTimeout := false
      heartbeatTimeout := true
      awaited := answering false sending }

/-- A server with its one connection at a stage. -/
structure ServerAt (stage : ServerStage) (server : Server Id Peer) : Prop where
  handler : server.handlers dialogue.connection = dialogue.connectionAt primitives stage
  token : server.around.token = ⟨dialogue.token, dialogue.tokenNanos, stage.consumed⟩
  fresh : stage = .absent → server.around.admission = .new
  admitted : stage.pending = true → dialogue.connection ∈ server.around.admission.pending ∧
    server.around.admission.active = none
  wires : server.wires = (List.range stage.heard).map (dialogue.serverBody coders primitives)
  heard : server.heard = stage.heard
  intact : server.Intact

variable {coders primitives dialogue} {server : Server Id Peer} {stage later : ServerStage}
variable {beats : Nat}

theorem serverAt_start : dialogue.ServerAt coders primitives .absent
    (.start ⟨dialogue.token, dialogue.tokenNanos, false⟩ : Server Id Peer) :=
  ⟨rfl, rfl, fun _ => rfl, by rintro ⟨⟩, rfl, rfl, rfl⟩

variable [DecidableEq Id] [DecidableEq Peer]

/-- A turn that leaves the handler of another stage behind, with what it records. -/
theorem ServerAt.steps (reached : dialogue.ServerAt coders primitives stage server)
    {happening : Happening Id Peer} (entries : List (Record Id))
    (token : OneTimeToken) (admission : AdmissionController Id Peer) (connections : Finset Id)
    (connection : ServerConnection Id Peer)
    (stepped : server.step coders primitives happening = some (server.put
      ⟨connection, token, admission, connections, entries ++ server.around.history⟩))
    (here : dialogue.connectionAt primitives later = some connection)
    (named : connection.connectionID = dialogue.connection)
    (left : token = ⟨dialogue.token, dialogue.tokenNanos, later.consumed⟩)
    (admitted : later.pending = true →
      dialogue.connection ∈ admission.pending ∧ admission.active = none)
    (wires : entries.reverse.filterMap Record.wire =
      (List.range' stage.heard (later.heard - stage.heard)).map
        (dialogue.serverBody coders primitives))
    (more : stage.heard ≤ later.heard)
    (heard : stage.heard + entries.countP Record.isReceived = later.heard)
    (intact : entries.any Record.isClose = false) :
    ∃ next, server.step coders primitives happening = some next ∧
      dialogue.ServerAt coders primitives later next := by
  refine ⟨_, stepped, ?_, left, ?_, admitted, ?_, ?_, ?_⟩
  · rw [here, ← named]
    exact server.handlers_put_self _
  · rintro rfl
    cases here
  · have before := reached.wires
    rw [Server.wires] at before ⊢
    rw [Server.put, List.reverse_append, List.filterMap_append, before, wires, ← List.map_append]
    congr 1
    have joined : List.range' 0 stage.heard ++
        List.range' (0 + stage.heard) (later.heard - stage.heard) =
          List.range' 0 (stage.heard + (later.heard - stage.heard)) := List.range'_append_1
    rw [Nat.zero_add, Nat.add_sub_cancel' more] at joined
    rw [List.range_eq_range', List.range_eq_range', joined]
  · have before := reached.heard
    rw [Server.heard] at before ⊢
    rw [Server.put, List.countP_append, before, Nat.add_comm, heard]
  · have before := reached.intact
    rw [Server.Intact] at before ⊢
    rw [Server.put, List.any_append, before, intact]
    rfl

omit [DecidableEq Peer] in
/-- The turn of the handler that there is. -/
theorem turn_of_handler {connectionID : Id} {connection : ServerConnection Id Peer}
    {may : ServerConnection Id Peer → Bool} {act : Turn Id Peer → Turn Id Peer}
    (here : server.handlers connectionID = some connection) (able : may connection = true) :
    server.turn connectionID may act = some (server.put (act ⟨connection, server.around⟩)) := by
  simp only [Server.turn, here, if_pos able]

/-! ### The server's steps -/

theorem ServerAt.accept (reached : dialogue.ServerAt coders primitives .absent server)
    (nowNanos failedNanos : Nat) :
    ∃ next, server.step coders primitives (.accept dialogue.connection (some dialogue.peer) true
        nowNanos dialogue.serverID dialogue.createdNanos failedNanos) = some next ∧
      dialogue.ServerAt coders primitives .accepted next := by
  have made : ServerConnection.start dialogue.connection dialogue.peer dialogue.serverID
      dialogue.createdNanos = .ok dialogue.newConnection := by
    have length : requireLength dialogue.serverID.1 identifierLength = .ok () :=
      requireLength_eq_ok.mpr dialogue.serverID.2
    rw [ServerConnection.start, ServerHandshake.new, length]
    rfl
  have begun : (AdmissionController.new : AdmissionController Id Peer).begin dialogue.connection
      dialogue.peer nowNanos = (.ok (), { (AdmissionController.new.prune nowNanos :
        AdmissionController Id Peer) with pending := {dialogue.connection} }) := by
    rfl
  refine reached.steps [.emitted (.connectionAccepted dialogue.connection)] server.around.token
    { (AdmissionController.new.prune nowNanos : AdmissionController Id Peer) with
      pending := {dialogue.connection} } (insert dialogue.connection server.around.connections)
    dialogue.newConnection ?_ rfl rfl reached.token (fun _ => ⟨by simp, rfl⟩) rfl le_rfl rfl rfl
  have free : (server.handlers dialogue.connection).isNone = true := by
    rw [reached.handler]
    rfl
  simp only [Server.step, if_pos free, Server.accept, reached.fresh rfl, begun, made]
  rfl

theorem ServerAt.ready (reached : dialogue.ServerAt coders primitives .accepted server)
    (nowNanos : Nat) :
    ∃ next, server.step coders primitives (.transport dialogue.connection .ready nowNanos) =
        some next ∧
      dialogue.ServerAt coders primitives .listening next := by
  refine reached.steps [] server.around.token server.around.admission server.around.connections
    _ ?_ rfl rfl reached.token (fun _ => reached.admitted rfl) rfl le_rfl rfl rfl
  rw [Server.step, turn_of_handler reached.handler]
  all_goals rfl

theorem ServerAt.sentChallenge
    (reached : dialogue.ServerAt coders primitives (.challenged true) server) (nowNanos : Nat) :
    ∃ next, server.step coders primitives (.sent dialogue.connection true none nowNanos) =
        some next ∧
      dialogue.ServerAt coders primitives (.challenged false) next := by
  refine reached.steps [] server.around.token server.around.admission server.around.connections
    _ ?_ rfl rfl reached.token (fun _ => reached.admitted rfl) rfl le_rfl rfl rfl
  rw [Server.step, turn_of_handler reached.handler]
  all_goals rfl

theorem ServerAt.sentAnswer {beat : Nat}
    (reached : dialogue.ServerAt coders primitives (.authenticated beat true) server)
    (nowNanos : Nat) :
    ∃ next, server.step coders primitives (.sent dialogue.connection false none nowNanos) =
        some next ∧
      dialogue.ServerAt coders primitives (.authenticated beat false) next := by
  refine reached.steps [] server.around.token server.around.admission server.around.connections
    _ ?_ rfl rfl reached.token (by rintro ⟨⟩) (by simp [ServerStage.heard]) le_rfl rfl rfl
  rw [Server.step, turn_of_handler reached.handler]
  all_goals rfl

/-! ### What is received -/

/-- A time within the deadlines of the handshake and of the token. -/
structure InTime (dialogue : Dialogue Id Peer) (nowNanos : Nat) : Prop where
  created : dialogue.createdNanos ≤ nowNanos
  handshake : nowNanos - dialogue.createdNanos ≤ handshakeTimeoutNanos
  tokenCreated : dialogue.tokenNanos ≤ nowNanos
  token : nowNanos - dialogue.tokenNanos ≤ tokenTTLNanos

/-- What is handled is what a receive leaves. -/
theorem received_of_handled {turn next : Turn Id Peer} {body : Bytes} {readings : Readings}
    (handled : (turn.record (.received turn.connection.connectionID body)).handle coders primitives
      body readings = (.ok (), next)) :
    turn.received coders primitives (.ok body) readings = next := by
  simp only [Turn.received, handled]

omit [DecidableEq Peer] in
/-- An envelope of the connection goes to the handler of its phase. -/
theorem handle_of_decode {turn pinned : Turn Id Peer} {body : Bytes} {envelope : Envelope}
    {readings : Readings} (decoded : Wire.decode coders body = .ok envelope)
    (first : turn.pin envelope = .ok pinned)
    (same : some envelope.connectionID = pinned.connection.wireConnectionID) :
    turn.handle coders primitives body readings =
      match pinned.connection.phase with
      | .awaitingHello => pinned.handleHello coders envelope readings
      | .awaitingProof => pinned.handleProof coders primitives envelope readings
      | .authenticated => pinned.handleHeartbeat coders primitives envelope
      | .awaitingReady => (.error .state, pinned)
      | .closed => (.error .state, pinned) := by
  simp only [Turn.handle, decoded, first]
  exact if_pos same

omit [DecidableEq Id] [DecidableEq Peer] in
theorem send_of_encode {turn : Turn Id Peer} {payload connectionID wire : Bytes}
    {type : DiagnosticType} {sequence : UInt64} {mac : Option Bytes} {recordFailure : Bool}
    (here : turn.connection.wireConnectionID = some connectionID)
    (encoded : Wire.encode coders payload type connectionID sequence mac = .ok wire) :
    turn.send coders (.ok payload) type sequence mac recordFailure =
      (.ok (), Turn.record { turn with connection := { turn.connection with
        awaited := .send recordFailure :: turn.connection.awaited } }
          (.sent turn.connection.connectionID wire)) := by
  simp only [Turn.send, bind, Except.bind, here, encoded]

omit [DecidableEq Id] [DecidableEq Peer] in
theorem receiveHello_hello {nowNanos : Nat} (timely : dialogue.InTime nowNanos) :
    dialogue.newHandshake.receiveHello dialogue.hello nowNanos dialogue.serverNonce
        dialogue.challengeID =
      .ok (dialogue.challenge, dialogue.handshakeAt .awaitingProof) := by
  have checked : dialogue.newHandshake.checkDeadline nowNanos = .ok () :=
    if_pos ⟨timely.created, timely.handshake⟩
  have fresh : dialogue.newHandshake.state = .awaitingHello := rfl
  simp only [ServerHandshake.receiveHello, checked, bind, Except.bind, if_pos fresh, hello_valid]
  rfl

omit [DecidableEq Id] [DecidableEq Peer] in
theorem handleHello_eq {turn : Turn Id Peer} {envelope : Envelope} {readings : Readings}
    {hello : Hello} {challenge : Challenge} {handshake : ServerHandshake}
    (first : envelope.type = .hello ∧ envelope.sequence = 0 ∧ envelope.mac = none)
    (unpacked : Wire.unpack coders.hello envelope = .ok hello)
    (answered : turn.connection.handshake.receiveHello hello readings.nowNanos readings.serverNonce
      readings.challengeID = .ok (challenge, handshake)) :
    turn.handleHello coders envelope readings =
      (turn.greet handshake).send coders (Wire.payload coders.challenge challenge) .challenge 0 none
        true := by
  rw [Turn.handleHello, if_pos first, unpacked]
  simp only [answered]

theorem ServerAt.receivedHello (carried : dialogue.Carried coders primitives beats)
    (reached : dialogue.ServerAt coders primitives .listening server) {readings : Readings}
    (timely : dialogue.InTime readings.nowNanos)
    (nonce : readings.serverNonce = dialogue.serverNonce)
    (challengeID : readings.challengeID = dialogue.challengeID) :
    ∃ next, server.step coders primitives (.received dialogue.connection
        (.ok (dialogue.clientBody coders primitives 0)) readings) = some next ∧
      dialogue.ServerAt coders primitives (.challenged true) next := by
  have decoded := dialogue.decode_fromClient carried (show 0 < beats + 2 by omega)
  have unpacked : Wire.unpack coders.hello (dialogue.fromClient coders primitives 0) =
      .ok dialogue.hello := Wire.unpack_of_carries hello_valid carried.hello rfl
  have payload := Wire.payload_of_carries dialogue.challenge_valid carried.challenge
  have encoded : Wire.encode coders (coders.challenge.text dialogue.challenge) .challenge
      dialogue.connectionID 0 none = .ok (dialogue.serverBody coders primitives 0) :=
    Wire.encode_of_carries dialogue.connectionID.2 rfl (carried.fromServer 0 (by omega))
  refine reached.steps [.sent dialogue.connection (dialogue.serverBody coders primitives 0),
    .received dialogue.connection (dialogue.clientBody coders primitives 0)]
    server.around.token server.around.admission server.around.connections
    _ ?_ rfl rfl reached.token (fun _ => reached.admitted rfl) rfl (by decide) rfl rfl
  rw [Server.step, turn_of_handler reached.handler (by rfl)]
  refine congrArg (fun turn => some (server.put turn)) (received_of_handled ?_)
  rw [handle_of_decode decoded (by rfl) (by rfl)]
  change Turn.handleHello coders _ _ _ = _
  rw [handleHello_eq ⟨rfl, rfl, rfl⟩ unpacked (nonce ▸ challengeID ▸ receiveHello_hello timely),
    payload, send_of_encode rfl encoded]
  rfl

omit [DecidableEq Id] [DecidableEq Peer] in
theorem receiveProof_proof {nowNanos : Nat} (timely : dialogue.InTime nowNanos) :
    (dialogue.handshakeAt .awaitingProof).receiveProof primitives
        ⟨dialogue.token, dialogue.tokenNanos, false⟩ (dialogue.proof primitives) nowNanos
        dialogue.sessionID =
      (.ok (dialogue.finished primitives, dialogue.key primitives),
        dialogue.handshakeAt .complete, ⟨dialogue.token, dialogue.tokenNanos, true⟩) := by
  have checked : (dialogue.handshakeAt .awaitingProof).checkDeadline nowNanos = .ok () :=
    if_pos ⟨timely.created, timely.handshake⟩
  have made := Transcript.clientProof_eq_ok.mpr
    ⟨dialogue.hello_valid, dialogue.challenge_valid, rfl⟩
  have valid : primitives.isValid (dialogue.proof primitives).proof dialogue.token
      (Transcript.canonical "client-proof".toList
        (Transcript.handshakeFields dialogue.hello dialogue.challenge)) = true :=
    isValid_hmac _ dialogue.token.2
  have taken : OneTimeToken.consumeIfValid ⟨dialogue.token, dialogue.tokenNanos, false⟩ nowNanos =
      .ok ⟨dialogue.token, dialogue.tokenNanos, true⟩ :=
    OneTimeToken.consumeIfValid_eq_ok.mpr ⟨⟨timely.tokenCreated, timely.token⟩, rfl, rfl⟩
  have passed : (dialogue.handshakeAt .awaitingProof).checkProof primitives
      ⟨dialogue.token, dialogue.tokenNanos, false⟩ (dialogue.proof primitives) nowNanos =
        .ok (dialogue.hello, dialogue.challenge, ⟨dialogue.token, dialogue.tokenNanos, true⟩) := by
    have state : (dialogue.handshakeAt .awaitingProof).state = .awaitingProof := rfl
    have greeted : (dialogue.handshakeAt .awaitingProof).hello = some dialogue.hello := rfl
    have answered : (dialogue.handshakeAt .awaitingProof).challenge = some dialogue.challenge := rfl
    simp only [ServerHandshake.checkProof, checked, state, greeted, answered, proof_valid, made,
      bind, Except.bind, if_pos valid, taken]
    rfl
  have finish := @ServerHandshake.finish_of_valid primitives dialogue.token dialogue.sessionID
    dialogue.hello dialogue.challenge dialogue.token.2 hello_valid challenge_valid
    dialogue.sessionID.2
  simp only [ServerHandshake.receiveProof, passed, finish]
  rfl

omit [DecidableEq Peer] in
theorem handleProof_eq {turn : Turn Id Peer} {envelope : Envelope} {readings : Readings}
    {proof : ClientProof} {finished : ServerFinished} {sessionKey : Bytes}
    {handshake : ServerHandshake} {token : OneTimeToken} {admission : AdmissionController Id Peer}
    (first : envelope.type = .clientProof ∧ envelope.sequence = 0 ∧ envelope.mac = none)
    (unpacked : Wire.unpack coders.clientProof envelope = .ok proof)
    (answered : turn.connection.handshake.receiveProof primitives turn.around.token proof
      readings.nowNanos readings.sessionID = (.ok (finished, sessionKey), handshake, token))
    (admitted : turn.around.admission.authenticationSucceeded turn.connection.connectionID =
      (true, admission)) :
    turn.handleProof coders primitives envelope readings =
      ((turn.prove handshake token).authenticate finished sessionKey admission).send coders
        (Wire.payload coders.serverFinished finished) .serverFinished 0 none false := by
  have admitted' : (turn.prove handshake token).around.admission.authenticationSucceeded
      (turn.prove handshake token).connection.connectionID = (true, admission) := admitted
  rw [Turn.handleProof, if_pos first, unpacked]
  simp only [answered, admitted']

theorem ServerAt.receivedProof (carried : dialogue.Carried coders primitives beats)
    (reached : dialogue.ServerAt coders primitives (.challenged false) server) {readings : Readings}
    (timely : dialogue.InTime readings.nowNanos)
    (sessionID : readings.sessionID = dialogue.sessionID) :
    ∃ next, server.step coders primitives (.received dialogue.connection
        (.ok (dialogue.clientBody coders primitives 1)) readings) = some next ∧
      dialogue.ServerAt coders primitives (.authenticated 0 true) next := by
  have decoded := dialogue.decode_fromClient carried (show 1 < beats + 2 by omega)
  have unpacked : Wire.unpack coders.clientProof (dialogue.fromClient coders primitives 1) =
      .ok (dialogue.proof primitives) := Wire.unpack_of_carries proof_valid carried.clientProof rfl
  have valid : (dialogue.finished primitives).validate = .ok () := finished_valid
  have payload := Wire.payload_of_carries valid carried.serverFinished
  have encoded : Wire.encode coders (coders.serverFinished.text (dialogue.finished primitives))
      .serverFinished dialogue.connectionID 0 none =
        .ok (dialogue.serverBody coders primitives 1) :=
    Wire.encode_of_carries dialogue.connectionID.2 rfl (carried.fromServer 1 (by omega))
  have admitted := AdmissionController.authenticationSucceeded_eq server.around.admission
    dialogue.connection
  rw [if_pos (reached.admitted rfl)] at admitted
  refine reached.steps [.sent dialogue.connection (dialogue.serverBody coders primitives 1),
    .emitted (.authenticated dialogue.connection),
    .received dialogue.connection (dialogue.clientBody coders primitives 1)]
    ⟨dialogue.token, dialogue.tokenNanos, true⟩
    { server.around.admission with
      pending := server.around.admission.pending.erase dialogue.connection
      active := some dialogue.connection }
    server.around.connections _ ?_ rfl rfl rfl (by rintro ⟨⟩) rfl (by decide) rfl rfl
  rw [Server.step, turn_of_handler reached.handler (by rfl)]
  refine congrArg (fun turn => some (server.put turn)) (received_of_handled ?_)
  rw [handle_of_decode decoded (by rfl) (by rfl)]
  change Turn.handleProof coders primitives _ _ _ = _
  have answered : (dialogue.handshakeAt .awaitingProof).receiveProof primitives server.around.token
      (dialogue.proof primitives) readings.nowNanos readings.sessionID =
        (.ok (dialogue.finished primitives, dialogue.key primitives),
          dialogue.handshakeAt .complete, ⟨dialogue.token, dialogue.tokenNanos, true⟩) := by
    rw [reached.token, sessionID]
    exact receiveProof_proof timely
  rw [handleProof_eq ⟨rfl, rfl, rfl⟩ unpacked answered admitted, payload,
    send_of_encode rfl encoded]
  rfl

omit [DecidableEq Id] [DecidableEq Peer] in
theorem acknowledge_ok (carried : dialogue.Carried coders primitives beats) (sequence : Nat) :
    Turn.acknowledge coders primitives dialogue.sessionID (dialogue.key primitives)
        (UInt64.ofNat sequence) =
      .ok (coders.ack.text .new,
        dialogue.tag primitives "server-ack".toList Ack.new.status sequence) := by
  have payload : Wire.payload coders.ack Ack.new = .ok (coders.ack.text .new) :=
    Wire.payload_of_carries rfl carried.ack
  simp only [Turn.acknowledge, payload, serverAck_ok, primitives.mac_of_length _ length_key, bind,
    Except.bind]
  rfl

omit [DecidableEq Id] [DecidableEq Peer] in
theorem checkHeartbeat_ok (carried : dialogue.Carried coders primitives beats)
    (bounded : beats < 2 ^ 64) {beat : Nat} (small : beat < beats) (turn : Turn Id Peer)
    (session : turn.connection.sessionID = some dialogue.sessionID.1)
    (key : turn.connection.sessionKey = some (dialogue.key primitives))
    (counter : turn.connection.incomingSequence = ⟨0, UInt64.ofNat beat⟩) :
    turn.checkHeartbeat coders primitives (dialogue.fromClient coders primitives (beat + 2)) =
      .ok (dialogue.sessionID, dialogue.key primitives, ⟨0, UInt64.ofNat (beat + 1)⟩) := by
  have type : (dialogue.fromClient coders primitives (beat + 2)).type = .heartbeat := rfl
  have mac : (dialogue.fromClient coders primitives (beat + 2)).mac =
      some (dialogue.tag primitives "client-heartbeat".toList Heartbeat.new.status (beat + 1)) := rfl
  have sequence : (dialogue.fromClient coders primitives (beat + 2)).sequence =
      UInt64.ofNat (beat + 1) := rfl
  have unpacked : Wire.unpack coders.heartbeat (dialogue.fromClient coders primitives (beat + 2)) =
      .ok Heartbeat.new := Wire.unpack_of_carries rfl carried.heartbeat rfl
  have validated : Heartbeat.new.validate = .ok () := rfl
  have valid : primitives.isValid
      (dialogue.tag primitives "client-heartbeat".toList Heartbeat.new.status (beat + 1))
      (dialogue.key primitives) (Transcript.canonicalHeartbeat "client-heartbeat".toList
        dialogue.sessionID (UInt64.ofNat (beat + 1)) (encode Heartbeat.new.status)) = true :=
    isValid_hmac _ length_key
  simp only [Turn.checkHeartbeat, type, mac, session, key, unpacked, validated, bind, Except.bind,
    sequence, clientHeartbeat_ok, if_pos valid, counter, accept_ofNat (show beat + 1 < 2 ^ 64 by omega)]
  rfl

omit [DecidableEq Id] [DecidableEq Peer] in
theorem handleHeartbeat_eq {turn : Turn Id Peer} {envelope : Envelope}
    {sessionID sessionKey payload mac : Bytes} {counter : HeartbeatSequence}
    (checked : turn.checkHeartbeat coders primitives envelope =
      .ok (sessionID, sessionKey, counter))
    (acknowledged : Turn.acknowledge coders primitives sessionID sessionKey envelope.sequence =
      .ok (payload, mac)) :
    turn.handleHeartbeat coders primitives envelope =
      ((turn.count counter).beat envelope.sequence).send coders (.ok payload) .ack
        envelope.sequence (some mac) false := by
  simp only [Turn.handleHeartbeat, checked, acknowledged]

theorem ServerAt.receivedHeartbeat (carried : dialogue.Carried coders primitives beats)
    (bounded : beats < 2 ^ 64) {beat : Nat} (small : beat < beats)
    (reached : dialogue.ServerAt coders primitives (.authenticated beat false) server)
    (readings : Readings) :
    ∃ next, server.step coders primitives (.received dialogue.connection
        (.ok (dialogue.clientBody coders primitives (beat + 2))) readings) = some next ∧
      dialogue.ServerAt coders primitives (.authenticated (beat + 1) true) next := by
  have decoded := dialogue.decode_fromClient carried (show beat + 2 < beats + 2 by omega)
  have encoded : Wire.encode coders (coders.ack.text .new) .ack dialogue.connectionID
      (UInt64.ofNat (beat + 1))
      (some (dialogue.tag primitives "server-ack".toList Ack.new.status (beat + 1))) =
        .ok (dialogue.serverBody coders primitives (beat + 2)) :=
    Wire.encode_of_carries dialogue.connectionID.2 (requireMac_tag _ _ _)
      (carried.fromServer (beat + 2) (by omega))
  have one : ServerStage.heard (.authenticated (beat + 1) true) -
      ServerStage.heard (.authenticated beat false) = 1 := by
    simp [ServerStage.heard]
  refine reached.steps [.sent dialogue.connection (dialogue.serverBody coders primitives (beat + 2)),
    .emitted (.heartbeat dialogue.connection (UInt64.ofNat (beat + 1))),
    .received dialogue.connection (dialogue.clientBody coders primitives (beat + 2))]
    server.around.token server.around.admission server.around.connections _ ?_ rfl rfl
    reached.token (by rintro ⟨⟩) ?_ (Nat.le_succ _) rfl rfl
  · rw [Server.step, turn_of_handler reached.handler (by rfl)]
    refine congrArg (fun turn => some (server.put turn)) (received_of_handled ?_)
    rw [handle_of_decode decoded (by rfl) (by rfl)]
    change Turn.handleHeartbeat coders primitives _ _ = _
    have checked := fun turn => checkHeartbeat_ok carried bounded small turn
    rw [handleHeartbeat_eq (checked _ rfl rfl rfl) (acknowledge_ok carried _)]
    change Turn.send coders _ (.ok (coders.ack.text .new)) _ (UInt64.ofNat (beat + 1)) _ _ = _
    rw [send_of_encode rfl encoded]
    rfl
  · rw [one]
    rfl

end Dialogue

end QuadControl.Apple.Diagnostic
