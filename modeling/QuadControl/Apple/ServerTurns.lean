import QuadControl.Apple.Server

/-! # What the turns of a handler do

Each way a handler's turn can go, with what has been checked on it and what it leaves.
-/

namespace QuadControl.Apple.Diagnostic

open Lib Lib.Utf8 Constants

namespace Turn

variable {Id Peer : Type} [DecidableEq Id]
variable {coders : Coders} {primitives : Primitives} {turn : Turn Id Peer}

/-- A send hands its message to the transport, or fails before and changes nothing. -/
inductive Sent (turn : Turn Id Peer) (recordFailure : Bool) :
    Except Failure Unit → Turn Id Peer → Prop where
  | failed (failure : Failure) : Sent turn recordFailure (.error failure) turn
  | awaited (wire : Bytes) :
      Sent turn recordFailure (.ok ())
        (record { turn with connection := { turn.connection with
            awaited := .send recordFailure :: turn.connection.awaited } }
          (.sent turn.connection.connectionID wire))

omit [DecidableEq Id] in
theorem sent_of_send {payload : Except Failure Bytes} {type : DiagnosticType} {sequence : UInt64}
    {mac : Option Bytes} {recordFailure : Bool} {result : Except Failure Unit} {next : Turn Id Peer}
    (sent : turn.send coders payload type sequence mac recordFailure = (result, next)) :
    Sent turn recordFailure result next := by
  unfold send at sent
  dsimp only at sent
  split at sent
  · obtain ⟨rfl, rfl⟩ := Prod.mk.inj sent
    exact .failed _
  · obtain ⟨rfl, rfl⟩ := Prod.mk.inj sent
    exact .awaited _

/-- The connection id that counts, or that it will be. -/
def pinned (turn : Turn Id Peer) (wire : Option Bytes) : Turn Id Peer :=
  { turn with connection := { turn.connection with wireConnectionID := wire } }

/-- A body holds a message of a type under a connection id. -/
def Holds {α : Type} [DiagnosticPayload α] (coders : Coders) (coder : Coder α)
    (type : DiagnosticType) (connectionID : Bytes) (message : α) (body : Bytes) : Prop :=
  ∃ envelope, Wire.decode coders body = .ok envelope ∧ envelope.type = type ∧
    envelope.connectionID = connectionID ∧ Wire.unpack coder envelope = .ok message

/-- How the handling of a body can go. -/
inductive Handled (coders : Coders) (primitives : Primitives) (turn : Turn Id Peer) (body : Bytes)
    (readings : Readings) : Except Failure Unit → Turn Id Peer → Prop where
  | refused (failure : Failure) (wire : Option Bytes)
      (pinned : wire = turn.connection.wireConnectionID ∨
        turn.connection.phase = .awaitingHello ∧ turn.connection.wireConnectionID = none) :
      Handled coders primitives turn body readings (.error failure) (turn.pinned wire)
  | greeted {wire : Bytes} {hello : Hello} {challenge : Challenge} {handshake : ServerHandshake}
      {result : Except Failure Unit} {next : Turn Id Peer}
      (phase : turn.connection.phase = .awaitingHello)
      (pinned : turn.connection.wireConnectionID = none ∨
        turn.connection.wireConnectionID = some wire)
      (held : Holds coders coders.hello .hello wire hello body)
      (received : turn.connection.handshake.receiveHello hello readings.nowNanos
        readings.serverNonce readings.challengeID = .ok (challenge, handshake))
      (sent : Sent ((turn.pinned (some wire)).greet handshake) true result next) :
      Handled coders primitives turn body readings result next
  | unproved {proof : ClientProof} {failure : Failure} {handshake : ServerHandshake}
      {token : OneTimeToken} (phase : turn.connection.phase = .awaitingProof)
      (received : turn.connection.handshake.receiveProof primitives turn.around.token proof
        readings.nowNanos readings.sessionID = (.error failure, handshake, token)) :
      Handled coders primitives turn body readings (.error failure) (turn.prove handshake token)
  | unadmitted {proof : ClientProof} {finished : ServerFinished} {sessionKey : Bytes}
      {handshake : ServerHandshake} {token : OneTimeToken}
      {admission : AdmissionController Id Peer}
      (phase : turn.connection.phase = .awaitingProof)
      (received : turn.connection.handshake.receiveProof primitives turn.around.token proof
        readings.nowNanos readings.sessionID = (.ok (finished, sessionKey), handshake, token))
      (refused : turn.around.admission.authenticationSucceeded turn.connection.connectionID =
        (false, admission)) :
      Handled coders primitives turn body readings (.error .resourceLimit)
        { turn.prove handshake token with
          around := { (turn.prove handshake token).around with admission := admission } }
  | authenticated {wire : Bytes} {proof : ClientProof} {finished : ServerFinished}
      {sessionKey : Bytes} {handshake : ServerHandshake} {token : OneTimeToken}
      {admission : AdmissionController Id Peer} {result : Except Failure Unit}
      {next : Turn Id Peer} (phase : turn.connection.phase = .awaitingProof)
      (pinned : turn.connection.wireConnectionID = some wire)
      (held : Holds coders coders.clientProof .clientProof wire proof body)
      (received : turn.connection.handshake.receiveProof primitives turn.around.token proof
        readings.nowNanos readings.sessionID = (.ok (finished, sessionKey), handshake, token))
      (admitted : turn.around.admission.authenticationSucceeded turn.connection.connectionID =
        (true, admission))
      (sent : Sent ((turn.prove handshake token).authenticate finished sessionKey admission) false
        result next) :
      Handled coders primitives turn body readings result next
  | unanswered {envelope : Envelope} {sessionID sessionKey : Bytes} {counter : HeartbeatSequence}
      (failure : Failure) (phase : turn.connection.phase = .authenticated)
      (decoded : Wire.decode coders body = .ok envelope)
      (checked : turn.checkHeartbeat coders primitives envelope =
        .ok (sessionID, sessionKey, counter)) :
      Handled coders primitives turn body readings (.error failure) (turn.count counter)
  | beaten {envelope : Envelope} {sessionID sessionKey : Bytes} {counter : HeartbeatSequence}
      {result : Except Failure Unit} {next : Turn Id Peer}
      (phase : turn.connection.phase = .authenticated)
      (decoded : Wire.decode coders body = .ok envelope)
      (checked : turn.checkHeartbeat coders primitives envelope =
        .ok (sessionID, sessionKey, counter))
      (sent : Sent ((turn.count counter).beat envelope.sequence) false result next) :
      Handled coders primitives turn body readings result next

omit [DecidableEq Id] in
theorem pin_eq_ok {envelope : Envelope} {next : Turn Id Peer}
    (here : turn.pin envelope = .ok next) :
    next = turn ∨ turn.connection.phase = .awaitingHello ∧
      turn.connection.wireConnectionID = none ∧
      next = turn.pinned (some envelope.connectionID) := by
  unfold pin at here
  split at here
  · rename_i unknown
    split at here
    · rename_i first
      exact .inr ⟨first.1, unknown, (Except.ok.inj here).symm⟩
    · cases here
  · exact .inl (Except.ok.inj here).symm

variable {body : Bytes} {readings : Readings} {envelope : Envelope}
  {result : Except Failure Unit} {next : Turn Id Peer}

theorem handled_of_handleHello (decoded : Wire.decode coders body = .ok envelope)
    (phase : turn.connection.phase = .awaitingHello)
    (pinned : turn.connection.wireConnectionID = none ∨
      turn.connection.wireConnectionID = some envelope.connectionID)
    (handled : (turn.pinned (some envelope.connectionID)).handleHello coders envelope readings =
      (result, next)) : Handled coders primitives turn body readings result next := by
  have refused : ∀ failure, Handled coders primitives turn body readings (.error failure)
      (turn.pinned (some envelope.connectionID)) := by
    intro failure
    apply Handled.refused
    exact pinned.elim (fun none => .inr ⟨phase, none⟩) fun same => .inl same.symm
  unfold handleHello at handled
  split at handled
  · rename_i fitting
    split at handled
    · obtain ⟨rfl, rfl⟩ := Prod.mk.inj handled
      exact refused _
    · rename_i hello unpacked
      split at handled
      · obtain ⟨rfl, rfl⟩ := Prod.mk.inj handled
        exact refused _
      · rename_i challenge handshake received
        exact .greeted phase pinned ⟨envelope, decoded, fitting.1, rfl, unpacked⟩ received
          (sent_of_send handled)
  · obtain ⟨rfl, rfl⟩ := Prod.mk.inj handled
    exact refused _

theorem handled_of_handleProof (decoded : Wire.decode coders body = .ok envelope)
    (phase : turn.connection.phase = .awaitingProof)
    (pinned : turn.connection.wireConnectionID = some envelope.connectionID)
    (handled : turn.handleProof coders primitives envelope readings = (result, next)) :
    Handled coders primitives turn body readings result next := by
  have refused : ∀ failure, Handled coders primitives turn body readings (.error failure) turn :=
    fun failure => .refused failure turn.connection.wireConnectionID (.inl rfl)
  unfold handleProof at handled
  split at handled
  · rename_i fitting
    split at handled
    · obtain ⟨rfl, rfl⟩ := Prod.mk.inj handled
      exact refused _
    · rename_i proof unpacked
      split at handled
      · rename_i received
        obtain ⟨rfl, rfl⟩ := Prod.mk.inj handled
        exact .unproved phase received
      · rename_i received
        dsimp only at handled
        split at handled
        · rename_i refused
          obtain ⟨rfl, rfl⟩ := Prod.mk.inj handled
          exact .unadmitted phase received refused
        · rename_i admitted
          exact .authenticated phase pinned ⟨envelope, decoded, fitting.1, rfl, unpacked⟩ received
            admitted (sent_of_send handled)
  · obtain ⟨rfl, rfl⟩ := Prod.mk.inj handled
    exact refused _

theorem handled_of_handleHeartbeat (decoded : Wire.decode coders body = .ok envelope)
    (phase : turn.connection.phase = .authenticated)
    (handled : turn.handleHeartbeat coders primitives envelope = (result, next)) :
    Handled coders primitives turn body readings result next := by
  unfold handleHeartbeat at handled
  split at handled
  · obtain ⟨rfl, rfl⟩ := Prod.mk.inj handled
    exact .refused _ turn.connection.wireConnectionID (.inl rfl)
  · rename_i checked
    split at handled
    · obtain ⟨rfl, rfl⟩ := Prod.mk.inj handled
      exact .unanswered _ phase decoded checked
    · exact .beaten phase decoded checked (sent_of_send handled)

theorem handled_of_handle
    (handled : turn.handle coders primitives body readings = (result, next)) :
    Handled coders primitives turn body readings result next := by
  have refused : ∀ failure, Handled coders primitives turn body readings (.error failure) turn :=
    fun failure => .refused failure turn.connection.wireConnectionID (.inl rfl)
  unfold handle at handled
  split at handled
  · obtain ⟨rfl, rfl⟩ := Prod.mk.inj handled
    exact refused _
  · rename_i envelope decoded
    split at handled
    · obtain ⟨rfl, rfl⟩ := Prod.mk.inj handled
      exact refused _
    · rename_i now here
      obtain rfl | ⟨phase, unknown, rfl⟩ := pin_eq_ok here
      · split at handled
        · rename_i same
          have whole : now = now.pinned (some envelope.connectionID) := by
            rw [same]
            rfl
          split at handled
          · rename_i phase
            rw [whole] at handled
            exact handled_of_handleHello decoded phase (.inr same.symm) handled
          · rename_i phase
            exact handled_of_handleProof decoded phase same.symm handled
          · rename_i phase
            exact handled_of_handleHeartbeat decoded phase handled
          · obtain ⟨rfl, rfl⟩ := Prod.mk.inj handled
            exact refused _
          · obtain ⟨rfl, rfl⟩ := Prod.mk.inj handled
            exact refused _
        · obtain ⟨rfl, rfl⟩ := Prod.mk.inj handled
          exact refused _
      · -- The connection id is pinned now, and the phase is that of the hello.
        have same : some envelope.connectionID =
            (turn.pinned (some envelope.connectionID)).connection.wireConnectionID := rfl
        have phase' : (turn.pinned (some envelope.connectionID)).connection.phase =
            .awaitingHello := phase
        rw [if_pos same, phase'] at handled
        exact handled_of_handleHello decoded phase (.inl unknown) handled

end Turn

end QuadControl.Apple.Diagnostic
