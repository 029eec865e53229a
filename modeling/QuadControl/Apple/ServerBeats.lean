import QuadControl.Apple.ClientBeats
import QuadControl.Apple.ServerRuns

/-! # The heartbeats that a server accepts

A handler takes a heartbeat only in the session that it has established, under a tag that is
valid, and with a number it has not reached. Its session begins with the use of the token, so
that a server has one session in all.
-/

namespace QuadControl.Apple.Diagnostic

open Lib Lib.Utf8 Constants

namespace ServerConnection

variable {Id Peer : Type}

def established (connection : ServerConnection Id Peer) : Option Established :=
  match connection.phase, connection.sessionID, connection.sessionKey with
  | .authenticated, some sessionID, some sessionKey => some ⟨sessionID, sessionKey⟩
  | _, _, _ => none

/-- The number of the last heartbeat that was accepted. -/
def beatsAccepted (connection : ServerConnection Id Peer) : UInt64 :=
  connection.incomingSequence.received

/-- The handshake of a connection has come to its end. -/
def Complete (connection : ServerConnection Id Peer) : Prop :=
  connection.handshake.state = .complete

instance (connection : ServerConnection Id Peer) : Decidable connection.Complete :=
  inferInstanceAs (Decidable (connection.handshake.state = .complete))

/-- Heartbeats are counted in a session only. -/
structure Beating (connection : ServerConnection Id Peer) : Prop where
  zero : connection.phase.Waiting → connection.beatsAccepted = 0
  complete : connection.phase = .authenticated → connection.Complete
  counted : connection.beatsAccepted ≠ 0 → connection.Complete

variable {connection : ServerConnection Id Peer}

theorem established_of_ne (other : connection.phase ≠ .authenticated) :
    connection.established = none := by
  unfold established
  split
  · rename_i phase _ _
    exact absurd phase other
  · rfl

theorem established_eq_some {session : Established} (here : connection.established = some session) :
    connection.phase = .authenticated ∧ connection.sessionID = some session.sessionID ∧
      connection.sessionKey = some session.sessionKey := by
  unfold established at here
  split at here
  · rename_i phase sessionID sessionKey
    obtain rfl := Option.some.inj here
    exact ⟨phase, sessionID, sessionKey⟩
  · cases here

/-- The tag that is checked when a body comes, with its key and transcript. -/
def checks (coders : Coders) (connection : ServerConnection Id Peer) (body : Bytes) :
    Option (Bytes × Bytes × Bytes) := do
  let session ← connection.established
  let envelope ← (Wire.decode coders body).toOption
  let mac ← envelope.mac
  let transcript ← (Transcript.clientHeartbeat session.sessionID envelope.sequence
    Heartbeat.new.status).toOption
  return (mac, session.sessionKey, transcript)

end ServerConnection

namespace Turn

variable {Id Peer : Type} {coders : Coders} {primitives : Primitives} {turn next : Turn Id Peer}

/-- A turn that accepts nothing. The session stays what it was, or is over. -/
structure Rests (turn next : Turn Id Peer) : Prop where
  same : next.connection.connectionID = turn.connection.connectionID
  accepted : next.connection.beatsAccepted = turn.connection.beatsAccepted
  complete : next.connection.Complete ↔ turn.connection.Complete
  token : next.around.token.consumed = turn.around.token.consumed
  phase : next.connection.phase = turn.connection.phase ∨
    next.connection.phase.Waiting ∧ turn.connection.phase.Waiting ∨
    next.connection.phase = .closed
  established : next.connection.established = turn.connection.established ∨
    next.connection.established = none

theorem Rests.refl (turn : Turn Id Peer) : turn.Rests turn :=
  ⟨rfl, rfl, Iff.rfl, rfl, .inl rfl, .inl rfl⟩

theorem Rests.trans {middle : Turn Id Peer} (first : turn.Rests middle)
    (second : middle.Rests next) : turn.Rests next := by
  refine ⟨second.same.trans first.same, second.accepted.trans first.accepted,
    second.complete.trans first.complete, second.token.trans first.token, ?_, ?_⟩
  · rcases second.phase with same | ⟨waits, waits'⟩ | closed
    · rw [same]
      exact first.phase
    · rcases first.phase with same | ⟨-, waits''⟩ | closed
      · exact .inr (.inl ⟨waits, same ▸ waits'⟩)
      · exact .inr (.inl ⟨waits, waits''⟩)
      · exact absurd closed waits'.2
    · exact .inr (.inr closed)
  · rcases second.established with same | ended
    · rw [same]
      exact first.established
    · exact .inr ended

theorem Rests.beating (rests : turn.Rests next) (beating : turn.connection.Beating) :
    next.connection.Beating := by
  constructor
  · intro waits
    rw [rests.accepted]
    apply beating.zero
    rcases rests.phase with same | ⟨-, waits'⟩ | closed
    · exact same ▸ waits
    · exact waits'
    · exact absurd closed waits.2
  · intro phase
    rw [rests.complete]
    apply beating.complete
    rcases rests.phase with same | ⟨waits, -⟩ | closed
    · exact same ▸ phase
    · exact absurd phase waits.1
    · rw [phase] at closed
      cases closed
  · rw [rests.accepted, rests.complete]
    exact beating.counted

/-- The fields that this is about. -/
def pace (turn : Turn Id Peer) :=
  (turn.connection.connectionID, turn.connection.phase, turn.connection.sessionID,
    turn.connection.sessionKey, turn.connection.handshake.state, turn.connection.incomingSequence,
    turn.around.token.consumed)

theorem Rests.of_pace (same : next.pace = turn.pace) : turn.Rests next := by
  simp only [pace, Prod.mk.injEq] at same
  obtain ⟨named, phase, sessionID, sessionKey, state, incoming, token⟩ := same
  refine ⟨named, ?_, ?_, token, .inl phase, .inl ?_⟩
  · rw [ServerConnection.beatsAccepted, ServerConnection.beatsAccepted, incoming]
  · rw [ServerConnection.Complete, ServerConnection.Complete, state]
  · rw [ServerConnection.established, ServerConnection.established, phase, sessionID, sessionKey]

/-- A turn that accepts the heartbeat in a body. -/
structure Accepts (coders : Coders) (primitives : Primitives) (turn : Turn Id Peer) (body : Bytes)
    (session : Established) (next : Turn Id Peer) : Prop where
  here : turn.connection.established = some session
  checked : ∃ envelope mac transcript, Wire.decode coders body = .ok envelope ∧
    envelope.type = .heartbeat ∧ next.connection.beatsAccepted = envelope.sequence ∧
    turn.connection.checks coders body = some (mac, session.sessionKey, transcript) ∧
    primitives.isValid mac session.sessionKey transcript = true ∧
    Transcript.clientHeartbeat session.sessionID envelope.sequence Heartbeat.new.status =
      .ok transcript
  later : turn.connection.beatsAccepted.toNat < next.connection.beatsAccepted.toNat
  complete : next.connection.Complete ↔ turn.connection.Complete
  token : next.around.token.consumed = turn.around.token.consumed
  late : ¬ next.connection.phase.Waiting
  established : next.connection.established = some session ∨ next.connection.established = none

/-- What a turn on a body does to the counter. -/
inductive Beats (coders : Coders) (primitives : Primitives) (turn : Turn Id Peer) (body : Bytes)
    (next : Turn Id Peer) : Prop where
  | rests (rests : turn.Rests next)
  | begins (waits : turn.connection.phase.Waiting) (late : ¬ next.connection.phase.Waiting)
      (unused : turn.around.token.consumed = false) (used : next.around.token.consumed = true)
      (accepted : next.connection.beatsAccepted = turn.connection.beatsAccepted)
      (complete : next.connection.Complete)
  | accepts {session : Established} (accepts : turn.Accepts coders primitives body session next)

theorem Beats.beating {body : Bytes} (beats : turn.Beats coders primitives body next)
    (beating : turn.connection.Beating) : next.connection.Beating := by
  cases beats with
  | rests rests => exact rests.beating beating
  | begins waits late unused used accepted complete =>
      exact ⟨fun waits' => absurd waits' late, fun _ => complete, fun _ => complete⟩
  | accepts accepts =>
      have phase := (ServerConnection.established_eq_some accepts.here).1
      have complete := accepts.complete.mpr (beating.complete phase)
      exact ⟨fun waits => absurd waits accepts.late, fun _ => complete, fun _ => complete⟩

/-- What rests afterwards changes nothing of it. -/
theorem Beats.trans {middle : Turn Id Peer} {body : Bytes}
    (beats : turn.Beats coders primitives body middle) (rests : middle.Rests next) :
    turn.Beats coders primitives body next := by
  have later : ¬ middle.connection.phase.Waiting → ¬ next.connection.phase.Waiting := by
    intro late waits
    rcases rests.phase with same | ⟨-, waits'⟩ | closed
    · exact late (same ▸ waits)
    · exact late waits'
    · exact waits.2 closed
  cases beats with
  | rests first => exact .rests (first.trans rests)
  | begins waits late unused used accepted complete =>
      exact .begins waits (later late) unused (rests.token.trans used)
        (rests.accepted.trans accepted) (rests.complete.mpr complete)
  | accepts accepts =>
      refine .accepts ⟨accepts.here, ?_, ?_, rests.complete.trans accepts.complete,
        rests.token.trans accepts.token, later accepts.late, ?_⟩
      · rw [rests.accepted]
        exact accepts.checked
      · rw [rests.accepted]
        exact accepts.later
      · rcases rests.established with same | ended
        · rw [same]
          exact accepts.established
        · exact .inr ended

/-- What came before changes nothing of it either. -/
theorem Beats.of_pace {first : Turn Id Peer} {body : Bytes}
    (beats : first.Beats coders primitives body next) (same : first.pace = turn.pace) :
    turn.Beats coders primitives body next := by
  have before : turn.Rests first := Rests.of_pace same
  simp only [pace, Prod.mk.injEq] at same
  obtain ⟨-, phase, sessionID, sessionKey, state, incoming, token⟩ := same
  have established : first.connection.established = turn.connection.established := by
    rw [ServerConnection.established, ServerConnection.established, phase, sessionID, sessionKey]
  cases beats with
  | rests rests => exact .rests (before.trans rests)
  | begins waits late unused used accepted complete =>
      exact .begins (phase ▸ waits) late (token ▸ unused) used (accepted.trans before.accepted)
        complete
  | accepts accepts =>
      have checks : first.connection.checks coders body = turn.connection.checks coders body := by
        rw [ServerConnection.checks, ServerConnection.checks, established]
      refine .accepts ⟨established ▸ accepts.here, ?_, ?_, accepts.complete.trans before.complete,
        accepts.token.trans token, accepts.late, accepts.established⟩
      · rw [← checks]
        exact accepts.checked
      · rw [← before.accepted]
        exact accepts.later

/-! ### Handling -/

theorem Rests.sent {recordFailure : Bool} {result : Except Failure Unit}
    (sent : Sent turn recordFailure result next) : turn.Rests next := by
  cases sent with
  | failed failure => exact Rests.refl turn
  | awaited wire => exact Rests.of_pace rfl

/-- What a heartbeat that is accepted has passed. -/
theorem checkHeartbeat_eq_ok {envelope : Envelope} {sessionID sessionKey : Bytes}
    {counter : HeartbeatSequence}
    (checked : turn.checkHeartbeat coders primitives envelope =
      .ok (sessionID, sessionKey, counter)) :
    envelope.type = .heartbeat ∧
      turn.connection.beatsAccepted.toNat < envelope.sequence.toNat ∧
      counter = { turn.connection.incomingSequence with received := envelope.sequence } ∧
      turn.connection.sessionID = some sessionID ∧ turn.connection.sessionKey = some sessionKey ∧
      ∃ mac transcript, envelope.mac = some mac ∧
        Transcript.clientHeartbeat sessionID envelope.sequence Heartbeat.new.status =
          .ok transcript ∧
        primitives.isValid mac sessionKey transcript = true := by
  unfold checkHeartbeat at checked
  split at checked
  · rename_i mac sessionID' sessionKey' type tagged here here'
    obtain ⟨heartbeat, -, checked⟩ := Except.bind_eq_ok.mp checked
    obtain ⟨right, checked⟩ := Except.check_bind_eq_ok.mp checked
    obtain ⟨transcript, made, checked⟩ := Except.bind_eq_ok.mp checked
    have status : heartbeat.status = Heartbeat.new.status := Except.guard_eq_ok.mp right
    rw [status] at made
    split at checked
    · rename_i valid
      obtain ⟨left, accepted, checked⟩ := Except.bind_eq_ok.mp checked
      obtain ⟨later, rfl⟩ := HeartbeatSequence.accept_eq_ok accepted
      obtain ⟨rfl, rfl, rfl⟩ := by simpa using Except.pure_eq_ok.mp checked
      exact ⟨type, later, rfl, here, here', mac, transcript, tagged, made, valid⟩
    · cases checked
  · cases checked

/-- A heartbeat is counted in the session that is established. -/
theorem beats_count {body : Bytes} {envelope : Envelope} {sessionID sessionKey : Bytes}
    {counter : HeartbeatSequence} (phase : turn.connection.phase = .authenticated)
    (decoded : Wire.decode coders body = .ok envelope)
    (checked : turn.checkHeartbeat coders primitives envelope =
      .ok (sessionID, sessionKey, counter)) :
    turn.Beats coders primitives body (turn.count counter) := by
  obtain ⟨type, later, rfl, here, here', mac, transcript, tagged, made, valid⟩ :=
    checkHeartbeat_eq_ok checked
  have established : turn.connection.established = some ⟨sessionID, sessionKey⟩ := by
    rw [ServerConnection.established, phase, here, here']
  have checks : turn.connection.checks coders body = some (mac, sessionKey, transcript) := by
    simp only [ServerConnection.checks, established, decoded, made, tagged, Except.toOption,
      Option.bind_eq_bind, Option.bind_some]
    rfl
  refine .accepts ⟨established, ?_, later, Iff.rfl, rfl, fun waits => waits.1 phase,
    .inl established⟩
  exact ⟨envelope, mac, transcript, decoded, type, rfl, checks, valid, made⟩

/-- A connection that is greeted goes on to its proof. -/
theorem Rests.greet (wire : Bytes) (phase : turn.connection.phase = .awaitingHello) {hello : Hello}
    {readings : Readings} {challenge : Challenge} {handshake : ServerHandshake}
    (received : turn.connection.handshake.receiveHello hello readings.nowNanos
      readings.serverNonce readings.challengeID = .ok (challenge, handshake)) :
    turn.Rests ((turn.pinned (some wire)).greet handshake) := by
  obtain ⟨early, rfl⟩ := ServerHandshake.receiveHello_eq_ok received
  have waits : turn.connection.phase.Waiting := by simp [phase]
  have waits' : Phase.awaitingProof.Waiting := Phase.waiting_awaitingProof
  refine ⟨rfl, rfl, iff_of_false nofun ?_, rfl, .inr (.inl ⟨waits', waits⟩),
    .inr (ServerConnection.established_of_ne nofun)⟩
  intro complete
  have state : turn.connection.handshake.state = .complete := complete
  rw [early] at state
  cases state

variable [DecidableEq Id] [DecidableEq Peer]

omit [DecidableEq Peer] in
/-- Whatever the body, its handling rests, begins the session or accepts a heartbeat. -/
theorem Fits.beats (fits : turn.Fits) {body : Bytes} {readings : Readings}
    {result : Except Failure Unit} (handled : Handled coders primitives turn body readings result next) :
    turn.Beats coders primitives body next := by
  cases handled with
  | refused failure wire pinned => exact .rests (.of_pace rfl)
  | greeted phase pinned held received sent =>
      exact .rests ((Rests.greet _ phase received).trans (.sent sent))
  | unproved phase received =>
      obtain ⟨rfl, rfl⟩ :=
        ServerHandshake.receiveProof_refused fits.paced.sound fits.around.length received
      exact .rests (.refl turn)
  | unadmitted phase received refused =>
      have admitted := fits.admits phase received
      rw [refused] at admitted
      cases admitted
  | @authenticated wire proof finished sessionKey handshake token admission result next phase pinned
      held received admitted sent =>
      obtain ⟨rfl, -, unused, rfl⟩ :=
        ServerHandshake.receiveProof_accepted fits.paced.sound fits.around.length received
      have waits : turn.connection.phase.Waiting := by simp [phase]
      have begun : turn.Beats coders primitives body
          ((turn.prove { turn.connection.handshake with state := .complete }
            { turn.around.token with consumed := true }).authenticate finished sessionKey
              admission) :=
        .begins waits (fun waits' => waits'.1 rfl) unused rfl rfl rfl
      exact begun.trans (.sent sent)
  | unanswered failure phase decoded checked => exact beats_count phase decoded checked
  | @beaten envelope sessionID sessionKey counter result next phase decoded checked sent =>
      have counted := beats_count phase decoded checked
      have told : Rests (turn.count counter) ((turn.count counter).beat envelope.sequence) :=
        .of_pace rfl
      exact counted.trans (told.trans (.sent sent))

theorem Rests.close (failure : Failure) (recordFailure : Bool) (nowNanos : Nat) :
    turn.Rests (turn.close failure recordFailure nowNanos) := by
  unfold Turn.close
  split
  · exact Rests.refl turn
  · exact ⟨rfl, rfl, Iff.rfl, rfl, .inr (.inr rfl),
      .inr (ServerConnection.established_of_ne nofun)⟩

theorem Fits.beatsReceived (fits : turn.Fits) (body : Bytes) (readings : Readings) :
    turn.Beats coders primitives body
      (turn.received coders primitives (.ok body) readings) := by
  have first := fits.record (.received turn.connection.connectionID body)
  have heard : ∀ {result next}, (turn.record (.received turn.connection.connectionID body)).handle
      coders primitives body readings = (result, next) →
      turn.Beats coders primitives body next := by
    intro result next handled
    exact (first.fits.beats (handled_of_handle handled)).of_pace rfl
  unfold Turn.received
  dsimp only
  split
  · rename_i next handled
    exact heard handled
  · rename_i failure next handled
    exact (heard handled).trans (.close failure _ _)

theorem Rests.handleConnectionState (state : TransportState) (nowNanos : Nat) :
    turn.Rests (turn.handleConnectionState state nowNanos) := by
  cases state with
  | ready =>
      unfold Turn.handleConnectionState
      dsimp only
      split
      · rename_i phase
        have waits : turn.connection.phase.Waiting := by simp [phase]
        have waits' : Phase.awaitingHello.Waiting := Phase.waiting_awaitingHello
        exact ⟨rfl, rfl, Iff.rfl, rfl, .inr (.inl ⟨waits', waits⟩),
          .inr (ServerConnection.established_of_ne nofun)⟩
      · exact Rests.refl turn
  | failed => exact Rests.close .network false nowNanos
  | cancelled => exact Rests.close .network false nowNanos
  | other => exact Rests.refl turn

theorem Rests.sentCompletion (recordFailure : Bool) (failure : Option Failure) (nowNanos : Nat) :
    turn.Rests (turn.sent recordFailure failure nowNanos) := by
  cases failure with
  | some failure => exact Rests.close failure recordFailure nowNanos
  | none => exact .of_pace rfl

end Turn

/-! ### The whole server -/

namespace Server

variable {Id Peer : Type} [DecidableEq Id] [DecidableEq Peer]
variable {coders : Coders} {primitives : Primitives} {server next : Server Id Peer}

/-- What a step of a server does to its handlers. -/
inductive Moves (coders : Coders) (primitives : Primitives) (server : Server Id Peer)
    (happening : Happening Id Peer) (next : Server Id Peer) : Prop where
  | none (handlers : next.handlers = server.handlers)
      (token : next.around.token = server.around.token)
  | starts {connection : ServerConnection Id Peer} {around : Surroundings Id Peer}
      (new : server.handlers connection.connectionID = none)
      (phase : connection.phase = .awaitingReady) (counter : connection.incomingSequence = .new)
      (early : ¬ connection.Complete) (put : next = server.put ⟨connection, around⟩)
      (token : around.token = server.around.token)
  | rests {connection : ServerConnection Id Peer} {turn : Turn Id Peer}
      (here : server.handlers turn.connection.connectionID = some connection)
      (rests : Turn.Rests ⟨connection, server.around⟩ turn) (put : next = server.put turn)
  | hears {connectionID : Id} {connection : ServerConnection Id Peer} {turn : Turn Id Peer}
      {body : Bytes} {readings : Readings}
      (heard : happening = .received connectionID (.ok body) readings)
      (here : server.handlers connectionID = some connection)
      (same : turn.connection.connectionID = connectionID)
      (beats : Turn.Beats coders primitives ⟨connection, server.around⟩ body turn)
      (put : next = server.put turn)
  | stops {order : List Id} {nowNanos : Nat} (stop : happening = .stop order nowNanos)
      (all : next = server.stopAll nowNanos order)

/-- A turn that a condition lets a handler take, and that rests. -/
theorem moves_of_turn (holds : server.Holds) {connectionID : Id}
    {may : ServerConnection Id Peer → Bool} {act : Turn Id Peer → Turn Id Peer}
    {happening : Happening Id Peer} (turned : server.turn connectionID may act = some next)
    (rests : ∀ turn : Turn Id Peer, turn.Rests (act turn)) :
    Moves coders primitives server happening next := by
  obtain ⟨connection, here, -, rfl⟩ := turn_eq_some server turned
  have rests := rests ⟨connection, server.around⟩
  have named := rests.same.trans (holds.named connectionID connection here)
  exact .rests (named.symm ▸ here) rests rfl

theorem moves_of_accept {connectionID : Id} (new : server.handlers connectionID = none)
    (peerKey : Option Peer) (allowed : Bool) (nowNanos : Nat)
    (serverID : RandomData identifierLength) (createdNanos failedNanos : Nat)
    (happening : Happening Id Peer) :
    Moves coders primitives server happening (server.accept connectionID peerKey allowed nowNanos
      serverID createdNanos failedNanos) := by
  obtain ⟨admission, same, -, -⟩ |
      ⟨connection, admission, same, rfl, phase, -, counter, state, -⟩ :=
    accept_cases server connectionID peerKey allowed nowNanos serverID createdNanos failedNanos
  · rw [same]
    exact .none rfl rfl
  · rw [same]
    refine .starts new phase counter ?_ rfl rfl
    intro complete
    have late : connection.handshake.state = .complete := complete
    rw [state] at late
    cases late

/-- Every step is one of these. -/
theorem Holds.moves (holds : server.Holds) {happening : Happening Id Peer}
    (stepped : server.step coders primitives happening = some next) :
    Moves coders primitives server happening next := by
  unfold Server.step at stepped
  cases happening with
  | accept connectionID peerKey allowed nowNanos serverID createdNanos failedNanos =>
      obtain ⟨new, same⟩ := Option.ite_none_right_eq_some.mp stepped
      obtain rfl := Option.some.inj same
      exact moves_of_accept (Option.isNone_iff_eq_none.mp new) peerKey allowed nowNanos serverID
        createdNanos failedNanos _
  | transport connectionID state nowNanos =>
      dsimp only at stepped
      apply moves_of_turn holds stepped
      intro turn
      exact Turn.Rests.handleConnectionState state nowNanos
  | received connectionID result readings =>
      dsimp only at stepped
      cases result with
      | error failure =>
          apply moves_of_turn holds stepped
          intro turn
          have completed : turn.Rests (complete .receive turn) := .of_pace rfl
          exact completed.trans (.close failure _ _)
      | ok body =>
          obtain ⟨connection, here, may, rfl⟩ := turn_eq_some server stepped
          obtain ⟨leads, quiet⟩ := (holds.fits here).complete (of_decide_eq_true may)
          have named := holds.named connectionID connection here
          have heard : Turn.Leads ⟨connection, server.around⟩
              (Turn.received coders primitives (complete .receive ⟨connection, server.around⟩)
                (.ok body) readings) := leads.trans (leads.fits.received quiet)
          have beats : Turn.Beats coders primitives ⟨connection, server.around⟩ body
              (Turn.received coders primitives (complete .receive ⟨connection, server.around⟩)
                (.ok body) readings) := (leads.fits.beatsReceived body readings).of_pace rfl
          exact .hears rfl here (heard.same.trans named) beats rfl
  | sent connectionID recordFailure failure nowNanos =>
      dsimp only at stepped
      apply moves_of_turn holds stepped
      intro turn
      have completed : turn.Rests (complete (.send recordFailure) turn) := .of_pace rfl
      exact completed.trans (.sentCompletion recordFailure failure nowNanos)
  | handshakeTimeout connectionID nowNanos =>
      dsimp only at stepped
      apply moves_of_turn holds stepped
      intro turn
      have fired : turn.Rests
          { turn with connection := { turn.connection with handshakeTimeout := false } } :=
        .of_pace rfl
      exact fired.trans (.close .timeout true nowNanos)
  | heartbeatTimeout connectionID nowNanos =>
      dsimp only at stepped
      apply moves_of_turn holds stepped
      intro turn
      have fired : turn.Rests
          { turn with connection := { turn.connection with heartbeatTimeout := false } } :=
        .of_pace rfl
      exact fired.trans (.close .timeout false nowNanos)
  | stop order nowNanos => exact .stops rfl (holds.stopInternal stepped).1

end Server

end QuadControl.Apple.Diagnostic
