import QuadControl.Apple.Dialogue

/-! # The client's side of a dialogue

How far a client has come tells the whole state of its session. The server's answer, or the
completion of what it sent itself, takes it to the next stage, and nothing in between fails.
-/

namespace QuadControl.Apple.Diagnostic

open Lib Lib.Utf8 Constants

namespace Dialogue

variable {Id Peer : Type} (coders : Coders) (primitives : Primitives) (dialogue : Dialogue Id Peer)

/-! ### The client's stages -/

/-- What a client has sent last, and whether the send has not completed yet. -/
inductive ClientStage where
  | idle
  | connecting
  | greeting (sending : Bool)
  | proving (sending : Bool)
  | resting (beats : Nat)
  | beating (beats : Nat) (sending : Bool)
  deriving Repr, DecidableEq

namespace ClientStage

/-- How many messages have been sent. -/
def sent : ClientStage → Nat
  | .idle => 0
  | .connecting => 0
  | .greeting _ => 1
  | .proving _ => 2
  | .resting beats => beats + 2
  | .beating beats _ => beats + 3

/-- How many answers have been received. -/
def heard : ClientStage → Nat
  | .idle => 0
  | .connecting => 0
  | .greeting _ => 0
  | .proving _ => 1
  | .resting beats => beats + 2
  | .beating beats _ => beats + 2

end ClientStage

/-- What is awaited once a message is sent: its completion, and then the answer. -/
def awaiting (message : Sending) (sending : Bool) : List ClientAwaited :=
  if sending then [.send message] else [.receive message.answer]

def newSession : ClientSession where
  connectionID := dialogue.connectionID
  handshake := some ⟨dialogue.hello, dialogue.token, .awaitingChallenge, none⟩
  sessionID := none
  sessionKey := none
  phase := .idle
  startCompletion := none
  handshakeTimeout := false
  heartbeatTimeout := false
  heartbeatSchedule := false
  outgoingSequence := .new
  incomingSequence := .new
  transportStarted := false
  awaited := []

def session : ClientStage → ClientSession
  | .idle => dialogue.newSession
  | .connecting => { dialogue.newSession with
      phase := .awaitingChallenge
      startCompletion := some 0
      handshakeTimeout := true
      transportStarted := true }
  | .greeting sending => { dialogue.newSession with
      phase := .awaitingChallenge
      startCompletion := some 0
      handshakeTimeout := true
      transportStarted := true
      awaited := awaiting .hello sending }
  | .proving sending => { dialogue.newSession with
      handshake :=
        some ⟨dialogue.hello, dialogue.token, .awaitingFinished, some dialogue.challenge⟩
      phase := .awaitingFinished
      startCompletion := some 0
      handshakeTimeout := true
      transportStarted := true
      awaited := awaiting .clientProof sending }
  | .resting beats => { dialogue.newSession with
      handshake := none
      sessionID := some dialogue.sessionID
      sessionKey := some (dialogue.key primitives)
      phase := .authenticated
      heartbeatSchedule := true
      outgoingSequence := ⟨UInt64.ofNat beats, 0⟩
      incomingSequence := ⟨0, UInt64.ofNat beats⟩
      transportStarted := true }
  | .beating beats sending => { dialogue.newSession with
      handshake := none
      sessionID := some dialogue.sessionID
      sessionKey := some (dialogue.key primitives)
      phase := .authenticated
      heartbeatTimeout := true
      outgoingSequence := ⟨UInt64.ofNat (beats + 1), 0⟩
      incomingSequence := ⟨0, UInt64.ofNat beats⟩
      transportStarted := true
      awaited := awaiting (.heartbeat (UInt64.ofNat (beats + 1))) sending }

end Dialogue

/-- What a session has sent, and how much it has received. -/
def ClientRecord.wire : ClientRecord → Option Bytes
  | .sent wire => some wire
  | _ => none

def ClientRecord.isReceived : ClientRecord → Bool
  | .received _ => true
  | _ => false

def ClientRecord.isFailure : ClientRecord → Bool
  | .told (.failed _) => true
  | .told .disconnected => true
  | .completed _ (.error _) => true
  | _ => false

namespace Client

variable (client : Client)

def wires : List Bytes := client.history.reverse.filterMap ClientRecord.wire

def heard : Nat := client.history.countP ClientRecord.isReceived

/-- The session has told of no failure. -/
def Intact : Prop := client.history.any ClientRecord.isFailure = false

end Client

namespace Dialogue

variable {Id Peer : Type} (coders : Coders) (primitives : Primitives) (dialogue : Dialogue Id Peer)

/-- A client at a stage. -/
structure ClientAt (stage : ClientStage) (client : Client) : Prop where
  session : client.session = dialogue.session primitives stage
  calls : stage = .idle → client.calls = 0
  wires : client.wires = (List.range stage.sent).map (dialogue.clientBody coders primitives)
  heard : client.heard = stage.heard
  intact : client.Intact

variable {coders primitives dialogue} {client next : Client} {stage later : ClientStage}

/-- What a block records takes a client to the next stage, with the state of that stage. -/
theorem ClientAt.advance (reached : dialogue.ClientAt coders primitives stage client)
    (entries : List ClientRecord) (session : next.session = dialogue.session primitives later)
    (calls : later ≠ .idle) (history : next.history = entries ++ client.history)
    (wires : entries.reverse.filterMap ClientRecord.wire =
      (List.range' stage.sent (later.sent - stage.sent)).map
        (dialogue.clientBody coders primitives))
    (more : stage.sent ≤ later.sent)
    (heard : stage.heard + entries.countP ClientRecord.isReceived = later.heard)
    (intact : entries.any ClientRecord.isFailure = false) :
    dialogue.ClientAt coders primitives later next := by
  refine ⟨session, fun idle => absurd idle calls, ?_, ?_, ?_⟩
  · have count : List.range later.sent =
        List.range stage.sent ++ List.range' stage.sent (later.sent - stage.sent) := by
      have joined : List.range' 0 stage.sent ++
          List.range' (0 + stage.sent) (later.sent - stage.sent) =
            List.range' 0 (stage.sent + (later.sent - stage.sent)) := List.range'_append_1
      rw [Nat.zero_add, Nat.add_sub_cancel' more] at joined
      rw [List.range_eq_range', List.range_eq_range', joined]
    have before := reached.wires
    rw [Client.wires] at before ⊢
    rw [history, List.reverse_append, List.filterMap_append, before, wires, count, List.map_append]
  · have before := reached.heard
    rw [Client.heard] at before ⊢
    rw [history, List.countP_append, before, Nat.add_comm, heard]
  · have before := reached.intact
    rw [Client.Intact] at before ⊢
    rw [history, List.any_append, before, intact]
    rfl

/-! ### The client's steps -/

theorem clientAt_new (made : Client.new dialogue.connectionID dialogue.token dialogue.clientNonce =
    .ok client) : dialogue.ClientAt coders primitives .idle client := by
  have checked : ClientHandshake.new dialogue.token dialogue.clientNonce =
      .ok ⟨dialogue.hello, dialogue.token, .awaitingChallenge, none⟩ := by
    have token : requireLength dialogue.token.1 tokenLength = .ok () :=
      requireLength_eq_ok.mpr dialogue.token.2
    have nonce : requireLength dialogue.clientNonce.1 nonceLength = .ok () :=
      requireLength_eq_ok.mpr dialogue.clientNonce.2
    rw [ClientHandshake.new, token, nonce]
    rfl
  rw [Client.new, checked] at made
  obtain rfl := Except.ok.inj made
  exact ⟨rfl, fun _ => rfl, rfl, rfl, rfl⟩

theorem ClientAt.start (reached : dialogue.ClientAt coders primitives .idle client) :
    ∃ next, client.step coders primitives .start = some next ∧
      dialogue.ClientAt coders primitives .connecting next := by
  refine ⟨client.start, rfl, ?_⟩
  have idle : client.session.phase = .idle := by rw [reached.session]; rfl
  refine reached.advance [.told .connecting] ?_ (by decide) ?_ rfl le_rfl rfl rfl
  · simp only [Client.start, Client.record, reached.calls rfl, reached.session]
    rfl
  · simp only [Client.start, if_pos idle, Client.record]
    rfl

/-- What a client at a stage is, so that its steps can be computed. -/
theorem ClientAt.eq (reached : dialogue.ClientAt coders primitives stage client) :
    client = ⟨dialogue.session primitives stage, client.calls, client.history⟩ := by
  rw [← reached.session]

/-- A block that leaves the state of another stage behind, with what it records. -/
theorem ClientAt.steps (reached : dialogue.ClientAt coders primitives stage client)
    {block : Client.Block} (entries : List ClientRecord)
    (stepped : client.step coders primitives block =
      some ⟨dialogue.session primitives later, client.calls, entries ++ client.history⟩)
    (calls : later ≠ .idle)
    (wires : entries.reverse.filterMap ClientRecord.wire =
      (List.range' stage.sent (later.sent - stage.sent)).map
        (dialogue.clientBody coders primitives))
    (more : stage.sent ≤ later.sent)
    (heard : stage.heard + entries.countP ClientRecord.isReceived = later.heard)
    (intact : entries.any ClientRecord.isFailure = false) :
    ∃ next, client.step coders primitives block = some next ∧
      dialogue.ClientAt coders primitives later next :=
  ⟨_, stepped, reached.advance entries rfl calls rfl wires more heard intact⟩

variable {beats : Nat}

theorem wire_of_carries {α : Type} [DiagnosticPayload α] {coder : Coder α} {message : α}
    {type : DiagnosticType} (valid : DiagnosticPayload.validate message = .ok ())
    (carries : coder.Carries message)
    (carries' : coders.envelope.Carries (dialogue.envelope type (coder.text message) 0 none))
    (client : Client) (same : client.session.connectionID = dialogue.connectionID) :
    client.wire coders coder message type =
      .ok (coders.envelope.text (dialogue.envelope type (coder.text message) 0 none)) := by
  rw [Client.wire, Wire.payload_of_carries valid carries, same]
  exact Wire.encode_of_carries dialogue.connectionID.2 rfl carries'

theorem ClientAt.ready (carried : dialogue.Carried coders primitives beats)
    (reached : dialogue.ClientAt coders primitives .connecting client) :
    ∃ next, client.step coders primitives (.transport .ready) = some next ∧
      dialogue.ClientAt coders primitives (.greeting true) next := by
  have encoded := dialogue.wire_of_carries hello_valid carried.hello
    (carried.fromClient 0 (by omega))
  refine reached.steps [.sent (dialogue.clientBody coders primitives 0), .told .authenticating] ?_
    (by decide) rfl (by decide) rfl rfl
  rw [reached.eq]
  change some (Client.settle (Client.send _ (Client.wire coders _ coders.hello dialogue.hello
    .hello) .hello)) = _
  rw [encoded]
  all_goals rfl

/-- The completion of what was sent. -/
theorem ClientAt.sentHello (reached : dialogue.ClientAt coders primitives (.greeting true) client) :
    ∃ next, client.step coders primitives (.sent .hello none) = some next ∧
      dialogue.ClientAt coders primitives (.greeting false) next := by
  refine reached.steps [] ?_ (by decide) rfl le_rfl rfl rfl
  rw [reached.eq]
  rfl

theorem ClientAt.sentProof (reached : dialogue.ClientAt coders primitives (.proving true) client) :
    ∃ next, client.step coders primitives (.sent .clientProof none) = some next ∧
      dialogue.ClientAt coders primitives (.proving false) next := by
  refine reached.steps [] ?_ (by decide) rfl le_rfl rfl rfl
  rw [reached.eq]
  rfl

theorem ClientAt.sentHeartbeat {beat : Nat}
    (reached : dialogue.ClientAt coders primitives (.beating beat true) client) :
    ∃ next, client.step coders primitives
        (.sent (.heartbeat (UInt64.ofNat (beat + 1))) none) = some next ∧
      dialogue.ClientAt coders primitives (.beating beat false) next := by
  refine reached.steps [] ?_ (by simp) (by simp [ClientStage.sent]) le_rfl rfl rfl
  have inside : ClientAwaited.send (.heartbeat (UInt64.ofNat (beat + 1))) ∈
      (dialogue.session primitives (.beating beat true)).awaited := .head _
  rw [reached.eq, Client.step, if_pos inside]
  have empty : (dialogue.session primitives (.beating beat true)).awaited.erase
      (.send (.heartbeat (UInt64.ofNat (beat + 1)))) = [] := List.erase_cons_head _ _
  simp only [Client.complete, Client.sent, empty]
  rfl

theorem receiveChallenge_challenge : ClientHandshake.receiveChallenge
    ⟨dialogue.hello, dialogue.token, .awaitingChallenge, none⟩ primitives dialogue.challenge =
      (.ok (dialogue.proof primitives),
        ⟨dialogue.hello, dialogue.token, .awaitingFinished, some dialogue.challenge⟩) := by
  have made := Transcript.clientProof_eq_ok.mpr
    ⟨dialogue.hello_valid, dialogue.challenge_valid, rfl⟩
  simp only [ClientHandshake.receiveChallenge, if_true, dialogue.challenge_valid,
    ClientHandshake.prove, made, bind, Except.bind, primitives.mac_of_length _ dialogue.token.2]
  rfl

theorem unpack_of_carries {α : Type} [DiagnosticPayload α] {coder : Coder α} {message : α}
    {type : DiagnosticType} {body : Bytes}
    (valid : DiagnosticPayload.validate message = .ok ()) (carries : coder.Carries message)
    (decoded : Wire.decode coders body =
      .ok (dialogue.envelope type (coder.text message) 0 none))
    (client : Client) (same : client.session.connectionID = dialogue.connectionID) :
    client.unpack coders coder type (.ok body) = .ok message := by
  simp only [Client.unpack, bind, Except.bind, decoded]
  rw [if_pos ⟨rfl, same.symm, rfl, rfl⟩]
  exact Wire.unpack_of_carries valid carries rfl

theorem receiveChallenge_eq {client : Client} {result : Except Failure Bytes}
    {before after : ClientHandshake} {challenge : Challenge} {proof : ClientProof}
    (phase : client.session.phase = .awaitingChallenge)
    (handshake : client.session.handshake = some before)
    (unpacked : client.unpack coders coders.challenge .challenge result = .ok challenge)
    (answered : before.receiveChallenge primitives challenge = (.ok proof, after)) :
    client.receiveChallenge coders primitives result =
      Client.send { client.prove after with
          session := { (client.prove after).session with phase := .awaitingFinished } }
        (Client.wire coders { client.prove after with
          session := { (client.prove after).session with phase := .awaitingFinished } }
          coders.clientProof proof .clientProof) .clientProof := by
  simp only [Client.receiveChallenge, phase, handshake, unpacked, answered]

theorem ClientAt.receivedChallenge (carried : dialogue.Carried coders primitives beats)
    (reached : dialogue.ClientAt coders primitives (.greeting false) client) :
    ∃ next, client.step coders primitives
        (.received .challenge (.ok (dialogue.serverBody coders primitives 0))) = some next ∧
      dialogue.ClientAt coders primitives (.proving true) next := by
  have decoded := dialogue.decode_fromServer carried (show 0 < beats + 2 by omega)
  have unpacked := dialogue.unpack_of_carries challenge_valid carried.challenge decoded
  have encoded := dialogue.wire_of_carries proof_valid carried.clientProof
    (carried.fromClient 1 (by omega))
  refine reached.steps [.sent (dialogue.clientBody coders primitives 1),
    .received (dialogue.serverBody coders primitives 0)] ?_ (by decide) rfl (by decide) rfl rfl
  rw [reached.eq]
  change some (Client.settle (Client.receiveChallenge coders primitives _ _)) = _
  rw [receiveChallenge_eq rfl rfl (unpacked _ rfl) receiveChallenge_challenge, encoded]
  all_goals rfl

theorem sessionKey_key :
    primitives.sessionKey dialogue.token dialogue.hello dialogue.challenge =
      .ok (dialogue.key primitives) := by
  have info := Transcript.sessionInfo_eq_ok.mpr
    ⟨dialogue.hello_valid, dialogue.challenge_valid, rfl⟩
  exact Except.check_bind_eq_ok.mpr
    ⟨requireLength_eq_ok.mpr dialogue.token.2, Except.bind_eq_ok.mpr ⟨_, info, rfl⟩⟩

theorem isValid_hmac {key : Bytes} (transcript : Bytes) (length : key.length = macLength) :
    primitives.isValid (primitives.hmac key transcript) key transcript = true := by
  simp [Primitives.isValid, primitives.length_hmac, length]

theorem receiveFinished_finished : ClientHandshake.receiveFinished
    ⟨dialogue.hello, dialogue.token, .awaitingFinished, some dialogue.challenge⟩ primitives
      (dialogue.finished primitives) =
    .ok ((dialogue.sessionID, dialogue.key primitives),
      ⟨dialogue.hello, dialogue.token, .complete, some dialogue.challenge⟩) := by
  have made := Transcript.serverFinished_eq_ok.mpr
    ⟨dialogue.hello_valid, dialogue.challenge_valid, dialogue.sessionID.2, rfl⟩
  have valid : primitives.isValid (dialogue.finished primitives).proof (dialogue.key primitives)
      (Transcript.canonical "server-finished".toList
        (Transcript.handshakeFields dialogue.hello dialogue.challenge ++ [dialogue.sessionID.1])) =
      true := isValid_hmac _ length_key
  have session : (dialogue.finished primitives).sessionID = dialogue.sessionID := rfl
  simp only [ClientHandshake.receiveFinished, finished_valid, sessionKey_key, session, made, bind,
    Except.bind, if_pos valid]
  rfl

theorem receiveFinished_eq {client : Client} {result : Except Failure Bytes}
    {before after : ClientHandshake} {finished : ServerFinished} {sessionID sessionKey : Bytes}
    (phase : client.session.phase = .awaitingFinished)
    (handshake : client.session.handshake = some before)
    (unpacked : client.unpack coders coders.serverFinished .serverFinished result = .ok finished)
    (answered : before.receiveFinished primitives finished = .ok ((sessionID, sessionKey), after)) :
    client.receiveFinished coders primitives result =
      (.ok (), client.authenticate sessionID sessionKey) := by
  simp only [Client.receiveFinished, phase, handshake, unpacked, answered]

theorem ClientAt.receivedFinished (carried : dialogue.Carried coders primitives beats)
    (reached : dialogue.ClientAt coders primitives (.proving false) client) :
    ∃ next, client.step coders primitives
        (.received .serverFinished (.ok (dialogue.serverBody coders primitives 1))) = some next ∧
      dialogue.ClientAt coders primitives (.resting 0) next := by
  have decoded := dialogue.decode_fromServer carried (show 1 < beats + 2 by omega)
  have unpacked := dialogue.unpack_of_carries finished_valid carried.serverFinished decoded
  refine reached.steps [.told .connected, .completed 0 (.ok ()),
    .received (dialogue.serverBody coders primitives 1)] ?_ (by decide) rfl (by decide) rfl rfl
  rw [reached.eq]
  change some (Client.settle (Client.receiveFinished coders primitives _ _)) = _
  rw [receiveFinished_eq rfl rfl (unpacked _ rfl) receiveFinished_finished]
  rfl

/-! ### Heartbeats -/

theorem toNat_ofNat_of_lt {n : Nat} (small : n < 2 ^ 64) : (UInt64.ofNat n).toNat = n :=
  UInt64.toNat_ofNat_of_lt' small

theorem next_ofNat {beat : Nat} (small : beat + 1 < 2 ^ 64) :
    HeartbeatSequence.next ⟨UInt64.ofNat beat, 0⟩ =
      .ok (UInt64.ofNat (beat + 1), ⟨UInt64.ofNat (beat + 1), 0⟩) := by
  have room : UInt64.ofNat beat < 0xffffffffffffffff := by
    rw [UInt64.lt_iff_toNat_lt, toNat_ofNat_of_lt (by omega)]
    exact Nat.lt_of_succ_lt_succ small
  have added : UInt64.ofNat beat + 1 = UInt64.ofNat (beat + 1) := by
    rw [UInt64.ofNat_add]
    rfl
  simp only [HeartbeatSequence.next, if_pos room, added]

theorem accept_ofNat {beat : Nat} (small : beat + 1 < 2 ^ 64) :
    HeartbeatSequence.accept ⟨0, UInt64.ofNat beat⟩ (UInt64.ofNat (beat + 1)) =
      .ok ⟨0, UInt64.ofNat (beat + 1)⟩ := by
  have later : UInt64.ofNat beat < UInt64.ofNat (beat + 1) := by
    rw [UInt64.lt_iff_toNat_lt, toNat_ofNat_of_lt (by omega), toNat_ofNat_of_lt small]
    exact Nat.lt_succ_self beat
  simp only [HeartbeatSequence.accept, if_pos later]

theorem clientHeartbeat_ok (sequence : UInt64) :
    Transcript.clientHeartbeat dialogue.sessionID sequence Heartbeat.new.status =
      .ok (Transcript.canonicalHeartbeat "client-heartbeat".toList dialogue.sessionID sequence
        (encode Heartbeat.new.status)) :=
  Transcript.sessionTranscript_eq_ok.mpr ⟨dialogue.sessionID.2, rfl, rfl⟩

theorem serverAck_ok (sequence : UInt64) :
    Transcript.serverAck dialogue.sessionID sequence Ack.new.status =
      .ok (Transcript.canonicalHeartbeat "server-ack".toList dialogue.sessionID sequence
        (encode Ack.new.status)) :=
  Transcript.sessionTranscript_eq_ok.mpr ⟨dialogue.sessionID.2, rfl, rfl⟩

theorem heartbeatWire_ok (carried : dialogue.Carried coders primitives beats) {beat : Nat}
    (small : beat < beats) (client : Client)
    (same : client.session.connectionID = dialogue.connectionID) :
    client.heartbeatWire coders primitives dialogue.sessionID (dialogue.key primitives)
        (UInt64.ofNat (beat + 1)) =
      .ok (dialogue.clientBody coders primitives (beat + 2)) := by
  have payload : Wire.payload coders.heartbeat Heartbeat.new =
      .ok (coders.heartbeat.text .new) := Wire.payload_of_carries rfl carried.heartbeat
  simp only [Client.heartbeatWire, payload, clientHeartbeat_ok, bind, Except.bind,
    primitives.mac_of_length _ length_key, same]
  exact Wire.encode_of_carries dialogue.connectionID.2 (requireMac_tag _ _ _)
    (carried.fromClient (beat + 2) (by omega))

theorem sendHeartbeat_eq {client : Client} {sessionID sessionKey wire : Bytes} {sequence : UInt64}
    {counter : HeartbeatSequence} (phase : client.session.phase = .authenticated)
    (session : client.session.sessionID = some sessionID)
    (key : client.session.sessionKey = some sessionKey)
    (counted : client.session.outgoingSequence.next = .ok (sequence, counter))
    (encoded : (client.count counter).heartbeatWire coders primitives sessionID sessionKey sequence =
      .ok wire) :
    client.sendHeartbeat coders primitives =
      Client.send { client.count counter with
        session := { (client.count counter).session with heartbeatTimeout := true } } (.ok wire)
        (.heartbeat sequence) := by
  simp only [Client.sendHeartbeat, phase, session, key, counted, encoded]

theorem ClientAt.scheduled (carried : dialogue.Carried coders primitives beats)
    (bounded : beats < 2 ^ 64) {beat : Nat} (small : beat < beats)
    (reached : dialogue.ClientAt coders primitives (.resting beat) client) :
    ∃ next, client.step coders primitives .heartbeatSchedule = some next ∧
      dialogue.ClientAt coders primitives (.beating beat true) next := by
  have encoded := dialogue.heartbeatWire_ok carried small
  have one : ClientStage.sent (.beating beat true) - ClientStage.sent (.resting beat) = 1 := by
    simp [ClientStage.sent]
  refine reached.steps [.sent (dialogue.clientBody coders primitives (beat + 2))] ?_ (by simp) ?_
    (Nat.le_succ _) rfl rfl
  · rw [reached.eq]
    change some (Client.settle (Client.sendHeartbeat coders primitives _)) = _
    rw [sendHeartbeat_eq rfl rfl rfl (next_ofNat (by omega)) (encoded _ rfl)]
    rfl
  · rw [one]
    rfl

theorem checkAck_ok (carried : dialogue.Carried coders primitives beats)
    (bounded : beats < 2 ^ 64) {beat : Nat} (small : beat < beats) (client : Client)
    (same : client.session.connectionID = dialogue.connectionID)
    (counter : client.session.incomingSequence = ⟨0, UInt64.ofNat beat⟩) :
    client.checkAck coders primitives dialogue.sessionID (dialogue.key primitives)
        (UInt64.ofNat (beat + 1)) (.ok (dialogue.serverBody coders primitives (beat + 2))) =
      .ok ⟨0, UInt64.ofNat (beat + 1)⟩ := by
  have decoded := dialogue.decode_fromServer carried (show beat + 2 < beats + 2 by omega)
  have unpacked : Wire.unpack coders.ack (dialogue.fromServer coders primitives (beat + 2)) =
      .ok Ack.new := Wire.unpack_of_carries rfl carried.ack rfl
  have mac : (dialogue.fromServer coders primitives (beat + 2)).mac =
      some (dialogue.tag primitives "server-ack".toList Ack.new.status (beat + 1)) := rfl
  have valid : primitives.isValid
      (dialogue.tag primitives "server-ack".toList Ack.new.status (beat + 1))
      (dialogue.key primitives) (Transcript.canonicalHeartbeat "server-ack".toList
        dialogue.sessionID (UInt64.ofNat (beat + 1)) (encode Ack.new.status)) = true :=
    isValid_hmac _ length_key
  have validated : Ack.new.validate = .ok () := rfl
  simp only [Client.checkAck, bind, Except.bind, decoded, mac]
  rw [if_pos ⟨rfl, same.symm, rfl⟩]
  simp only [unpacked, validated, serverAck_ok, if_pos valid, counter]
  exact accept_ofNat (by omega)

theorem receiveAck_eq {client : Client} {sessionID sessionKey : Bytes} {sequence : UInt64}
    {result : Except Failure Bytes} {counter : HeartbeatSequence}
    (phase : client.session.phase = .authenticated)
    (session : client.session.sessionID = some sessionID)
    (key : client.session.sessionKey = some sessionKey)
    (checked : client.checkAck coders primitives sessionID sessionKey sequence result =
      .ok counter) :
    client.receiveAck coders primitives sequence result = (.ok (), client.acknowledge counter) := by
  simp only [Client.receiveAck, phase, session, key, checked]

theorem ClientAt.receivedAck (carried : dialogue.Carried coders primitives beats)
    (bounded : beats < 2 ^ 64) {beat : Nat} (small : beat < beats)
    (reached : dialogue.ClientAt coders primitives (.beating beat false) client) :
    ∃ next, client.step coders primitives (.received (.ack (UInt64.ofNat (beat + 1)))
        (.ok (dialogue.serverBody coders primitives (beat + 2)))) = some next ∧
      dialogue.ClientAt coders primitives (.resting (beat + 1)) next := by
  have checked := dialogue.checkAck_ok carried bounded small
  have level : ClientStage.sent (.resting (beat + 1)) - ClientStage.sent (.beating beat false) = 0 := by
    simp [ClientStage.sent]
  refine reached.steps [.received (dialogue.serverBody coders primitives (beat + 2))] ?_ (by simp) ?_
    le_rfl rfl rfl
  · have inside : ClientAwaited.receive (.ack (UInt64.ofNat (beat + 1))) ∈
        (dialogue.session primitives (.beating beat false)).awaited := .head _
    have empty : (dialogue.session primitives (.beating beat false)).awaited.erase
        (.receive (.ack (UInt64.ofNat (beat + 1)))) = [] := List.erase_cons_head _ _
    rw [reached.eq, Client.step, if_pos inside, Client.complete]
    simp only [empty]
    change some (Client.settle (Client.receiveAck coders primitives _ _ _)) = _
    rw [receiveAck_eq rfl rfl rfl (checked _ rfl rfl)]
    rfl
  · rw [level]
    rfl

end Dialogue

end QuadControl.Apple.Diagnostic
