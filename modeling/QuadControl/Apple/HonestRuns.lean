import QuadControl.Apple.DialogueServer
import QuadControl.Apple.HeartbeatRuns

/-! # Runs in which nothing goes wrong

A client and the server, with a network between them that hands on what was sent, in order and
unchanged. Completions, deliveries and heartbeats that are due come in any order they can;
nothing fails, no timeout fires, and there is always a way on, until as many heartbeats are
acknowledged as there are to be.
-/

namespace QuadControl.Apple.Diagnostic

open Lib Lib.Utf8 Constants

variable {Id Peer : Type}

namespace System

variable (system : System Id Peer)

/-- What the client has sent and the server has not received, the earliest of it. -/
def toServer : Option Bytes := (system.clients 0).wires[system.server.heard]?

def toClient : Option Bytes := system.server.wires[(system.clients 0).heard]?

end System

namespace Dialogue

variable (coders : Coders) (primitives : Primitives) (dialogue : Dialogue Id Peer) (beats : Nat)

/-- A block of the client that comes of a network that hands on, before any timeout, and of an
    application that starts the session once and sends so many heartbeats. -/
def HonestBlock (system : System Id Peer) : Client.Block → Prop
  | .start => (system.clients 0).session.phase = .idle
  | .transport .ready =>
      (system.clients 0).session.phase = .awaitingChallenge ∧ (system.clients 0).wires = []
  | .sent _ failure => failure = none
  | .received _ result => system.toClient.map .ok = some result
  | .heartbeatSchedule => (system.clients 0).session.outgoingSequence.sent.toNat < beats
  | _ => False

/-- The same on the server, with what it draws at random; no timeout of its fires either, and the
    two messages of the handshake come in time. -/
def HonestHappening (system : System Id Peer) : Happening Id Peer → Prop
  | .accept connectionID peerKey allowed _ serverID createdNanos _ =>
      connectionID = dialogue.connection ∧ peerKey = some dialogue.peer ∧ allowed = true ∧
        serverID = dialogue.serverID ∧ createdNanos = dialogue.createdNanos
  | .transport connectionID state _ =>
      connectionID = dialogue.connection ∧ state = .ready ∧
        ∃ connection, system.server.handlers connectionID = some connection ∧
          connection.phase = .awaitingReady
  | .received connectionID result readings =>
      connectionID = dialogue.connection ∧ system.toServer.map .ok = some result ∧
        (system.server.heard < 2 → dialogue.InTime readings.nowNanos) ∧
        readings.serverNonce = dialogue.serverNonce ∧
        readings.challengeID = dialogue.challengeID ∧ readings.sessionID = dialogue.sessionID
  | .sent connectionID _ failure _ => connectionID = dialogue.connection ∧ failure = none
  | _ => False

def Honest (system : System Id Peer) : Event Id Peer → Prop
  | .client number block => number = 0 ∧ HonestBlock beats system block
  | .server happening => dialogue.HonestHappening system happening

/-! ### Where the two sides are -/

/-- Both sides at their stages: the server has answered what it has received, and the client
    has received some of these answers, and all of them but the last. -/
structure Joined (mine : ClientStage) (yours : ServerStage) (system : System Id Peer) : Prop where
  client : dialogue.ClientAt coders primitives mine (system.clients 0)
  server : dialogue.ServerAt coders primitives yours system.server
  ahead : yours.heard ≤ mine.sent
  behind : mine.heard ≤ yours.heard
  bounded : mine.sent ≤ beats + 2

namespace ClientStage

/-- How many steps it took to get there. -/
def rank : ClientStage → Nat
  | .idle => 0
  | .connecting => 1
  | .greeting sending => if sending then 2 else 3
  | .proving sending => if sending then 4 else 5
  | .resting beats => 6 + 3 * beats
  | .beating beats sending => 6 + 3 * beats + if sending then 1 else 2

theorem rank_le (stage : ClientStage) : stage.rank ≤ 3 * stage.sent + 1 := by
  cases stage with
  | idle => decide
  | connecting => decide
  | greeting sending => cases sending <;> decide
  | proving sending => cases sending <;> decide
  | resting beats =>
      simp only [rank, sent]
      omega
  | beating beats sending =>
      cases sending <;> simp [rank, sent] <;> omega

end ClientStage

namespace ServerStage

def rank : ServerStage → Nat
  | .absent => 0
  | .accepted => 1
  | .listening => 2
  | .challenged sending => if sending then 3 else 4
  | .authenticated beats sending => 2 * beats + if sending then 5 else 6

theorem rank_le (stage : ServerStage) : stage.rank ≤ 2 * stage.heard + 2 := by
  cases stage with
  | absent => decide
  | accepted => decide
  | listening => decide
  | challenged sending => cases sending <;> decide
  | authenticated beats sending =>
      cases sending <;> simp [rank, heard] <;> omega

end ServerStage

variable {coders primitives dialogue beats} {client next : Client} {stage : ClientStage}

/-! ### What is awaited -/

theorem send_mem_awaiting {message other : Sending} {sending : Bool} :
    ClientAwaited.send message ∈ awaiting other sending ↔ sending = true ∧ message = other := by
  cases sending <;> simp [awaiting]

theorem receive_mem_awaiting {message : Receiving} {other : Sending} {sending : Bool} :
    ClientAwaited.receive message ∈ awaiting other sending ↔
      sending = false ∧ message = other.answer := by
  cases sending <;> simp [awaiting]

theorem ClientAt.of_send (reached : dialogue.ClientAt coders primitives stage client)
    {message : Sending} (inside : .send message ∈ client.session.awaited) :
    stage = .greeting true ∧ message = .hello ∨ stage = .proving true ∧ message = .clientProof ∨
      ∃ beat, stage = .beating beat true ∧ message = .heartbeat (UInt64.ofNat (beat + 1)) := by
  rw [reached.session] at inside
  cases stage with
  | idle => cases inside
  | connecting => cases inside
  | greeting sending =>
      obtain ⟨rfl, rfl⟩ := send_mem_awaiting.mp inside
      exact .inl ⟨rfl, rfl⟩
  | proving sending =>
      obtain ⟨rfl, rfl⟩ := send_mem_awaiting.mp inside
      exact .inr (.inl ⟨rfl, rfl⟩)
  | resting beat => cases inside
  | beating beat sending =>
      obtain ⟨rfl, rfl⟩ := send_mem_awaiting.mp inside
      exact .inr (.inr ⟨beat, rfl, rfl⟩)

theorem ClientAt.of_receive (reached : dialogue.ClientAt coders primitives stage client)
    {message : Receiving} (inside : .receive message ∈ client.session.awaited) :
    stage = .greeting false ∧ message = .challenge ∨
      stage = .proving false ∧ message = .serverFinished ∨
      ∃ beat, stage = .beating beat false ∧ message = .ack (UInt64.ofNat (beat + 1)) := by
  rw [reached.session] at inside
  cases stage with
  | idle => cases inside
  | connecting => cases inside
  | greeting sending =>
      obtain ⟨rfl, rfl⟩ := receive_mem_awaiting.mp inside
      exact .inl ⟨rfl, rfl⟩
  | proving sending =>
      obtain ⟨rfl, rfl⟩ := receive_mem_awaiting.mp inside
      exact .inr (.inl ⟨rfl, rfl⟩)
  | resting beat => cases inside
  | beating beat sending =>
      obtain ⟨rfl, rfl⟩ := receive_mem_awaiting.mp inside
      exact .inr (.inr ⟨beat, rfl, rfl⟩)

/-! ### Steps of the client -/

variable {system after : System Id Peer} {mine : ClientStage} {yours : ServerStage}

theorem getElem?_map_range {α : Type} {f : Nat → α} {count index : Nat} {value : α} :
    ((List.range count).map f)[index]? = some value ↔ index < count ∧ f index = value := by
  rw [List.getElem?_map, Option.map_eq_some_iff]
  constructor
  · rintro ⟨index', found, rfl⟩
    obtain ⟨small, rfl⟩ := List.getElem?_eq_some_iff.mp found
    rw [List.getElem_range]
    exact ⟨by simpa using small, rfl⟩
  · rintro ⟨small, rfl⟩
    exact ⟨index, List.getElem?_range small, rfl⟩

/-- What is handed on to the client is the server's next answer. -/
theorem Joined.toClient_eq (joined : dialogue.Joined coders primitives beats mine yours system)
    {body : Bytes} : system.toClient = some body ↔
      mine.heard < yours.heard ∧ dialogue.serverBody coders primitives mine.heard = body := by
  rw [System.toClient, joined.client.heard, joined.server.wires]
  exact getElem?_map_range

theorem Joined.toServer_eq (joined : dialogue.Joined coders primitives beats mine yours system)
    {body : Bytes} : system.toServer = some body ↔
      yours.heard < mine.sent ∧ dialogue.clientBody coders primitives yours.heard = body := by
  rw [System.toServer, joined.server.heard, joined.client.wires]
  exact getElem?_map_range

/-- An honest block takes the client to its next stage. -/
theorem Joined.client_step (joined : dialogue.Joined coders primitives beats mine yours system)
    (carried : dialogue.Carried coders primitives beats) (bounded : beats < 2 ^ 64)
    {block : Client.Block} (honest : HonestBlock beats system block)
    (stepped : (system.clients 0).step coders primitives block = some next) :
    ∃ later, dialogue.ClientAt coders primitives later next ∧ later.rank = mine.rank + 1 ∧
      yours.heard ≤ later.sent ∧ later.heard ≤ yours.heard ∧ later.sent ≤ beats + 2 := by
  have reached := joined.client
  have ahead := joined.ahead
  have behind := joined.behind
  have most := joined.bounded
  have the : ∀ {later}, (∃ next, (system.clients 0).step coders primitives block = some next ∧
      dialogue.ClientAt coders primitives later next) →
        dialogue.ClientAt coders primitives later next := by
    rintro later ⟨next', stepped', there⟩
    obtain rfl := Option.some.inj (stepped.symm.trans stepped')
    exact there
  cases block with
  | start =>
      have idle : (system.clients 0).session.phase = .idle := honest
      rw [reached.session] at idle
      cases mine with
      | idle => exact ⟨.connecting, the reached.start, rfl, ahead, behind, most⟩
      | _ => cases idle
  | close => exact honest.elim
  | transport state =>
      cases state with
      | ready =>
          obtain ⟨phase, wires⟩ := honest
          rw [reached.session] at phase
          rw [reached.wires] at wires
          cases mine with
          | connecting =>
              refine ⟨.greeting true, the (reached.ready carried), rfl, ?_, behind, ?_⟩
              · exact ahead.trans (Nat.zero_le 1)
              · exact Nat.le_add_left 1 (beats + 1)
          | greeting sending => cases wires
          | _ => cases phase
      | _ => exact honest.elim
  | sent message failure =>
      obtain rfl : failure = none := honest
      obtain ⟨inside, -⟩ := Option.ite_none_right_eq_some.mp stepped
      rcases reached.of_send inside with ⟨rfl, rfl⟩ | ⟨rfl, rfl⟩ | ⟨beat, rfl, rfl⟩
      · exact ⟨.greeting false, the reached.sentHello, rfl, ahead, behind, most⟩
      · exact ⟨.proving false, the reached.sentProof, rfl, ahead, behind, most⟩
      · exact ⟨.beating beat false, the reached.sentHeartbeat, rfl, ahead, behind, most⟩
  | received message result =>
      obtain ⟨inside, -⟩ := Option.ite_none_right_eq_some.mp stepped
      obtain ⟨body, handed, rfl⟩ := Option.map_eq_some_iff.mp honest
      obtain ⟨fresh, rfl⟩ := joined.toClient_eq.mp handed
      rcases reached.of_receive inside with ⟨rfl, rfl⟩ | ⟨rfl, rfl⟩ | ⟨beat, rfl, rfl⟩
      · refine ⟨.proving true, the (reached.receivedChallenge carried), rfl, ?_, fresh, ?_⟩
        · exact ahead.trans (Nat.le_succ 1)
        · exact Nat.le_add_left 2 beats
      · refine ⟨.resting 0, the (reached.receivedFinished carried), rfl, ahead, fresh, most⟩
      · have small : beat < beats := by
          simp only [ClientStage.sent] at most
          omega
        refine ⟨.resting (beat + 1), the (reached.receivedAck carried bounded small), ?_, ahead,
          fresh, most⟩
        simp only [ClientStage.rank, Bool.false_eq_true, if_false]
        omega
  | handshakeTimeout => exact honest.elim
  | heartbeatTimeout => exact honest.elim
  | heartbeatSchedule =>
      obtain ⟨armed, -⟩ := Option.ite_none_right_eq_some.mp stepped
      rw [reached.session] at armed
      have more : (system.clients 0).session.outgoingSequence.sent.toNat < beats := honest
      rw [reached.session] at more
      cases mine with
      | resting beat =>
          have below : beat < 2 ^ 64 := by
            simp only [ClientStage.sent] at most
            omega
          have small : beat < beats := by
            have value : (UInt64.ofNat beat).toNat < beats := more
            rwa [toNat_ofNat_of_lt below] at value
          refine ⟨.beating beat true, the (reached.scheduled carried bounded small), ?_, ?_, ?_, ?_⟩
          · simp [ClientStage.rank]
          · exact ahead.trans (Nat.le_succ _)
          · exact behind
          · simp only [ClientStage.sent]
            omega
      | _ => cases armed

/-! ### Steps of the server -/

theorem send_mem_answering {flag recordFailure sending : Bool} :
    Awaited.send flag ∈ answering recordFailure sending ↔
      sending = true ∧ flag = recordFailure := by
  cases sending <;> simp [answering]

theorem receive_mem_answering {recordFailure sending : Bool} :
    Awaited.receive ∈ answering recordFailure sending ↔ sending = false := by
  cases sending <;> simp [answering]

theorem of_answer {stage : ServerStage} {connection : ServerConnection Id Peer}
    (here : dialogue.connectionAt primitives stage = some connection) {flag : Bool}
    (inside : .send flag ∈ connection.awaited) :
    stage = .challenged true ∧ flag = true ∨
      ∃ beat, stage = .authenticated beat true ∧ flag = false := by
  cases stage with
  | absent => cases here
  | accepted =>
      obtain rfl := Option.some.inj here
      cases inside
  | listening =>
      obtain rfl := Option.some.inj here
      simp at inside
  | challenged sending =>
      obtain rfl := Option.some.inj here
      obtain ⟨rfl, rfl⟩ := send_mem_answering.mp inside
      exact .inl ⟨rfl, rfl⟩
  | authenticated beat sending =>
      obtain rfl := Option.some.inj here
      obtain ⟨rfl, rfl⟩ := send_mem_answering.mp inside
      exact .inr ⟨beat, rfl, rfl⟩

theorem of_listen {stage : ServerStage} {connection : ServerConnection Id Peer}
    (here : dialogue.connectionAt primitives stage = some connection)
    (inside : .receive ∈ connection.awaited) :
    stage = .listening ∨ stage = .challenged false ∨ ∃ beat, stage = .authenticated beat false := by
  cases stage with
  | absent => cases here
  | accepted =>
      obtain rfl := Option.some.inj here
      cases inside
  | listening => exact .inl rfl
  | challenged sending =>
      obtain rfl := Option.some.inj here
      obtain rfl := receive_mem_answering.mp inside
      exact .inr (.inl rfl)
  | authenticated beat sending =>
      obtain rfl := Option.some.inj here
      obtain rfl := receive_mem_answering.mp inside
      exact .inr (.inr ⟨beat, rfl⟩)

theorem of_awaitingReady {stage : ServerStage} {connection : ServerConnection Id Peer}
    (here : dialogue.connectionAt primitives stage = some connection)
    (phase : connection.phase = .awaitingReady) : stage = .accepted := by
  cases stage with
  | accepted => rfl
  | absent => cases here
  | _ =>
      obtain rfl := Option.some.inj here
      cases phase

variable [DecidableEq Id] [DecidableEq Peer]

/-- An honest happening takes the handler to its next stage. -/
theorem Joined.server_step (joined : dialogue.Joined coders primitives beats mine yours system)
    (carried : dialogue.Carried coders primitives beats) (bounded : beats < 2 ^ 64)
    {happening : Happening Id Peer} (honest : dialogue.HonestHappening system happening)
    {server : Server Id Peer} (stepped : system.server.step coders primitives happening = some server) :
    ∃ later, dialogue.ServerAt coders primitives later server ∧ later.rank = yours.rank + 1 ∧
      later.heard ≤ mine.sent ∧ mine.heard ≤ later.heard := by
  have reached := joined.server
  have ahead := joined.ahead
  have behind := joined.behind
  have the : ∀ {later}, (∃ next, system.server.step coders primitives happening = some next ∧
      dialogue.ServerAt coders primitives later next) →
        dialogue.ServerAt coders primitives later server := by
    rintro later ⟨next', stepped', there⟩
    obtain rfl := Option.some.inj (stepped.symm.trans stepped')
    exact there
  cases happening with
  | accept connectionID peerKey allowed nowNanos serverID createdNanos failedNanos =>
      obtain ⟨rfl, rfl, rfl, rfl, rfl⟩ := honest
      obtain ⟨free, -⟩ := Option.ite_none_right_eq_some.mp stepped
      rw [reached.handler] at free
      cases yours with
      | absent =>
          exact ⟨.accepted, the (reached.accept nowNanos failedNanos), rfl, ahead, behind⟩
      | _ => cases free
  | transport connectionID state nowNanos =>
      obtain ⟨rfl, rfl, connection, here, phase⟩ := honest
      obtain rfl := of_awaitingReady (reached.handler.symm.trans here) phase
      exact ⟨.listening, the (reached.ready nowNanos), rfl, ahead, behind⟩
  | received connectionID result readings =>
      obtain ⟨rfl, delivered, timely, nonce, challengeID, sessionID⟩ := honest
      obtain ⟨body, handed, rfl⟩ := Option.map_eq_some_iff.mp delivered
      obtain ⟨fresh, rfl⟩ := joined.toServer_eq.mp handed
      have turned := stepped
      rw [Server.step] at turned
      obtain ⟨connection, here, awaited, -⟩ := system.server.turn_eq_some turned
      rcases of_listen (reached.handler.symm.trans here) (of_decide_eq_true awaited) with
        rfl | rfl | ⟨beat, rfl⟩
      · have inTime := timely (reached.heard.trans_lt (by decide))
        exact ⟨.challenged true, the (reached.receivedHello carried inTime nonce challengeID), rfl,
          fresh, behind.trans (Nat.zero_le 1)⟩
      · have inTime := timely (reached.heard.trans_lt (by decide))
        exact ⟨.authenticated 0 true, the (reached.receivedProof carried inTime sessionID), rfl,
          fresh, behind.trans (Nat.le_succ 1)⟩
      · have most := joined.bounded
        have small : beat < beats := by
          simp only [ServerStage.heard] at fresh
          omega
        refine ⟨.authenticated (beat + 1) true,
          the (reached.receivedHeartbeat carried bounded small readings), ?_, fresh,
          behind.trans (Nat.le_succ _)⟩
        simp only [ServerStage.rank, Bool.false_eq_true, if_false, if_true]
        omega
  | sent connectionID recordFailure failure nowNanos =>
      obtain ⟨rfl, rfl⟩ := honest
      have turned := stepped
      rw [Server.step] at turned
      obtain ⟨connection, here, awaited, -⟩ := system.server.turn_eq_some turned
      rcases of_answer (reached.handler.symm.trans here) (of_decide_eq_true awaited) with
        ⟨rfl, rfl⟩ | ⟨beat, rfl, rfl⟩
      · exact ⟨.challenged false, the (reached.sentChallenge nowNanos), rfl, ahead, behind⟩
      · exact ⟨.authenticated beat false, the (reached.sentAnswer nowNanos), rfl, ahead, behind⟩
  | handshakeTimeout connectionID nowNanos => exact honest.elim
  | heartbeatTimeout connectionID nowNanos => exact honest.elim
  | stop order nowNanos => exact honest.elim

/-- Every honest event takes one side one stage on. -/
theorem Joined.step (joined : dialogue.Joined coders primitives beats mine yours system)
    (carried : dialogue.Carried coders primitives beats) (bounded : beats < 2 ^ 64)
    {event : Event Id Peer} (honest : dialogue.Honest beats system event)
    (stepped : system.step coders primitives event = some after) :
    ∃ mine' yours', dialogue.Joined coders primitives beats mine' yours' after ∧
      mine'.rank + yours'.rank = mine.rank + yours.rank + 1 := by
  cases event with
  | client number block =>
      obtain ⟨rfl, honest⟩ := honest
      obtain ⟨next, moved, rfl⟩ := Option.map_eq_some_iff.mp stepped
      obtain ⟨later, there, rank, ahead, behind, most⟩ :=
        joined.client_step carried bounded honest moved
      refine ⟨later, yours, ⟨?_, joined.server, ahead, behind, most⟩, by omega⟩
      dsimp only
      rw [Function.update_self]
      exact there
  | server happening =>
      obtain ⟨server, moved, rfl⟩ := Option.map_eq_some_iff.mp stepped
      obtain ⟨later, there, rank, ahead, behind⟩ :=
        joined.server_step carried bounded honest moved
      exact ⟨mine, later, ⟨joined.client, there, ahead, behind, joined.bounded⟩, by omega⟩

/-- Every honest event counts once. -/
theorem Joined.run (joined : dialogue.Joined coders primitives beats mine yours system)
    (carried : dialogue.Carried coders primitives beats) (bounded : beats < 2 ^ 64)
    {events : List (Event Id Peer)}
    (honest : Machine.Meets (System.step coders primitives) (dialogue.Honest beats) system events)
    (ran : Machine.run (System.step coders primitives) system events = some after) :
    ∃ mine' yours', dialogue.Joined coders primitives beats mine' yours' after ∧
      mine'.rank + yours'.rank = mine.rank + yours.rank + events.length := by
  induction events generalizing system mine yours with
  | nil =>
      obtain rfl := Option.some.inj ran
      exact ⟨mine, yours, joined, rfl⟩
  | cons event events ih =>
      obtain ⟨next, stepped, rest⟩ := Option.bind_eq_some_iff.mp ran
      obtain ⟨mine₁, yours₁, joined₁, rank₁⟩ := joined.step carried bounded honest.1 stepped
      obtain ⟨mine₂, yours₂, joined₂, rank₂⟩ := ih joined₁ (honest.2 next stepped) rest
      refine ⟨mine₂, yours₂, joined₂, ?_⟩
      rw [rank₂, rank₁, List.length_cons]
      omega

omit [DecidableEq Id] [DecidableEq Peer] in
/-- The last stages have the highest ranks. -/
theorem Joined.rank_le (joined : dialogue.Joined coders primitives beats mine yours system) :
    mine.rank + yours.rank ≤ 5 * beats + 13 := by
  have client := mine.rank_le
  have server := yours.rank_le
  have ahead := joined.ahead
  have most := joined.bounded
  omega

/-! ### The way on -/

/-- Readings in time, with what is drawn at random. -/
def readings (dialogue : Dialogue Id Peer) : Readings :=
  ⟨dialogue.createdNanos, dialogue.createdNanos, dialogue.serverNonce, dialogue.challengeID,
    dialogue.sessionID⟩

theorem client_event {block : Client.Block} {later : ClientStage}
    (goes : ∃ next, (system.clients 0).step coders primitives block = some next ∧
      dialogue.ClientAt coders primitives later next)
    (honest : HonestBlock beats system block) :
    ∃ event next, dialogue.Honest beats system event ∧
      system.step coders primitives event = some next := by
  obtain ⟨next, stepped, -⟩ := goes
  exact ⟨.client 0 block, _, ⟨rfl, honest⟩, Option.map_eq_some_iff.mpr ⟨next, stepped, rfl⟩⟩

theorem server_event {happening : Happening Id Peer} {later : ServerStage}
    (goes : ∃ next, system.server.step coders primitives happening = some next ∧
      dialogue.ServerAt coders primitives later next)
    (honest : dialogue.HonestHappening system happening) :
    ∃ event next, dialogue.Honest beats system event ∧
      system.step coders primitives event = some next := by
  obtain ⟨next, stepped, -⟩ := goes
  exact ⟨.server happening, _, honest, Option.map_eq_some_iff.mpr ⟨next, stepped, rfl⟩⟩

/-- As long as a message of the client is on its way, something happens on the server. -/
theorem Joined.answers (joined : dialogue.Joined coders primitives beats mine yours system)
    (carried : dialogue.Carried coders primitives beats) (bounded : beats < 2 ^ 64)
    (timely : dialogue.InTime dialogue.createdNanos) (coming : yours.heard < mine.sent) :
    ∃ event next, dialogue.Honest beats system event ∧
      system.step coders primitives event = some next := by
  have reached := joined.server
  have handed := joined.toServer_eq.mpr ⟨coming, rfl⟩
  have delivered : system.toServer.map .ok =
      some (.ok (dialogue.clientBody coders primitives yours.heard) : Except Failure Bytes) := by
    rw [handed]
    rfl
  have receipt : dialogue.HonestHappening system (.received dialogue.connection
      (.ok (dialogue.clientBody coders primitives yours.heard)) dialogue.readings) :=
    ⟨rfl, delivered, fun _ => timely, rfl, rfl, rfl⟩
  cases yours with
  | absent => exact server_event (reached.accept 0 0) ⟨rfl, rfl, rfl, rfl, rfl⟩
  | accepted => exact server_event (reached.ready 0) ⟨rfl, rfl, _, reached.handler, rfl⟩
  | listening => exact server_event (reached.receivedHello carried timely rfl rfl) receipt
  | challenged sending =>
      cases sending with
      | true => exact server_event (reached.sentChallenge 0) ⟨rfl, rfl⟩
      | false => exact server_event (reached.receivedProof carried timely rfl) receipt
  | authenticated beat sending =>
      cases sending with
      | true => exact server_event (reached.sentAnswer 0) ⟨rfl, rfl⟩
      | false =>
          have most := joined.bounded
          have small : beat < beats := by
            simp only [ServerStage.heard] at coming
            omega
          exact server_event (reached.receivedHeartbeat carried bounded small _) receipt

/-- There is always something to happen, until all heartbeats are acknowledged. -/
theorem Joined.progress (joined : dialogue.Joined coders primitives beats mine yours system)
    (carried : dialogue.Carried coders primitives beats) (bounded : beats < 2 ^ 64)
    (timely : dialogue.InTime dialogue.createdNanos) (unfinished : mine ≠ .resting beats) :
    ∃ event next, dialogue.Honest beats system event ∧
      system.step coders primitives event = some next := by
  have reached := joined.client
  have most := joined.bounded
  have receipt : ∀ message, mine.heard < yours.heard → HonestBlock beats system
      (.received message (.ok (dialogue.serverBody coders primitives mine.heard))) := by
    intro message fresh
    have handed := joined.toClient_eq.mpr ⟨fresh, rfl⟩
    rw [HonestBlock, handed]
    rfl
  have answers : ¬ mine.heard < yours.heard → mine.sent = mine.heard + 1 →
      ∃ event next, dialogue.Honest beats system event ∧
        system.step coders primitives event = some next := fun stale waiting =>
    joined.answers carried bounded timely (by omega)
  cases mine with
  | idle =>
      refine client_event reached.start ?_
      rw [HonestBlock, reached.session]
      rfl
  | connecting =>
      refine client_event (reached.ready carried) ⟨?_, ?_⟩
      · rw [reached.session]
        rfl
      · rw [reached.wires]
        rfl
  | greeting sending =>
      cases sending with
      | true => exact client_event reached.sentHello rfl
      | false =>
          by_cases fresh : 0 < yours.heard
          · exact client_event (reached.receivedChallenge carried) (receipt _ fresh)
          · exact answers fresh rfl
  | proving sending =>
      cases sending with
      | true => exact client_event reached.sentProof rfl
      | false =>
          by_cases fresh : 1 < yours.heard
          · exact client_event (reached.receivedFinished carried) (receipt _ fresh)
          · exact answers fresh rfl
  | resting beat =>
      have small : beat < beats := by
        have other : beat ≠ beats := fun same => unfinished (congrArg ClientStage.resting same)
        simp only [ClientStage.sent] at most
        omega
      refine client_event (reached.scheduled carried bounded small) ?_
      rw [HonestBlock, reached.session]
      have value : (UInt64.ofNat beat).toNat = beat := toNat_ofNat_of_lt (by omega)
      exact value.trans_lt small
  | beating beat sending =>
      have small : beat < beats := by
        simp only [ClientStage.sent] at most
        omega
      cases sending with
      | true => exact client_event reached.sentHeartbeat rfl
      | false =>
          by_cases fresh : beat + 2 < yours.heard
          · exact client_event (reached.receivedAck carried bounded small) (receipt _ fresh)
          · exact answers fresh rfl

omit [DecidableEq Id] [DecidableEq Peer] in
/-- With all heartbeats acknowledged, the server is in the same session and has counted them. -/
theorem Joined.finished
    (joined : dialogue.Joined coders primitives beats (.resting beats) yours system) :
    ∃ sending, yours = .authenticated beats sending := by
  have ahead := joined.ahead
  have behind := joined.behind
  simp only [ClientStage.sent, ClientStage.heard] at ahead behind
  cases yours with
  | authenticated beat sending =>
      simp only [ServerStage.heard] at ahead behind
      obtain rfl : beat = beats := by omega
      exact ⟨sending, rfl⟩
  | _ =>
      simp only [ServerStage.heard] at behind
      omega

/-- Whatever the order in which completions come and messages are handed on, as long as they are
    handed on unchanged and before any timeout, and the coders carry them: neither side fails or closes, no
    run is longer than its messages make it, and every run can be taken on until all heartbeats
    are acknowledged and both sides hold the same session with the same key and count. -/
theorem honest_run (carried : dialogue.Carried coders primitives beats) (bounded : beats < 2 ^ 64)
    (timely : dialogue.InTime dialogue.createdNanos) {clients : Nat → Client}
    (began : Client.new dialogue.connectionID dialogue.token dialogue.clientNonce = .ok (clients 0))
    {events : List (Event Id Peer)} {final : System Id Peer}
    (honest : Machine.Meets (System.step coders primitives) (dialogue.Honest beats)
      (System.start clients ⟨dialogue.token, dialogue.tokenNanos, false⟩) events)
    (ran : Machine.run (System.step coders primitives)
      (System.start clients ⟨dialogue.token, dialogue.tokenNanos, false⟩) events = some final) :
    (final.clients 0).Intact ∧ final.server.Intact ∧ events.length ≤ 5 * beats + 13 ∧
      ∃ more goal, Machine.Meets (System.step coders primitives) (dialogue.Honest beats) final more ∧
        Machine.run (System.step coders primitives) final more = some goal ∧
        (goal.clients 0).session = dialogue.session primitives (.resting beats) ∧
        ∃ sending, goal.server.handlers dialogue.connection =
          dialogue.connectionAt primitives (.authenticated beats sending) := by
  have start : dialogue.Joined coders primitives beats .idle .absent
      (System.start clients ⟨dialogue.token, dialogue.tokenNanos, false⟩) :=
    ⟨clientAt_new began, serverAt_start, le_rfl, le_rfl, Nat.zero_le _⟩
  obtain ⟨mine, yours, joined, rank⟩ := start.run carried bounded honest ran
  have most := joined.rank_le
  refine ⟨joined.client.intact, joined.server.intact, ?_, ?_⟩
  · have none : ClientStage.idle.rank + ServerStage.absent.rank = 0 := rfl
    omega
  · -- what is left of the ranks is left to happen
    obtain ⟨more, goal, left, meets, reaches, ⟨mine', yours', joined', -⟩, done⟩ :=
      @Machine.run_reaches (System Id Peer) (Event Id Peer) (System.step coders primitives)
        (dialogue.Honest beats)
        (fun left system => ∃ mine yours, dialogue.Joined coders primitives beats mine yours system ∧
          mine.rank + yours.rank + left = 5 * beats + 13)
        (fun system => ∃ yours,
          dialogue.Joined coders primitives beats (.resting beats) yours system)
        (fun left system ⟨mine, yours, joined, rank⟩ unfinished => by
          have other : mine ≠ .resting beats := by
            rintro rfl
            exact unfinished ⟨yours, joined⟩
          obtain ⟨event, next, honest, stepped⟩ := joined.progress carried bounded timely other
          obtain ⟨mine', yours', joined', rank'⟩ := joined.step carried bounded honest stepped
          have most' := joined'.rank_le
          exact ⟨event, next, left - 1, honest, stepped,
            ⟨mine', yours', joined', by omega⟩, by omega⟩)
        (5 * beats + 13 - (mine.rank + yours.rank)) final
        ⟨mine, yours, joined, Nat.add_sub_cancel' most⟩
    obtain ⟨last, finished⟩ := done
    obtain ⟨sending, rfl⟩ := finished.finished
    exact ⟨more, goal, meets, reaches, finished.client.session, sending, finished.server.handler⟩

/-- The golden vectors as a dialogue. -/
def sample : Dialogue Nat Nat where
  connection := 0
  peer := 10
  token := ⟨Sample.token, rfl⟩
  connectionID := ⟨Sample.connectionID, rfl⟩
  clientNonce := ⟨Sample.hello.clientNonce, rfl⟩
  serverID := ⟨Sample.challenge.serverID, Sample.length_serverID⟩
  serverNonce := ⟨Sample.challenge.serverNonce, Sample.length_serverNonce⟩
  challengeID := ⟨Sample.challenge.challengeID, Sample.length_challengeID⟩
  sessionID := ⟨Sample.sessionID, Sample.length_sessionID⟩
  tokenNanos := 0
  createdNanos := 1

theorem sample_carried : sample.Carried Sample.coders Sample.sessionKit 1 where
  hello := by decide +kernel
  challenge := by decide +kernel
  clientProof := by decide +kernel
  serverFinished := by decide +kernel
  heartbeat := by decide +kernel
  ack := by decide +kernel
  fromClient := by decide +kernel
  fromServer := by decide +kernel

/-- The session is started and the connection accepted: one heartbeat can be acknowledged. -/
theorem honest_run_sample :
    ∃ first final more goal, Client.new sample.connectionID sample.token sample.clientNonce =
        .ok first ∧
      Machine.run (System.step Sample.coders Sample.sessionKit)
        (System.start (fun _ => first) ⟨Sample.token, 0, false⟩)
        [.client 0 .start, .server (.accept 0 (some 10) true 1 sample.serverID 1 1)] =
        some final ∧
      Machine.run (System.step Sample.coders Sample.sessionKit) final more = some goal ∧
      (goal.clients 0).session = sample.session Sample.sessionKit (.resting 1) := by
  have runs : ((Client.new sample.connectionID sample.token sample.clientNonce).toOption.bind
      fun first => (Machine.run (System.step Sample.coders Sample.sessionKit)
        (System.start (fun _ => first) ⟨Sample.token, 0, false⟩)
        [.client 0 .start, .server (.accept 0 (some 10) true 1 sample.serverID 1 1)]).map
          fun _ => ()) = some () := by
    decide +kernel
  obtain ⟨first, began, rest⟩ := Option.bind_eq_some_iff.mp runs
  obtain ⟨final, ran, -⟩ := Option.map_eq_some_iff.mp rest
  have began' := Except.toOption_eq_some.mp began
  have timely : sample.InTime sample.createdNanos :=
    ⟨by decide +kernel, by decide +kernel, by decide +kernel, by decide +kernel⟩
  have started : sample.ClientAt Sample.coders Sample.sessionKit .idle first := clientAt_new began'
  have idle : first.session.phase = .idle := by
    rw [started.session]
    rfl
  have honest : Machine.Meets (System.step Sample.coders Sample.sessionKit) (sample.Honest 1)
      (System.start (fun _ => first) ⟨Sample.token, 0, false⟩)
      [.client 0 .start, .server (.accept 0 (some 10) true 1 sample.serverID 1 1)] :=
    ⟨⟨rfl, idle⟩, fun _ _ => ⟨⟨rfl, rfl, rfl, rfl, rfl⟩, fun _ _ => trivial⟩⟩
  obtain ⟨-, -, -, more, goal, -, reaches, session, -⟩ :=
    honest_run sample_carried (by decide) timely began' honest ran
  exact ⟨first, final, more, goal, began', ran, reaches, session⟩

end Dialogue

end QuadControl.Apple.Diagnostic
