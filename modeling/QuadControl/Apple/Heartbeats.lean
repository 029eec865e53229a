import QuadControl.Apple.ServerBeats

/-! # Heartbeats over a hostile network

Any number of sessions and one server, with a network in between that drops, repeats,
reorders, reflects and invents what it likes: every body that is received is its choice.
All that it cannot do is to compute the tag of a transcript under a session's key.
-/

namespace QuadControl.Apple.Diagnostic

open Lib Lib.Utf8 Constants

/-! ### The system -/

/-- What the counters of the two sides did. -/
inductive Beat (Id : Type) where
  | sent (client : Nat) (session : Established) (sequence : UInt64)
  | accepted (connectionID : Id) (session : Established) (sequence : UInt64)
  | acknowledged (client : Nat) (session : Established) (sequence : UInt64)
  deriving Repr, DecidableEq

/-- The key and the transcript that were authenticated with it. -/
def Beat.tag {Id : Type} : Beat Id → Option (Bytes × Bytes)
  | .sent _ session sequence =>
      (Transcript.clientHeartbeat session.sessionID sequence Heartbeat.new.status).toOption.map
        (session.sessionKey, ·)
  | .accepted _ session sequence =>
      (Transcript.serverAck session.sessionID sequence Ack.new.status).toOption.map
        (session.sessionKey, ·)
  | .acknowledged _ _ _ => none

/-- The sessions and the server, with what their counters did, the latest first. -/
structure System (Id Peer : Type) where
  clients : Nat → Client
  server : Server Id Peer
  log : List (Beat Id)

inductive Event (Id Peer : Type) where
  | client (client : Nat) (block : Client.Block)
  | server (happening : Happening Id Peer)

/-- What the counters of a session did in a block. -/
def Client.counts {Id : Type} (client : Client) (number : Nat) (next : Client) : List (Beat Id) :=
  match client.session.established with
  | none => []
  | some session =>
      (if next.beatsSent = client.beatsSent then [] else [.sent number session next.beatsSent]) ++
        if next.beatsAcknowledged = client.beatsAcknowledged then []
        else [.acknowledged number session next.beatsAcknowledged]

section Server

variable {Id Peer : Type}

/-- What the counter of a connection did in a turn. -/
def ServerConnection.counts (connection next : ServerConnection Id Peer) : List (Beat Id) :=
  match connection.established with
  | none => []
  | some session =>
      if next.beatsAccepted = connection.beatsAccepted then []
      else [.accepted connection.connectionID session next.beatsAccepted]

def Server.counts (server next : Server Id Peer) : Happening Id Peer → List (Beat Id)
  | .received connectionID _ _ =>
      match server.handlers connectionID, next.handlers connectionID with
      | some connection, some connection' => connection.counts connection'
      | _, _ => []
  | _ => []

/-- A transcript of a handshake, which goes under keys of the same parties. -/
def OfHandshake (transcript : Bytes) : Prop :=
  Transcript.opening "client-proof".toList <+: transcript ∨
    Transcript.opening "server-finished".toList <+: transcript

instance (transcript : Bytes) : Decidable (OfHandshake transcript) := instDecidableOr

variable [DecidableEq Id] [DecidableEq Peer]

/-- One of the parties has computed the tag of a transcript under a key, as far as the log and
    the handshakes tell. -/
def Tagged (log : List (Beat Id)) (key transcript : Bytes) : Prop :=
  (∃ beat ∈ log, beat.tag = some (key, transcript)) ∨ OfHandshake transcript

omit [DecidableEq Id] in
instance (log : List (Beat Id)) (key transcript : Bytes) : Decidable (Tagged log key transcript) :=
  instDecidableOr

end Server

namespace System

variable {Id Peer : Type} [DecidableEq Id] [DecidableEq Peer]
variable (coders : Coders) (primitives : Primitives) (system : System Id Peer)

def start (clients : Nat → Client) (token : OneTimeToken) : System Id Peer :=
  ⟨clients, .start token, []⟩

def step : Event Id Peer → Option (System Id Peer)
  | .client number block =>
      ((system.clients number).step coders primitives block).map fun next =>
        { system with
          clients := Function.update system.clients number next
          log := (system.clients number).counts number next ++ system.log }
  | .server happening =>
      (system.server.step coders primitives happening).map fun next =>
        { system with
          server := next
          log := system.server.counts next happening ++ system.log }

/-- The tag that a heartbeat or an acknowledgement is checked for, when a body comes. -/
def checks : Event Id Peer → Option (Bytes × Bytes × Bytes)
  | .client number block => (system.clients number).checks coders block
  | .server (.received connectionID (.ok body) _) =>
      (system.server.handlers connectionID).bind fun connection => connection.checks coders body
  | .server _ => none

/-- A tag that passes its check was computed by one of the parties. -/
def Unforged (event : Event Id Peer) : Prop :=
  match system.checks coders event with
  | none => True
  | some (mac, key, transcript) =>
      primitives.isValid mac key transcript = true → Tagged system.log key transcript

instance (event : Event Id Peer) : Decidable (system.Unforged coders primitives event) :=
  match checked : system.checks coders event with
  | none => isTrue (by rw [Unforged, checked]; trivial)
  | some (mac, key, transcript) =>
      decidable_of_iff (primitives.isValid mac key transcript = true →
        Tagged system.log key transcript) (by rw [Unforged, checked])

end System

/-! ### Tags -/

section Tags

variable {Id : Type} {log : List (Beat Id)}

theorem tag_sent {number : Nat} {session : Established} {sequence : UInt64}
    {key transcript : Bytes} (tag : (Beat.sent number session sequence : Beat Id).tag =
      some (key, transcript)) :
    session.sessionKey = key ∧
      Transcript.clientHeartbeat session.sessionID sequence Heartbeat.new.status =
        .ok transcript := by
  obtain ⟨transcript', made, same⟩ := Option.map_eq_some_iff.mp tag
  obtain ⟨rfl, rfl⟩ := Prod.mk.inj same
  exact ⟨rfl, Except.toOption_eq_some.mp made⟩

theorem tag_accepted {connectionID : Id} {session : Established} {sequence : UInt64}
    {key transcript : Bytes} (tag : (Beat.accepted connectionID session sequence).tag =
      some (key, transcript)) :
    session.sessionKey = key ∧
      Transcript.serverAck session.sessionID sequence Ack.new.status = .ok transcript := by
  obtain ⟨transcript', made, same⟩ := Option.map_eq_some_iff.mp tag
  obtain ⟨rfl, rfl⟩ := Prod.mk.inj same
  exact ⟨rfl, Except.toOption_eq_some.mp made⟩

theorem not_ofHandshake {label : Text} {transcript : Bytes}
    (session : label = "client-heartbeat".toList ∨ label = "server-ack".toList)
    (labelled : Transcript.HasLabel transcript label) : ¬ OfHandshake transcript := by
  rcases session with rfl | rfl
  all_goals
    rintro (proof | finished)
    · exact absurd (labelled.opening (by decide) (by decide) proof) (by decide)
    · exact absurd (labelled.opening (by decide) (by decide) finished) (by decide)

theorem heartbeat_ne_ack {session session' : Established} {sequence sequence' : UInt64}
    {status status' : Text} {transcript : Bytes}
    (heartbeat : Transcript.clientHeartbeat session.sessionID sequence status = .ok transcript)
    (ack : Transcript.serverAck session'.sessionID sequence' status' = .ok transcript) : False := by
  have same := Transcript.HasLabel.inj (by decide) (by decide)
    (Transcript.hasLabel_session heartbeat) (Transcript.hasLabel_session ack)
  exact absurd same (by decide)

/-- A key and a transcript under it tell the session and the number. -/
theorem Established.told {label expected status status' : Text} {session session' : Established}
    {sequence sequence' : UInt64} {transcript : Bytes} (labelled : Framing.Fits (encode label))
    (fits : Framing.Fits (encode expected)) (key : session'.sessionKey = session.sessionKey)
    (here : Transcript.sessionTranscript label expected session.sessionID sequence status =
      .ok transcript)
    (there : Transcript.sessionTranscript label expected session'.sessionID sequence' status' =
      .ok transcript) : session' = session ∧ sequence' = sequence := by
  obtain ⟨sessions, sequences⟩ := Transcript.sessionTranscript_inj labelled fits here there
  cases session
  cases session'
  exact ⟨congrArg₂ Established.mk sessions.symm key, sequences.symm⟩

/-- A heartbeat whose tag was computed was sent by a session with the same key, as itself. -/
theorem Tagged.heartbeat {session : Established} {sequence : UInt64} {transcript : Bytes}
    (tagged : Tagged log session.sessionKey transcript)
    (made : Transcript.clientHeartbeat session.sessionID sequence Heartbeat.new.status =
      .ok transcript) : ∃ number, .sent number session sequence ∈ log := by
  rcases tagged with ⟨beat, inside, tag⟩ | handshake
  · cases beat with
    | sent number session' sequence' =>
        obtain ⟨key, made'⟩ := tag_sent tag
        obtain ⟨rfl, rfl⟩ := Established.told (by decide) (by decide) key made made'
        exact ⟨number, inside⟩
    | accepted connectionID session' sequence' =>
        exact (heartbeat_ne_ack made (tag_accepted tag).2).elim
    | acknowledged number session' sequence' => cases tag
  · exact absurd handshake (not_ofHandshake (.inl rfl) (Transcript.hasLabel_session made))

/-- An acknowledgement whose tag was computed is of a heartbeat that was accepted. -/
theorem Tagged.ack {session : Established} {sequence : UInt64} {transcript : Bytes}
    (tagged : Tagged log session.sessionKey transcript)
    (made : Transcript.serverAck session.sessionID sequence Ack.new.status = .ok transcript) :
    ∃ connectionID, .accepted connectionID session sequence ∈ log := by
  rcases tagged with ⟨beat, inside, tag⟩ | handshake
  · cases beat with
    | sent number session' sequence' => exact (heartbeat_ne_ack (tag_sent tag).2 made).elim
    | accepted connectionID session' sequence' =>
        obtain ⟨key, made'⟩ := tag_accepted tag
        obtain ⟨rfl, rfl⟩ := Established.told (by decide) (by decide) key made made'
        exact ⟨connectionID, inside⟩
    | acknowledged number session' sequence' => cases tag
  · exact absurd handshake (not_ofHandshake (.inr rfl) (Transcript.hasLabel_session made))

end Tags

/-! ### What the log tells of a session -/

section ClientSide

variable {Id : Type} {log : List (Beat Id)}

/-- The session that an entry is about. -/
def Beat.client : Beat Id → Option Nat
  | .sent number _ _ => some number
  | .accepted _ _ _ => none
  | .acknowledged number _ _ => some number

/-- What the log tells of a session fits its counters. -/
structure ClientHolds (client : Client) (number : Nat) (log : List (Beat Id)) : Prop where
  paced : client.Paced
  sent : ∀ session sequence, .sent number session sequence ∈ log →
    0 < sequence.toNat ∧ sequence.toNat ≤ client.beatsSent.toNat
  acknowledged : ∀ session sequence, .acknowledged number session sequence ∈ log →
    0 < sequence.toNat ∧ sequence.toNat ≤ client.beatsAcknowledged.toNat
  one : ∃ session, (∀ session' sequence, .sent number session' sequence ∈ log ∨
      .acknowledged number session' sequence ∈ log → session' = session) ∧
    ∀ session', client.session.established = some session' → session' = session
  latest : client.beatsAcknowledged ≠ 0 →
    ∃ session, .acknowledged number session client.beatsAcknowledged ∈ log

variable {client next : Client} {number : Nat}

/-- A session that has not begun. -/
theorem ClientHolds.new {connectionID : RandomData identifierLength} {token : Bytes}
    {clientNonce : RandomData nonceLength}
    (made : Client.new connectionID token clientNonce = .ok client) (number : Nat) :
    ClientHolds client number ([] : List (Beat Id)) := by
  have paced := Client.Paced.new made
  obtain ⟨handshake, -, made⟩ := Except.bind_eq_ok.mp made
  obtain rfl := Except.pure_eq_ok.mp made
  have empty : ∀ entry : Beat Id, entry ∉ ([] : List (Beat Id)) := fun _ => List.not_mem_nil
  refine ⟨paced, fun _ _ inside => absurd inside (empty _), fun _ _ inside => absurd inside (empty _),
    ⟨⟨[], []⟩, fun _ _ inside => ?_, fun _ here => ?_⟩, fun counted => absurd rfl counted⟩
  · exact absurd inside (not_or.mpr ⟨empty _, empty _⟩)
  · cases here

/-- What is told of others. -/
theorem ClientHolds.cons (holds : ClientHolds client number log) {entry : Beat Id}
    (other : entry.client ≠ some number) : ClientHolds client number (entry :: log) := by
  have sent : ∀ session sequence, .sent number session sequence ∈ entry :: log →
      .sent number session sequence ∈ log := by
    intro session sequence inside
    rcases List.mem_cons.mp inside with rfl | inside
    · exact absurd rfl other
    · exact inside
  have acknowledged : ∀ session sequence, .acknowledged number session sequence ∈ entry :: log →
      .acknowledged number session sequence ∈ log := by
    intro session sequence inside
    rcases List.mem_cons.mp inside with rfl | inside
    · exact absurd rfl other
    · exact inside
  obtain ⟨session, own, established⟩ := holds.one
  refine ⟨holds.paced, ?_, ?_, ⟨session, ?_, established⟩, ?_⟩
  · intro session sequence inside
    exact holds.sent session sequence (sent session sequence inside)
  · intro session sequence inside
    exact holds.acknowledged session sequence (acknowledged session sequence inside)
  · intro session' sequence inside
    apply own session' sequence
    exact inside.imp (sent session' sequence) (acknowledged session' sequence)
  · intro counted
    obtain ⟨session, inside⟩ := holds.latest counted
    exact ⟨session, List.mem_cons_of_mem _ inside⟩

theorem ClientHolds.rests (holds : ClientHolds client number log) (rests : client.Rests next) :
    ClientHolds next number log := by
  obtain ⟨session, own, established⟩ := holds.one
  refine ⟨rests.paced, ?_, ?_, ⟨session, own, ?_⟩, ?_⟩
  · rw [rests.sent]
    exact holds.sent
  · rw [rests.acknowledged]
    exact holds.acknowledged
  · intro session' here
    rcases rests.established with same | ended
    · exact established session' (same ▸ here)
    · rw [ended] at here
      cases here
  · rw [rests.acknowledged]
    exact holds.latest

/-- A session that begins is not told of. -/
theorem ClientHolds.begins (holds : ClientHolds client number log)
    (early : client.session.phase.Early)
    (acknowledged : next.beatsAcknowledged = client.beatsAcknowledged) (paced : next.Paced) :
    ClientHolds next number log := by
  obtain ⟨zero, zero', -⟩ := holds.paced.early early
  have silent : ∀ session sequence, .sent number session sequence ∉ log ∧
      .acknowledged number session sequence ∉ log := by
    intro session sequence
    constructor
    · intro inside
      obtain ⟨above, below⟩ := holds.sent session sequence inside
      rw [zero] at below
      exact absurd above (not_lt.mpr below)
    · intro inside
      obtain ⟨above, below⟩ := holds.acknowledged session sequence inside
      rw [zero'] at below
      exact absurd above (not_lt.mpr below)
  refine ⟨paced, fun session sequence inside => absurd inside (silent session sequence).1,
    fun session sequence inside => absurd inside (silent session sequence).2,
    ⟨next.session.established.getD ⟨[], []⟩, ?_, ?_⟩, ?_⟩
  · intro session' sequence inside
    exact absurd inside (not_or.mpr (silent session' sequence))
  · intro session' here
    rw [here, Option.getD_some]
  · rw [acknowledged]
    exact fun counted => absurd zero' counted

/-- A heartbeat that is sent is told with the session's next number. -/
theorem ClientHolds.sends (holds : ClientHolds client number log) {session : Established}
    (here : client.session.established = some session)
    (sent : next.beatsSent.toNat = client.beatsSent.toNat + 1)
    (acknowledged : next.beatsAcknowledged = client.beatsAcknowledged)
    (established : next.session.established = some session ∨ next.session.established = none)
    (paced : next.Paced) :
    ClientHolds next number (.sent number session next.beatsSent :: log) := by
  obtain ⟨session', own, established'⟩ := holds.one
  obtain rfl := established' session here
  refine ⟨paced, ?_, ?_, ⟨session, ?_, ?_⟩, ?_⟩
  · intro session' sequence inside
    rcases List.mem_cons.mp inside with same | inside
    · obtain ⟨-, -, rfl⟩ := Beat.sent.inj same
      exact ⟨by omega, le_rfl⟩
    · obtain ⟨above, below⟩ := holds.sent session' sequence inside
      exact ⟨above, by omega⟩
  · intro session' sequence inside
    rw [acknowledged]
    exact holds.acknowledged session' sequence ((List.mem_cons.mp inside).resolve_left nofun)
  · intro session' sequence inside
    rcases inside with inside | inside
    · rcases List.mem_cons.mp inside with same | inside
      · exact (Beat.sent.inj same).2.1
      · exact own session' sequence (.inl inside)
    · exact own session' sequence (.inr ((List.mem_cons.mp inside).resolve_left nofun))
  · intro session' here'
    rcases established with same | ended
    · exact Option.some.inj (here'.symm.trans same)
    · rw [ended] at here'
      cases here'
  · rw [acknowledged]
    intro counted
    obtain ⟨session', inside⟩ := holds.latest counted
    exact ⟨session', List.mem_cons_of_mem _ inside⟩

/-- An acknowledgement that is taken is told with the number it has. -/
theorem ClientHolds.acknowledges (holds : ClientHolds client number log) {session : Established}
    (here : client.session.established = some session)
    (later : client.beatsAcknowledged.toNat < next.beatsAcknowledged.toNat)
    (sent : next.beatsSent = client.beatsSent)
    (established : next.session.established = some session) (paced : next.Paced) :
    ClientHolds next number (.acknowledged number session next.beatsAcknowledged :: log) := by
  obtain ⟨session', own, established'⟩ := holds.one
  obtain rfl := established' session here
  refine ⟨paced, ?_, ?_, ⟨session, ?_, ?_⟩, fun _ => ⟨session, List.mem_cons_self⟩⟩
  · intro session' sequence inside
    rw [sent]
    exact holds.sent session' sequence ((List.mem_cons.mp inside).resolve_left nofun)
  · intro session' sequence inside
    rcases List.mem_cons.mp inside with same | inside
    · obtain ⟨-, -, rfl⟩ := Beat.acknowledged.inj same
      exact ⟨by omega, le_rfl⟩
    · obtain ⟨above, below⟩ := holds.acknowledged session' sequence inside
      exact ⟨above, by omega⟩
  · intro session' sequence inside
    rcases inside with inside | inside
    · exact own session' sequence (.inl ((List.mem_cons.mp inside).resolve_left nofun))
    · rcases List.mem_cons.mp inside with same | inside
      · exact (Beat.acknowledged.inj same).2.1
      · exact own session' sequence (.inr inside)
  · intro session' here'
    exact Option.some.inj (here'.symm.trans established)

end ClientSide

end QuadControl.Apple.Diagnostic
