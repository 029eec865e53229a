import QuadControl.Apple.TokenUse
import QuadControl.Apple.ClientSession

/-! # The dialogue of a pairing

What both sides send when nothing goes wrong: the messages of the handshake, and heartbeats with
their acknowledgements. With what is drawn at random given, it tells the whole state of either
side at every point of the dialogue.
-/

namespace QuadControl.Apple.Diagnostic

open Lib Lib.Utf8 Constants

/-! ### The messages -/

/-- The connection, its peer, what is drawn at random, and when the token and the handler of the
    connection were made. -/
structure Dialogue (Id Peer : Type) where
  connection : Id
  peer : Peer
  token : RandomData tokenLength
  connectionID : RandomData identifierLength
  clientNonce : RandomData nonceLength
  serverID : RandomData identifierLength
  serverNonce : RandomData nonceLength
  challengeID : RandomData identifierLength
  sessionID : RandomData identifierLength
  tokenNanos : Nat
  createdNanos : Nat

/-- What a coder makes of a value. -/
def Coder.text {α : Type} (coder : Coder α) (value : α) : Bytes := (coder.encode value).getD []

/-- A value goes through the coder as it is, and is something that fits in a frame. -/
structure Coder.Carries {α : Type} (coder : Coder α) (value : α) : Prop where
  encoded : coder.encode value = some (coder.text value)
  nonempty : coder.text value ≠ []
  short : (coder.text value).length ≤ maxFrameLength
  decoded : coder.decode (coder.text value) = some value

instance {α : Type} [DecidableEq α] (coder : Coder α) (value : α) :
    Decidable (coder.Carries value) :=
  decidable_of_iff
    (coder.encode value = some (coder.text value) ∧ coder.text value ≠ [] ∧
      (coder.text value).length ≤ maxFrameLength ∧ coder.decode (coder.text value) = some value)
    ⟨fun ⟨encoded, nonempty, short, decoded⟩ => ⟨encoded, nonempty, short, decoded⟩,
      fun ⟨encoded, nonempty, short, decoded⟩ => ⟨encoded, nonempty, short, decoded⟩⟩

namespace Dialogue

variable {Id Peer : Type} (coders : Coders) (primitives : Primitives) (dialogue : Dialogue Id Peer)

def hello : Hello := ⟨dialogue.clientNonce⟩

def challenge : Challenge :=
  ⟨dialogue.serverNonce, dialogue.challengeID, dialogue.serverID⟩

def key : Bytes :=
  primitives.derive (Primitives.derivation dialogue.token dialogue.hello dialogue.challenge)

def proof : ClientProof :=
  ⟨primitives.hmac dialogue.token (Transcript.canonical "client-proof".toList
    (Transcript.handshakeFields dialogue.hello dialogue.challenge))⟩

def finished : ServerFinished :=
  ⟨dialogue.sessionID, ServerHandshake.finishedProof primitives dialogue.token dialogue.hello
    dialogue.challenge dialogue.sessionID⟩

/-- The tag of a heartbeat or of an acknowledgement. -/
def tag (label status : Text) (sequence : Nat) : Bytes :=
  primitives.hmac (dialogue.key primitives) (Transcript.canonicalHeartbeat label
    dialogue.sessionID (UInt64.ofNat sequence) (encode status))

def envelope (type : DiagnosticType) (payload : Bytes) (sequence : Nat) (mac : Option Bytes) :
    Envelope :=
  ⟨UInt32.ofNat version, type, dialogue.connectionID, UInt64.ofNat sequence, payload, mac⟩

/-- What the client sends, from the hello on. -/
def fromClient : Nat → Envelope
  | 0 => dialogue.envelope .hello (coders.hello.text dialogue.hello) 0 none
  | 1 => dialogue.envelope .clientProof (coders.clientProof.text (dialogue.proof primitives)) 0 none
  | beats + 2 => dialogue.envelope .heartbeat (coders.heartbeat.text .new) (beats + 1)
      (some (dialogue.tag primitives "client-heartbeat".toList Heartbeat.new.status (beats + 1)))

/-- What the server answers. -/
def fromServer : Nat → Envelope
  | 0 => dialogue.envelope .challenge (coders.challenge.text dialogue.challenge) 0 none
  | 1 => dialogue.envelope .serverFinished
      (coders.serverFinished.text (dialogue.finished primitives)) 0 none
  | beats + 2 => dialogue.envelope .ack (coders.ack.text .new) (beats + 1)
      (some (dialogue.tag primitives "server-ack".toList Ack.new.status (beats + 1)))

/-- The coders carry the messages of a dialogue with so many heartbeats. -/
structure Carried (beats : Nat) : Prop where
  hello : coders.hello.Carries dialogue.hello
  challenge : coders.challenge.Carries dialogue.challenge
  clientProof : coders.clientProof.Carries (dialogue.proof primitives)
  serverFinished : coders.serverFinished.Carries (dialogue.finished primitives)
  heartbeat : coders.heartbeat.Carries .new
  ack : coders.ack.Carries .new
  fromClient : ∀ index < beats + 2,
    coders.envelope.Carries (dialogue.fromClient coders primitives index)
  fromServer : ∀ index < beats + 2,
    coders.envelope.Carries (dialogue.fromServer coders primitives index)

end Dialogue

/-! ### The wire -/

namespace Wire

variable {α : Type} [DiagnosticPayload α] {coder : Coder α} {coders : Coders} {message : α}

theorem payload_of_carries (valid : DiagnosticPayload.validate message = .ok ())
    (carries : coder.Carries message) : payload coder message = .ok (coder.text message) := by
  rw [payload, valid, carries.encoded]
  exact if_pos carries.short

theorem unpack_of_carries {envelope : Envelope} (valid : DiagnosticPayload.validate message = .ok ())
    (carries : coder.Carries message) (same : envelope.payload = coder.text message) :
    unpack coder envelope = .ok message := by
  simp only [unpack, same, carries.decoded, coded, bind, Except.bind, valid]
  rfl

theorem encode_of_carries {payload connectionID : Bytes} {type : DiagnosticType}
    {sequence : UInt64} {mac : Option Bytes} (length : connectionID.length = identifierLength)
    (tagged : requireMac mac = .ok ())
    (carries : coders.envelope.Carries
      ⟨UInt32.ofNat version, type, connectionID, sequence, payload, mac⟩) :
    encode coders payload type connectionID sequence mac =
      .ok (coders.envelope.text
        ⟨UInt32.ofNat version, type, connectionID, sequence, payload, mac⟩) := by
  have checked : requireLength connectionID identifierLength = .ok () :=
    requireLength_eq_ok.mpr length
  simp only [encode, checked, tagged, carries.encoded, coded, bind, Except.bind]
  exact if_pos ⟨carries.nonempty, carries.short⟩

theorem decode_of_carries {envelope : Envelope} (versioned : envelope.version = UInt32.ofNat version)
    (length : envelope.connectionID.length = identifierLength)
    (short : envelope.payload.length ≤ maxFrameLength)
    (tagged : requireMac envelope.mac = .ok ()) (carries : coders.envelope.Carries envelope) :
    decode coders (coders.envelope.text envelope) = .ok envelope := by
  have checked : requireLength envelope.connectionID identifierLength = .ok () :=
    requireLength_eq_ok.mpr length
  simp only [decode, if_pos (And.intro carries.nonempty carries.short), carries.decoded, coded,
    bind, Except.bind, if_pos versioned, checked, if_pos short, tagged]
  rfl

end Wire

namespace Dialogue

variable {Id Peer : Type} {coders : Coders} {primitives : Primitives} {dialogue : Dialogue Id Peer}
variable {beats : Nat}

theorem length_key : (dialogue.key primitives).length = macLength := primitives.length_derive _

theorem length_tag (label status : Text) (sequence : Nat) :
    (dialogue.tag primitives label status sequence).length = macLength := primitives.length_hmac _ _

theorem hello_valid : dialogue.hello.validate = .ok () :=
  Hello.validate_eq_ok.mpr dialogue.clientNonce.2

theorem challenge_valid : dialogue.challenge.validate = .ok () :=
  Challenge.validate_eq_ok.mpr ⟨dialogue.serverNonce.2, dialogue.challengeID.2, dialogue.serverID.2⟩

theorem proof_valid : (dialogue.proof primitives).validate = .ok () :=
  requireLength_eq_ok.mpr (primitives.length_hmac _ _)

theorem finished_valid : (dialogue.finished primitives).validate = .ok () := by
  refine Except.check_bind_eq_ok.mpr ⟨requireLength_eq_ok.mpr dialogue.sessionID.2, ?_⟩
  exact requireLength_eq_ok.mpr (primitives.length_hmac _ _)

/-- The body of a message that the client sends. -/
def clientBody (coders : Coders) (primitives : Primitives) (dialogue : Dialogue Id Peer)
    (index : Nat) : Bytes :=
  coders.envelope.text (dialogue.fromClient coders primitives index)

def serverBody (coders : Coders) (primitives : Primitives) (dialogue : Dialogue Id Peer)
    (index : Nat) : Bytes :=
  coders.envelope.text (dialogue.fromServer coders primitives index)

theorem requireMac_tag (label status : Text) (sequence : Nat) :
    Wire.requireMac (some (dialogue.tag primitives label status sequence)) = .ok () :=
  requireLength_eq_ok.mpr (length_tag label status sequence)

theorem decode_fromClient (carried : dialogue.Carried coders primitives beats) {index : Nat}
    (small : index < beats + 2) :
    Wire.decode coders (dialogue.clientBody coders primitives index) =
      .ok (dialogue.fromClient coders primitives index) := by
  have carries := carried.fromClient index small
  match index with
  | 0 => exact Wire.decode_of_carries rfl dialogue.connectionID.2 carried.hello.short rfl carries
  | 1 =>
      exact Wire.decode_of_carries rfl dialogue.connectionID.2 carried.clientProof.short rfl carries
  | beat + 2 =>
      exact Wire.decode_of_carries rfl dialogue.connectionID.2 carried.heartbeat.short
        (requireMac_tag _ _ _) carries

theorem decode_fromServer (carried : dialogue.Carried coders primitives beats) {index : Nat}
    (small : index < beats + 2) :
    Wire.decode coders (dialogue.serverBody coders primitives index) =
      .ok (dialogue.fromServer coders primitives index) := by
  have carries := carried.fromServer index small
  match index with
  | 0 =>
      exact Wire.decode_of_carries rfl dialogue.connectionID.2 carried.challenge.short rfl carries
  | 1 =>
      exact Wire.decode_of_carries rfl dialogue.connectionID.2 carried.serverFinished.short rfl
        carries
  | beat + 2 =>
      exact Wire.decode_of_carries rfl dialogue.connectionID.2 carried.ack.short
        (requireMac_tag _ _ _) carries

end Dialogue

end QuadControl.Apple.Diagnostic
