import QuadControl.Apple.Handshake
import QuadControl.Apple.Wire

/-! # Envelopes and heartbeats

The envelopes that frames carry, with the messages of a session that is established. What
JSON makes of a value is not the program's, so the coders are a parameter.
-/

namespace QuadControl.Apple.Diagnostic

open Lib Lib.Utf8 Constants

/-! ### Messages -/

inductive DiagnosticType where
  | hello
  | challenge
  | clientProof
  | serverFinished
  | heartbeat
  | ack
  | error
  deriving Repr, DecidableEq

/-- `DiagnosticEnvelope`. -/
structure Envelope where
  version : UInt32
  type : DiagnosticType
  connectionID : Bytes
  sequence : UInt64
  payload : Bytes
  mac : Option Bytes
  deriving Repr, DecidableEq

/-- `DiagnosticHeartbeat`. -/
structure Heartbeat where
  status : Text
  deriving Repr, DecidableEq

def Heartbeat.new : Heartbeat := ⟨"alive".toList⟩

def Heartbeat.validate (message : Heartbeat) : Except Failure Unit :=
  if message.status = "alive".toList then .ok () else .error .malformed

/-- `DiagnosticAck`. -/
structure Ack where
  status : Text
  deriving Repr, DecidableEq

def Ack.new : Ack := ⟨"ok".toList⟩

def Ack.validate (message : Ack) : Except Failure Unit :=
  if message.status = "ok".toList then .ok () else .error .malformed

class DiagnosticPayload (α : Type) where
  validate : α → Except Failure Unit

instance : DiagnosticPayload Hello := ⟨Hello.validate⟩

instance : DiagnosticPayload Challenge := ⟨Challenge.validate⟩

instance : DiagnosticPayload ClientProof := ⟨ClientProof.validate⟩

instance : DiagnosticPayload ServerFinished := ⟨ServerFinished.validate⟩

instance : DiagnosticPayload Heartbeat := ⟨Heartbeat.validate⟩

instance : DiagnosticPayload Ack := ⟨Ack.validate⟩

/-- `JSONEncoder` and `JSONDecoder` on the values of a type. -/
structure Coder (α : Type) where
  encode : α → Option Bytes
  decode : Bytes → Option α

structure Coders where
  envelope : Coder Envelope
  hello : Coder Hello
  challenge : Coder Challenge
  clientProof : Coder ClientProof
  serverFinished : Coder ServerFinished
  heartbeat : Coder Heartbeat
  ack : Coder Ack

/-- What a coder throws is no failure of the program, and all who catch it make it one. -/
def coded {α : Type} (result : Option α) : Except Failure α :=
  match result with
  | some value => .ok value
  | none => .error .malformed

namespace Wire

def payload {α : Type} [DiagnosticPayload α] (coder : Coder α) (message : α) :
    Except Failure Bytes := do
  DiagnosticPayload.validate message
  let data ← coded (coder.encode message)
  if data.length ≤ maxFrameLength then return data else throw .length

def requireMac (mac : Option Bytes) : Except Failure Unit :=
  match mac with
  | some mac => requireLength mac macLength
  | none => .ok ()

def encode (coders : Coders) (payload : Bytes) (type : DiagnosticType) (connectionID : Bytes)
    (sequence : UInt64) (mac : Option Bytes) : Except Failure Bytes := do
  requireLength connectionID identifierLength
  requireMac mac
  let encoded ← coded (coders.envelope.encode
    ⟨UInt32.ofNat version, type, connectionID, sequence, payload, mac⟩)
  if encoded ≠ [] ∧ encoded.length ≤ maxFrameLength then return encoded else throw .length

def decode (coders : Coders) (data : Bytes) : Except Failure Envelope := do
  if data ≠ [] ∧ data.length ≤ maxFrameLength then
    let envelope ← coded (coders.envelope.decode data)
    if envelope.version = UInt32.ofNat version then
      requireLength envelope.connectionID identifierLength
      if envelope.payload.length ≤ maxFrameLength then
        requireMac envelope.mac
        return envelope
      else throw .length
    else throw .version
  else throw .length

def unpack {α : Type} [DiagnosticPayload α] (coder : Coder α) (envelope : Envelope) :
    Except Failure α := do
  let message ← coded (coder.decode envelope.payload)
  DiagnosticPayload.validate message
  return message

end Wire

/-! ### Sequences of heartbeats -/

structure HeartbeatSequence where
  sent : UInt64
  received : UInt64
  deriving Repr, DecidableEq

namespace HeartbeatSequence

def new : HeartbeatSequence := ⟨0, 0⟩

variable (counter : HeartbeatSequence)

def next : Except Failure (UInt64 × HeartbeatSequence) :=
  if counter.sent < 0xffffffffffffffff then
    .ok (counter.sent + 1, { counter with sent := counter.sent + 1 })
  else .error .resourceLimit

def accept (sequence : UInt64) : Except Failure HeartbeatSequence :=
  if counter.received < sequence then .ok { counter with received := sequence }
  else .error .replay

variable {counter}

theorem next_eq_ok {sequence : UInt64} {left : HeartbeatSequence}
    (counted : counter.next = .ok (sequence, left)) :
    sequence.toNat = counter.sent.toNat + 1 ∧ left = { counter with sent := sequence } := by
  unfold next at counted
  split at counted
  · rename_i room
    obtain ⟨rfl, rfl⟩ := Prod.mk.inj (Except.ok.inj counted)
    refine ⟨?_, rfl⟩
    have below : counter.sent.toNat < 18446744073709551615 := UInt64.lt_iff_toNat_lt.mp room
    rw [UInt64.toNat_add]
    exact Nat.mod_eq_of_lt (Nat.succ_lt_succ below)
  · cases counted

theorem accept_eq_ok {sequence : UInt64} {left : HeartbeatSequence}
    (accepted : counter.accept sequence = .ok left) :
    counter.received.toNat < sequence.toNat ∧ left = { counter with received := sequence } := by
  unfold accept at accepted
  split at accepted
  · rename_i later
    exact ⟨UInt64.lt_iff_toNat_lt.mp later, (Except.ok.inj accepted).symm⟩
  · cases accepted

end HeartbeatSequence

/-! ### The golden vectors on the wire -/

namespace Sample

/-- The base64 of six bits. A slash is escaped in JSON. -/
def digit (value : Nat) : Text :=
  if value < 26 then [Char.ofNat (65 + value)]
  else if value < 52 then [Char.ofNat (71 + value)]
  else if value < 62 then [Char.ofNat (value - 4)]
  else if value = 62 then ['+']
  else ['\x5c', '/']

def base64 : Bytes → Text
  | first :: second :: third :: rest =>
      digit (first.toNat / 4) ++ digit (first.toNat % 4 * 16 + second.toNat / 16) ++
        digit (second.toNat % 16 * 4 + third.toNat / 64) ++ digit (third.toNat % 64) ++ base64 rest
  | [first, second] =>
      digit (first.toNat / 4) ++ digit (first.toNat % 4 * 16 + second.toNat / 16) ++
        digit (second.toNat % 16 * 4) ++ ['=']
  | [first] => digit (first.toNat / 4) ++ digit (first.toNat % 4 * 16) ++ ['=', '=']
  | [] => []

def quoted (text : Text) : Text := '\x22' :: text ++ ['\x22']

def object (fields : List (Text × Text)) : Text :=
  let field : Text × Text → Text := fun (key, value) => quoted key ++ ':' :: value
  '\x7b' :: [','].intercalate (fields.map field) ++ ['\x7d']

/-- The JSON of values, and these values where their JSON is read. -/
def coder {α : Type} (json : α → Text) (values : List α) : Coder α where
  encode value := some (encode (json value))
  decode data := values.find? fun value => encode (json value) = data

def wireName : DiagnosticType → Text
  | .hello => "hello".toList
  | .challenge => "challenge".toList
  | .clientProof => "client_proof".toList
  | .serverFinished => "server_finished".toList
  | .heartbeat => "heartbeat".toList
  | .ack => "ack".toList
  | .error => "error".toList

def envelopeJson (envelope : Envelope) : Text :=
  object ([("protocol_version".toList, Nat.toDigits 10 envelope.version.toNat),
      ("type".toList, quoted (wireName envelope.type)),
      ("connection_id".toList, quoted (base64 envelope.connectionID)),
      ("sequence".toList, Nat.toDigits 10 envelope.sequence.toNat),
      ("payload".toList, quoted (base64 envelope.payload))] ++
    envelope.mac.toList.map fun mac => ("mac".toList, quoted (base64 mac)))

def helloJson (message : Hello) : Text :=
  object [("client_nonce".toList, quoted (base64 message.clientNonce))]

def challengeJson (message : Challenge) : Text :=
  object [("server_nonce".toList, quoted (base64 message.serverNonce)),
    ("challenge_id".toList, quoted (base64 message.challengeID)),
    ("server_id".toList, quoted (base64 message.serverID))]

def clientProofJson (message : ClientProof) : Text :=
  object [("proof".toList, quoted (base64 message.proof))]

def serverFinishedJson (message : ServerFinished) : Text :=
  object [("session_id".toList, quoted (base64 message.sessionID)),
    ("proof".toList, quoted (base64 message.proof))]

def statusJson (status : Text) : Text := object [("status".toList, quoted status)]

def connectionID : Bytes := List.replicate 16 6

def heartbeatTag : Bytes :=
  [57, 211, 200, 182, 111, 154, 4, 165, 53, 200, 182, 40, 125, 184, 36, 233, 210, 75, 141, 101, 143,
    168, 196, 107, 22, 21, 152, 207, 232, 245, 218, 52]

def ackTag : Bytes :=
  [182, 122, 92, 46, 124, 24, 107, 88, 16, 101, 174, 168, 249, 183, 71, 178, 195, 48, 24, 201, 13,
    184, 62, 244, 159, 103, 112, 119, 78, 114, 90, 156]

def envelope (type : DiagnosticType) (payload : Text) (sequence : UInt64) (mac : Option Bytes) :
    Envelope :=
  ⟨UInt32.ofNat version, type, connectionID, sequence, encode payload, mac⟩

def helloEnvelope : Envelope := envelope .hello (helloJson hello) 0 none

def challengeEnvelope : Envelope := envelope .challenge (challengeJson challenge) 0 none

def proofEnvelope : Envelope := envelope .clientProof (clientProofJson ⟨proof⟩) 0 none

def finishedEnvelope : Envelope :=
  envelope .serverFinished (serverFinishedJson ⟨sessionID, finish⟩) 0 none

def heartbeatEnvelope : Envelope :=
  envelope .heartbeat (statusJson Heartbeat.new.status) 1 (some heartbeatTag)

def ackEnvelope : Envelope := envelope .ack (statusJson Ack.new.status) 1 (some ackTag)

def coders : Coders where
  envelope := coder envelopeJson [helloEnvelope, challengeEnvelope, proofEnvelope,
    finishedEnvelope, heartbeatEnvelope, ackEnvelope]
  hello := coder helloJson [hello]
  challenge := coder challengeJson [challenge]
  clientProof := coder clientProofJson [⟨proof⟩]
  serverFinished := coder serverFinishedJson [⟨sessionID, finish⟩]
  heartbeat := coder (fun message => statusJson message.status) [.new]
  ack := coder (fun message => statusJson message.status) [.new]

/-- The body of an envelope. -/
def body (envelope : Envelope) : Bytes := encode (envelopeJson envelope)

/-- The tags of the first heartbeat and of its acknowledgement, beside those of the handshake. -/
def sessionKit : Primitives where
  hmac key' message :=
    if key' = key ∧ Transcript.clientHeartbeat sessionID 1 Heartbeat.new.status = .ok message then
      heartbeatTag
    else if key' = key ∧ Transcript.serverAck sessionID 1 Ack.new.status = .ok message then ackTag
    else cryptoKit.hmac key' message
  hkdf := cryptoKit.hkdf
  length_hmac := by
    intro key' message
    split
    · rfl
    · split
      · rfl
      · exact cryptoKit.length_hmac key' message
  length_hkdf := cryptoKit.length_hkdf

example : [helloEnvelope, challengeEnvelope, proofEnvelope, finishedEnvelope, heartbeatEnvelope,
    ackEnvelope].all (fun envelope => Wire.decode coders (body envelope) = .ok envelope) := by
  decide +kernel

end Sample

end QuadControl.Apple.Diagnostic
