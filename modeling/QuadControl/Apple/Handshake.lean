import QuadControl.Apple.Transcript

/-! # The two sides of the pairing handshake

The one-time token, `ServerHandshake` and `ClientHandshake`. A call either fails and
leaves its objects as the code leaves them, or returns and takes its side on. Random
data is an argument, and so are HMAC and HKDF: what they are is not the program's.
-/

namespace QuadControl.Apple.Diagnostic

open Lib Lib.Utf8 Constants

/-- HMAC-SHA256 by key and message, and HKDF-SHA256 by input key material, salt and info. -/
structure Primitives where
  hmac : Bytes → Bytes → Bytes
  hkdf : Bytes → Bytes → Bytes → Bytes
  length_hmac : ∀ key message, (hmac key message).length = macLength
  length_hkdf : ∀ material salt info, (hkdf material salt info).length = macLength

/-- What HKDF is given for a session key. -/
structure Derivation where
  token : Bytes
  salt : Bytes
  info : Bytes
  deriving Repr, DecidableEq

namespace Primitives

variable (primitives : Primitives)

def derive (derivation : Derivation) : Bytes :=
  primitives.hkdf derivation.token derivation.salt derivation.info

/-- `DiagnosticTranscript.mac`. -/
def mac (key transcript : Bytes) : Except Failure Bytes := do
  requireLength key macLength
  return primitives.hmac key transcript

/-- `DiagnosticTranscript.isValid`. -/
def isValid (mac key transcript : Bytes) : Bool :=
  mac.length = macLength && key.length = macLength && mac = primitives.hmac key transcript

/-- `DiagnosticTranscript.sessionKey`. -/
def sessionKey (token : Bytes) (hello : Hello) (challenge : Challenge) : Except Failure Bytes := do
  requireLength token tokenLength
  let info ← Transcript.sessionInfo hello challenge
  return primitives.derive ⟨token, hello.clientNonce ++ challenge.serverNonce, info⟩

end Primitives

/-! ### The token -/

structure OneTimeToken where
  value : Bytes
  createdAtNanos : Nat
  consumed : Bool
  deriving Repr, DecidableEq

namespace OneTimeToken

def new (value : Bytes) (createdAtNanos : Nat) : Except Failure OneTimeToken := do
  requireLength value tokenLength
  return ⟨value, createdAtNanos, false⟩

def consumeIfValid (token : OneTimeToken) (nowNanos : Nat) : Except Failure OneTimeToken :=
  if token.createdAtNanos ≤ nowNanos ∧ nowNanos - token.createdAtNanos ≤ tokenTTLNanos then
    if token.consumed then .error .consumed else .ok { token with consumed := true }
  else .error .expired

end OneTimeToken

/-! ### The server's side -/

inductive ServerState where
  | awaitingHello
  | awaitingProof
  | complete
  deriving Repr, DecidableEq

/-- The token is a reference to one of the tokens there are. -/
structure ServerHandshake where
  token : Nat
  serverID : Bytes
  createdAtNanos : Nat
  state : ServerState
  hello : Option Hello
  challenge : Option Challenge
  deriving Repr, DecidableEq

namespace ServerHandshake

def new (token : Nat) (serverID : Bytes) (nowNanos : Nat) : Except Failure ServerHandshake := do
  requireLength serverID identifierLength
  return ⟨token, serverID, nowNanos, .awaitingHello, none, none⟩

variable (server : ServerHandshake)

def checkDeadline (nowNanos : Nat) : Except Failure Unit :=
  if server.createdAtNanos ≤ nowNanos ∧
      nowNanos - server.createdAtNanos ≤ handshakeTimeoutNanos then .ok ()
  else .error .timeout

def receiveHello (input : Hello) (nowNanos : Nat) (serverNonce : RandomData nonceLength)
    (challengeID : RandomData identifierLength) :
    Except Failure (Challenge × ServerHandshake) := do
  server.checkDeadline nowNanos
  if server.state = .awaitingHello then
    input.validate
    let next : Challenge := ⟨serverNonce, challengeID, server.serverID⟩
    return (next, { server with
      hello := some input
      challenge := some next
      state := .awaitingProof })
  else throw .state

/-- `receiveProof` up to where it changes its own state: the handshake the proof is for, and
    the token as it is left. -/
def checkProof (primitives : Primitives) (token : OneTimeToken) (input : ClientProof)
    (nowNanos : Nat) : Except Failure (Hello × Challenge × OneTimeToken) := do
  server.checkDeadline nowNanos
  match server.state, server.hello, server.challenge with
  | .awaitingProof, some hello, some challenge =>
      input.validate
      let transcript ← Transcript.clientProof hello challenge
      if primitives.isValid input.proof token.value transcript then
        let consumed ← token.consumeIfValid nowNanos
        return (hello, challenge, consumed)
      else throw .authentication
  | _, _, _ => throw .state

/-- The rest of `receiveProof`. -/
def finish (primitives : Primitives) (token : Bytes) (hello : Hello) (challenge : Challenge)
    (sessionID : Bytes) : Except Failure (ServerFinished × Bytes) := do
  let sessionKey ← primitives.sessionKey token hello challenge
  let transcript ← Transcript.serverFinished hello challenge sessionID
  let proof ← primitives.mac sessionKey transcript
  return (⟨sessionID, proof⟩, sessionKey)

def receiveProof (primitives : Primitives) (token : OneTimeToken) (input : ClientProof)
    (nowNanos : Nat) (sessionID : RandomData identifierLength) :
    Except Failure (ServerFinished × Bytes) × ServerHandshake × OneTimeToken :=
  match server.checkProof primitives token input nowNanos with
  | .error failure => (.error failure, server, token)
  | .ok (hello, challenge, consumed) =>
      (finish primitives token.value hello challenge sessionID, { server with state := .complete },
        consumed)

end ServerHandshake

/-! ### The client's side -/

inductive ClientState where
  | awaitingChallenge
  | awaitingFinished
  | complete
  deriving Repr, DecidableEq

structure ClientHandshake where
  hello : Hello
  token : Bytes
  state : ClientState
  challenge : Option Challenge
  deriving Repr, DecidableEq

namespace ClientHandshake

def new (token clientNonce : Bytes) : Except Failure ClientHandshake := do
  requireLength token tokenLength
  requireLength clientNonce nonceLength
  return ⟨⟨clientNonce⟩, token, .awaitingChallenge, none⟩

variable (client : ClientHandshake)

/-- The proof of a client. -/
def prove (primitives : Primitives) (challenge : Challenge) : Except Failure ClientProof := do
  let transcript ← Transcript.clientProof client.hello challenge
  let proof ← primitives.mac client.token transcript
  return ⟨proof⟩

def receiveChallenge (primitives : Primitives) (challenge : Challenge) :
    Except Failure ClientProof × ClientHandshake :=
  if client.state = .awaitingChallenge then
    match challenge.validate with
    | .error failure => (.error failure, client)
    | .ok () =>
        (client.prove primitives challenge,
          { client with challenge := some challenge, state := .awaitingFinished })
  else (.error .state, client)

def receiveFinished (primitives : Primitives) (finished : ServerFinished) :
    Except Failure ((Bytes × Bytes) × ClientHandshake) := do
  match client.state, client.challenge with
  | .awaitingFinished, some challenge =>
      finished.validate
      let sessionKey ← primitives.sessionKey client.token client.hello challenge
      let transcript ← Transcript.serverFinished client.hello challenge finished.sessionID
      if primitives.isValid finished.proof sessionKey transcript then
        return ((finished.sessionID, sessionKey), { client with state := .complete })
      else throw .authentication
  | _, _ => throw .state

end ClientHandshake

/-! ### What the calls return -/

namespace Primitives

variable {primitives : Primitives}

theorem isValid_eq_true {mac key transcript : Bytes}
    (valid : primitives.isValid mac key transcript = true) :
    mac = primitives.hmac key transcript := by
  unfold isValid at valid
  simp only [Bool.and_eq_true, decide_eq_true_eq] at valid
  exact valid.2

theorem mac_eq_ok {key transcript proof : Bytes} (made : primitives.mac key transcript = .ok proof) :
    proof = primitives.hmac key transcript := by
  unfold mac at made
  obtain ⟨-, made⟩ := Except.check_bind_eq_ok.mp made
  exact (Except.pure_eq_ok.mp made).symm

/-- The derivation of a handshake's session key. -/
def derivation (token : Bytes) (hello : Hello) (challenge : Challenge) : Derivation :=
  ⟨token, hello.clientNonce ++ challenge.serverNonce,
    Transcript.canonical "session-key".toList (Transcript.handshakeFields hello challenge)⟩

theorem sessionKey_eq_ok {token key : Bytes} {hello : Hello} {challenge : Challenge}
    (derived : primitives.sessionKey token hello challenge = .ok key) :
    key = primitives.derive (derivation token hello challenge) := by
  unfold sessionKey at derived
  obtain ⟨-, derived⟩ := Except.check_bind_eq_ok.mp derived
  obtain ⟨info, made, derived⟩ := Except.bind_eq_ok.mp derived
  obtain ⟨-, -, rfl⟩ := Transcript.sessionInfo_eq_ok.mp made
  exact (Except.pure_eq_ok.mp derived).symm

end Primitives

namespace ServerHandshake

variable {server : ServerHandshake} {primitives : Primitives}

/-- What `receiveHello` returns is the challenge it keeps. -/
theorem receiveHello_eq_ok {input : Hello} {nowNanos : Nat} {serverNonce : RandomData nonceLength}
    {challengeID : RandomData identifierLength} {challenge : Challenge} {next : ServerHandshake}
    (returned : server.receiveHello input nowNanos serverNonce challengeID =
      .ok (challenge, next)) :
    server.state = .awaitingHello ∧
      next = { server with
        hello := some input
        challenge := some challenge
        state := .awaitingProof } := by
  unfold receiveHello at returned
  obtain ⟨-, returned⟩ := Except.check_bind_eq_ok.mp returned
  split at returned
  · rename_i fresh
    obtain ⟨-, returned⟩ := Except.check_bind_eq_ok.mp returned
    obtain ⟨rfl, rfl⟩ := Prod.mk.inj (Except.pure_eq_ok.mp returned)
    exact ⟨fresh, rfl⟩
  · cases returned

theorem checkProof_eq_ok {token consumed : OneTimeToken} {input : ClientProof} {nowNanos : Nat}
    {hello : Hello} {challenge : Challenge}
    (checked : server.checkProof primitives token input nowNanos =
      .ok (hello, challenge, consumed)) :
    server.state = .awaitingProof ∧ server.hello = some hello ∧
      server.challenge = some challenge ∧ consumed.value = token.value ∧
      ∃ transcript, Transcript.clientProof hello challenge = .ok transcript ∧
        input.proof = primitives.hmac token.value transcript := by
  unfold checkProof at checked
  obtain ⟨-, checked⟩ := Except.check_bind_eq_ok.mp checked
  split at checked
  · rename_i state hello' challenge'
    obtain ⟨-, checked⟩ := Except.check_bind_eq_ok.mp checked
    obtain ⟨transcript, made, checked⟩ := Except.bind_eq_ok.mp checked
    split at checked
    · rename_i valid
      obtain ⟨left, taken, checked⟩ := Except.bind_eq_ok.mp checked
      obtain ⟨rfl, rfl, rfl⟩ := by simpa using Except.pure_eq_ok.mp checked
      refine ⟨state, hello', challenge', ?_, transcript, made, Primitives.isValid_eq_true valid⟩
      unfold OneTimeToken.consumeIfValid at taken
      split at taken
      · split at taken
        · cases taken
        · cases taken
          rfl
      · cases taken
    · cases checked
  · cases checked

theorem finish_eq_ok {token sessionID key : Bytes} {hello : Hello} {challenge : Challenge}
    {finished : ServerFinished}
    (returned : finish primitives token hello challenge sessionID = .ok (finished, key)) :
    key = primitives.derive (Primitives.derivation token hello challenge) ∧
      finished.sessionID = sessionID ∧
      ∃ transcript, Transcript.serverFinished hello challenge sessionID = .ok transcript ∧
        finished.proof = primitives.hmac key transcript := by
  unfold finish at returned
  obtain ⟨derived, keyed, returned⟩ := Except.bind_eq_ok.mp returned
  obtain ⟨transcript, made, returned⟩ := Except.bind_eq_ok.mp returned
  obtain ⟨proof, tagged, returned⟩ := Except.bind_eq_ok.mp returned
  obtain ⟨rfl, rfl⟩ := Prod.mk.inj (Except.pure_eq_ok.mp returned)
  exact ⟨Primitives.sessionKey_eq_ok keyed, rfl, transcript, made, Primitives.mac_eq_ok tagged⟩

/-- `receiveProof` takes the handshake to its end, or leaves it as it was. -/
theorem receiveProof_keeps {token left : OneTimeToken} {input : ClientProof} {nowNanos : Nat}
    {sessionID : RandomData identifierLength} {result : Except Failure (ServerFinished × Bytes)}
    {next : ServerHandshake}
    (returned : server.receiveProof primitives token input nowNanos sessionID =
      (result, next, left)) :
    left.value = token.value ∧
      (next = server ∨ server.state ≠ .complete ∧ next = { server with state := .complete }) := by
  unfold receiveProof at returned
  split at returned
  · obtain ⟨-, rfl, rfl⟩ := by simpa using returned
    exact ⟨rfl, .inl rfl⟩
  · rename_i hello challenge consumed checked
    obtain ⟨-, rfl, rfl⟩ := by simpa using returned
    obtain ⟨awaiting, -, -, value, -⟩ := checkProof_eq_ok checked
    exact ⟨value, .inr ⟨by simp [awaiting], rfl⟩⟩

/-- What `receiveProof` has checked when it returns, and what it returns. -/
theorem receiveProof_eq_ok {token left : OneTimeToken} {input : ClientProof} {nowNanos : Nat}
    {sessionID : RandomData identifierLength} {finished : ServerFinished} {key : Bytes}
    {next : ServerHandshake}
    (returned : server.receiveProof primitives token input nowNanos sessionID =
      (.ok (finished, key), next, left)) :
    next = { server with state := .complete } ∧
      ∃ hello challenge, server.hello = some hello ∧ server.challenge = some challenge ∧
        key = primitives.derive (Primitives.derivation token.value hello challenge) ∧
        ∃ transcript, Transcript.clientProof hello challenge = .ok transcript ∧
          input.proof = primitives.hmac token.value transcript := by
  unfold receiveProof at returned
  split at returned
  · cases returned
  · rename_i hello challenge consumed checked
    obtain ⟨finish, rfl, -⟩ := by simpa using returned
    obtain ⟨-, greeted, challenged, -, made⟩ := checkProof_eq_ok checked
    exact ⟨rfl, hello, challenge, greeted, challenged, (finish_eq_ok finish).1, made⟩

end ServerHandshake

namespace ClientHandshake

variable {client : ClientHandshake} {primitives : Primitives}

theorem prove_eq_ok {challenge : Challenge} {message : ClientProof}
    (proved : client.prove primitives challenge = .ok message) :
    ∃ transcript, Transcript.clientProof client.hello challenge = .ok transcript ∧
      message.proof = primitives.hmac client.token transcript := by
  unfold prove at proved
  obtain ⟨transcript, made, proved⟩ := Except.bind_eq_ok.mp proved
  obtain ⟨proof, tagged, proved⟩ := Except.bind_eq_ok.mp proved
  obtain rfl := Except.pure_eq_ok.mp proved
  exact ⟨transcript, made, Primitives.mac_eq_ok tagged⟩

/-- A client keeps what it is, whether it takes the challenge or not. -/
theorem receiveChallenge_keeps {challenge : Challenge} {result : Except Failure ClientProof}
    {next : ClientHandshake}
    (returned : client.receiveChallenge primitives challenge = (result, next)) :
    next.token = client.token ∧ next.hello = client.hello := by
  unfold receiveChallenge at returned
  split at returned
  · split at returned
    · obtain ⟨-, rfl⟩ := Prod.mk.inj returned
      exact ⟨rfl, rfl⟩
    · obtain ⟨-, rfl⟩ := Prod.mk.inj returned
      exact ⟨rfl, rfl⟩
  · obtain ⟨-, rfl⟩ := Prod.mk.inj returned
    exact ⟨rfl, rfl⟩

theorem receiveChallenge_proof {challenge : Challenge} {message : ClientProof}
    {next : ClientHandshake}
    (returned : client.receiveChallenge primitives challenge = (.ok message, next)) :
    ∃ transcript, Transcript.clientProof client.hello challenge = .ok transcript ∧
      message.proof = primitives.hmac client.token transcript := by
  unfold receiveChallenge at returned
  split at returned
  · split at returned
    · cases returned
    · exact prove_eq_ok (Prod.mk.inj returned).1
  · cases returned

theorem receiveFinished_eq_ok {finished : ServerFinished} {sessionID key : Bytes}
    {next : ClientHandshake}
    (returned : client.receiveFinished primitives finished = .ok ((sessionID, key), next)) :
    sessionID = finished.sessionID ∧ next = { client with state := .complete } ∧
      client.state = .awaitingFinished ∧ ∃ challenge, client.challenge = some challenge ∧
        key = primitives.derive (Primitives.derivation client.token client.hello challenge) ∧
        ∃ transcript,
          Transcript.serverFinished client.hello challenge finished.sessionID = .ok transcript ∧
          finished.proof = primitives.hmac key transcript := by
  unfold receiveFinished at returned
  split at returned
  · rename_i challenge state challenged
    obtain ⟨-, returned⟩ := Except.check_bind_eq_ok.mp returned
    obtain ⟨derived, keyed, returned⟩ := Except.bind_eq_ok.mp returned
    obtain ⟨transcript, made, returned⟩ := Except.bind_eq_ok.mp returned
    split at returned
    · rename_i valid
      obtain ⟨⟨rfl, rfl⟩, rfl⟩ := by simpa using Except.pure_eq_ok.mp returned
      exact ⟨rfl, rfl, state, challenge, challenged, Primitives.sessionKey_eq_ok keyed, transcript,
        made, Primitives.isValid_eq_true valid⟩
    · cases returned
  · cases returned

end ClientHandshake

/-! ### The golden vectors -/

namespace Sample

def token : Bytes := (List.range 32).map UInt8.ofNat

def hello : Hello := ⟨List.replicate 32 1⟩

def challenge : Challenge := ⟨List.replicate 32 2, List.replicate 16 3, List.replicate 16 4⟩

def sessionID : Bytes := List.replicate 16 5

theorem length_serverNonce : challenge.serverNonce.length = nonceLength := rfl

theorem length_serverID : challenge.serverID.length = identifierLength := rfl

theorem length_challengeID : challenge.challengeID.length = identifierLength := rfl

theorem length_sessionID : sessionID.length = identifierLength := rfl

def proof : Bytes :=
  [230, 41, 33, 20, 84, 90, 199, 201, 54, 52, 114, 244, 179, 96, 198, 20, 198, 37, 159, 152, 189,
    132, 255, 224, 208, 43, 123, 166, 240, 21, 16, 189]

def key : Bytes :=
  [5, 166, 220, 1, 78, 95, 163, 150, 0, 88, 50, 26, 219, 132, 214, 143, 94, 42, 210, 254, 225, 29,
    54, 235, 187, 101, 157, 154, 23, 154, 231, 121]

def finish : Bytes :=
  [18, 132, 220, 218, 56, 231, 127, 223, 247, 160, 134, 174, 43, 168, 187, 76, 23, 64, 40, 129, 32,
    61, 174, 132, 214, 141, 178, 16, 199, 62, 22, 135]

/-- HMAC-SHA256 and HKDF-SHA256 on what this handshake gives them. -/
def cryptoKit : Primitives where
  hmac key' message :=
    if key' = token ∧ Transcript.clientProof hello challenge = .ok message then proof
    else if key' = key ∧ Transcript.serverFinished hello challenge sessionID = .ok message then
      finish
    else List.replicate 32 0
  hkdf material salt info :=
    if ⟨material, salt, info⟩ = Primitives.derivation token hello challenge then key
    else List.replicate 32 0
  length_hmac := by
    intro key' message
    split
    · rfl
    · split <;> rfl
  length_hkdf := by
    intro material salt info
    split <;> rfl

end Sample

end QuadControl.Apple.Diagnostic
