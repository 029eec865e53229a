import Mathlib.Logic.Function.Basic
import QuadControl.Apple.Handshake
import QuadControl.Lib.Machine

/-! # Handshakes over a network

Any number of client and server handshakes, and of the tokens they refer to. The network
is the adversary's: what is delivered, to whom, when and how often is up to it. Beside
the handshakes stands what they have done, which no call reads.
-/

namespace QuadControl.Apple.Diagnostic

open Lib Lib.Utf8 Constants

/-- What the two sides of a handshake agree on. -/
structure Session where
  token : Bytes
  hello : Hello
  challenge : Challenge
  sessionID : Bytes
  key : Bytes
  deriving Repr, DecidableEq

/-- What has been done, by the numbers of the handshakes. -/
inductive Note where
  /-- A client has computed a proof. -/
  | proved (client : Nat) (token : Bytes) (hello : Hello) (challenge : Challenge) (proof : Bytes)
  /-- A server has accepted a proof. -/
  | completed (server : Nat) (proof : Bytes) (session : Session)
  /-- A client has accepted what finishes its handshake. -/
  | accepted (client : Nat) (session : Session)
  /-- A transcript of a session has been authenticated. -/
  | tagged (key transcript : Bytes)
  deriving Repr, DecidableEq

structure Network where
  tokens : Nat → OneTimeToken
  clients : Nat → ClientHandshake
  servers : Nat → ServerHandshake
  history : List Note

/-- What may come next: messages, and the heartbeats and acks of whatever sessions. -/
inductive Delivery where
  | hello (server : Nat) (input : Hello) (nowNanos : Nat) (serverNonce : RandomData nonceLength)
      (challengeID : RandomData identifierLength)
  | challenge (client : Nat) (challenge : Challenge)
  | proof (server : Nat) (input : ClientProof) (nowNanos : Nat)
      (sessionID : RandomData identifierLength)
  | finished (client : Nat) (finished : ServerFinished)
  | heartbeat (key sessionID : Bytes) (sequence : UInt64) (status : Text)
  | ack (key sessionID : Bytes) (sequence : UInt64) (status : Text)

namespace Network

def start (tokens : Nat → OneTimeToken) (clients : Nat → ClientHandshake)
    (servers : Nat → ServerHandshake) : Network :=
  ⟨tokens, clients, servers, []⟩

variable (primitives : Primitives) (net : Network)

def note (done : Option Note) : Network := { net with history := done.toList ++ net.history }

def setClient (i : Nat) (client : ClientHandshake) : Network :=
  { net with clients := Function.update net.clients i client }

def setServer (i : Nat) (server : ServerHandshake) : Network :=
  { net with servers := Function.update net.servers i server }

/-- The token of a server handshake. -/
def tokenOf (i : Nat) : OneTimeToken := net.tokens (net.servers i).token

def setTokenOf (i : Nat) (token : OneTimeToken) : Network :=
  { net with tokens := Function.update net.tokens (net.servers i).token token }

/-- The note of a server that has returned from `receiveProof`. -/
def completion (i : Nat) (proof : Bytes) (finished : ServerFinished) (key : Bytes) :
    Option Note := do
  let hello ← (net.servers i).hello
  let challenge ← (net.servers i).challenge
  return .completed i proof ⟨(net.tokenOf i).value, hello, challenge, finished.sessionID, key⟩

/-- The note of a client that has returned from `receiveFinished`. -/
def acceptance (i : Nat) (sessionID key : Bytes) : Option Note := do
  let challenge ← (net.clients i).challenge
  return .accepted i ⟨(net.clients i).token, (net.clients i).hello, challenge, sessionID, key⟩

/-- A transcript that is authenticated with a key. -/
def tagWith (key : Bytes) (transcript : Except Failure Bytes) : Network :=
  match transcript with
  | .ok transcript => net.note (some (.tagged key transcript))
  | .error _ => net

def receiveChallenge (i : Nat) (challenge : Challenge) : Network :=
  let client := net.clients i
  match client.receiveChallenge primitives challenge with
  | (.ok message, next) =>
      (net.setClient i next).note
        (some (.proved i client.token client.hello challenge message.proof))
  | (.error _, next) => net.setClient i next

def receiveProof (i : Nat) (input : ClientProof) (nowNanos : Nat)
    (sessionID : RandomData identifierLength) : Network :=
  match (net.servers i).receiveProof primitives (net.tokenOf i) input nowNanos sessionID with
  | (.ok (finished, key), next, left) =>
      ((net.setTokenOf i left).setServer i next).note (net.completion i input.proof finished key)
  | (.error _, next, left) => (net.setTokenOf i left).setServer i next

def receiveFinished (i : Nat) (finished : ServerFinished) : Network :=
  match (net.clients i).receiveFinished primitives finished with
  | .ok ((sessionID, key), next) => (net.setClient i next).note (net.acceptance i sessionID key)
  | .error _ => net

/-- A call of one of the handshakes, or of a holder of a key. -/
def receive : Delivery → Network
  | .hello i input nowNanos serverNonce challengeID =>
      match (net.servers i).receiveHello input nowNanos serverNonce challengeID with
      | .ok (_, next) => net.setServer i next
      | .error _ => net
  | .challenge i challenge => net.receiveChallenge primitives i challenge
  | .proof i input nowNanos sessionID => net.receiveProof primitives i input nowNanos sessionID
  | .finished i finished => net.receiveFinished primitives i finished
  | .heartbeat key sessionID sequence status =>
      net.tagWith key (Transcript.clientHeartbeat sessionID sequence status)
  | .ack key sessionID sequence status =>
      net.tagWith key (Transcript.serverAck sessionID sequence status)

/-- Nothing keeps a delivery from being made. -/
def step (net : Network) (delivery : Delivery) : Option Network :=
  some (net.receive primitives delivery)

/-- Every delivery can be made, so that all runs go through. -/
theorem run_step (deliveries : List Delivery) :
    Machine.run (step primitives) net deliveries =
      some (deliveries.foldl (receive primitives) net) := by
  induction deliveries generalizing net with
  | nil => rfl
  | cons delivery deliveries ih => exact ih (net.receive primitives delivery)

end Network

/-! ### Ideal primitives -/

/-- The transcript that was authenticated, and with which key. -/
def Note.tag : Note → Option (Bytes × Bytes)
  | .proved _ token hello challenge _ =>
      (Transcript.clientProof hello challenge).toOption.map (token, ·)
  | .completed _ _ session =>
      (Transcript.serverFinished session.hello session.challenge session.sessionID).toOption.map
        (session.key, ·)
  | .accepted _ _ => none
  | .tagged key transcript => some (key, transcript)

/-- The transcript whose tag was found valid, and under which key. -/
def Note.verified : Note → Option (Bytes × Bytes)
  | .completed _ _ session =>
      (Transcript.clientProof session.hello session.challenge).toOption.map (session.token, ·)
  | .accepted _ session =>
      (Transcript.serverFinished session.hello session.challenge session.sessionID).toOption.map
        (session.key, ·)
  | .proved .. | .tagged .. => none

/-- The derivation of the session key. -/
def Session.derivation (session : Session) : Derivation :=
  Primitives.derivation session.token session.hello session.challenge

def Note.derivation : Note → Option Derivation
  | .completed _ _ session | .accepted _ session => some session.derivation
  | .proved .. | .tagged .. => none

/-- HMAC and HKDF as they should be, for what is done next and what was done before. The
    adversary has the keys that are exposed. -/
structure Ideal (primitives : Primitives) (exposed : Bytes → Prop) (next : Note)
    (history : List Note) : Prop where
  /-- Who has not the key forges no tag: the handshakes have authenticated the transcript. -/
  unforgeable : ∀ pair ∈ next.verified, ¬ exposed pair.1 → ∃ note ∈ history, pair ∈ note.tag
  /-- No two derivations give one key. -/
  collisionFree : ∀ one ∈ (next :: history).filterMap Note.derivation,
    ∀ other ∈ (next :: history).filterMap Note.derivation,
      primitives.derive one = primitives.derive other → one = other
  /-- Who has not the token has not the key that is derived from it. -/
  secret : ∀ one ∈ (next :: history).filterMap Note.derivation,
    exposed (primitives.derive one) → exposed one.token

end QuadControl.Apple.Diagnostic
