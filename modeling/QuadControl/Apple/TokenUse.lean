import QuadControl.Apple.Handshake
import QuadControl.Lib.Machine

/-! # The use of a one-time token

Any number of handshakes share one token. All that their calls have in common is the
token, which is taken under its lock, so the calls come one after the other, in any order.
What a handshake keeps has passed its checks, so that nothing can fail once the token is
taken.
-/

namespace QuadControl.Apple.Diagnostic

open Lib Lib.Utf8 Constants

/-! ### Calls that fail -/

theorem Primitives.mac_of_length (primitives : Primitives) {key : Bytes} (transcript : Bytes)
    (length : key.length = macLength) :
    primitives.mac key transcript = .ok (primitives.hmac key transcript) := by
  rw [mac, requireLength, if_pos length]
  rfl

theorem Primitives.length_derive (primitives : Primitives) (derivation : Derivation) :
    (primitives.derive derivation).length = macLength :=
  primitives.length_hkdf _ _ _

theorem OneTimeToken.new_eq_ok {value : Bytes} {createdAtNanos : Nat} {token : OneTimeToken} :
    OneTimeToken.new value createdAtNanos = .ok token ↔
      value.length = tokenLength ∧ ⟨value, createdAtNanos, false⟩ = token := by
  simp only [new, Except.check_bind_eq_ok, requireLength_eq_ok, Except.pure_eq_ok]

theorem OneTimeToken.consumeIfValid_eq_ok {token left : OneTimeToken} {nowNanos : Nat} :
    token.consumeIfValid nowNanos = .ok left ↔
      (token.createdAtNanos ≤ nowNanos ∧ nowNanos - token.createdAtNanos ≤ tokenTTLNanos) ∧
        token.consumed = false ∧ left = { token with consumed := true } := by
  unfold consumeIfValid
  split
  · rename_i timely
    cases consumed : token.consumed with
    | true => simp
    | false => simp [timely, eq_comm]
  · rename_i late
    simp only [late, false_and, reduceCtorEq]

namespace ServerHandshake

variable {server : ServerHandshake} {primitives : Primitives}

/-- What a handshake keeps has passed its checks. -/
structure Sound (server : ServerHandshake) : Prop where
  serverID : server.serverID.length = identifierLength
  hello : ∀ hello, server.hello = some hello → hello.validate = .ok ()
  challenge : ∀ challenge, server.challenge = some challenge → challenge.validate = .ok ()

theorem new_eq_ok {token : Nat} {serverID : Bytes} {nowNanos : Nat} :
    ServerHandshake.new token serverID nowNanos = .ok server ↔
      serverID.length = identifierLength ∧
        ⟨token, serverID, nowNanos, .awaitingHello, none, none⟩ = server := by
  simp only [new, Except.check_bind_eq_ok, requireLength_eq_ok, Except.pure_eq_ok]

theorem new_sound {token : Nat} {serverID : Bytes} {nowNanos : Nat}
    (made : ServerHandshake.new token serverID nowNanos = .ok server) : server.Sound := by
  obtain ⟨length, rfl⟩ := new_eq_ok.mp made
  exact ⟨length, nofun, nofun⟩

theorem receiveHello_sound {next : ServerHandshake} {input : Hello} {nowNanos : Nat}
    {serverNonce : RandomData nonceLength} {challengeID : RandomData identifierLength}
    {challenge : Challenge} (sound : server.Sound)
    (returned : server.receiveHello input nowNanos serverNonce challengeID =
      .ok (challenge, next)) : next.Sound := by
  unfold receiveHello at returned
  obtain ⟨-, returned⟩ := Except.check_bind_eq_ok.mp returned
  split at returned
  · obtain ⟨valid, returned⟩ := Except.check_bind_eq_ok.mp returned
    obtain ⟨rfl, rfl⟩ := Prod.mk.inj (Except.pure_eq_ok.mp returned)
    constructor
    · exact sound.serverID
    · intro hello kept
      obtain rfl := Option.some.inj kept
      exact valid
    · intro challenge kept
      obtain rfl := Option.some.inj kept
      exact Challenge.validate_eq_ok.mpr ⟨serverNonce.2, challengeID.2, sound.serverID⟩
  · cases returned

/-- The tag of a finished message. -/
def finishedProof (primitives : Primitives) (token : Bytes) (hello : Hello) (challenge : Challenge)
    (sessionID : Bytes) : Bytes :=
  primitives.hmac (primitives.derive (Primitives.derivation token hello challenge))
    (Transcript.canonical "server-finished".toList
      (Transcript.handshakeFields hello challenge ++ [sessionID]))

/-- Nothing of what follows the token's use fails. -/
theorem finish_of_valid {token sessionID : Bytes} {hello : Hello} {challenge : Challenge}
    (length : token.length = tokenLength) (valid : hello.validate = .ok ())
    (valid' : challenge.validate = .ok ()) (session : sessionID.length = identifierLength) :
    finish primitives token hello challenge sessionID =
      .ok (⟨sessionID, finishedProof primitives token hello challenge sessionID⟩,
        primitives.derive (Primitives.derivation token hello challenge)) := by
  have info := Transcript.sessionInfo_eq_ok.mpr ⟨valid, valid', rfl⟩
  have transcript := Transcript.serverFinished_eq_ok.mpr ⟨valid, valid', session, rfl⟩
  have keyed : primitives.sessionKey token hello challenge =
      .ok (primitives.derive (Primitives.derivation token hello challenge)) := by
    apply Except.check_bind_eq_ok.mpr
    exact ⟨requireLength_eq_ok.mpr length, Except.bind_eq_ok.mpr ⟨_, info, rfl⟩⟩
  have derived := primitives.length_derive (Primitives.derivation token hello challenge)
  apply Except.bind_eq_ok.mpr
  refine ⟨_, keyed, ?_⟩
  apply Except.bind_eq_ok.mpr
  refine ⟨_, transcript, ?_⟩
  apply Except.bind_eq_ok.mpr
  exact ⟨_, primitives.mac_of_length _ derived, rfl⟩

/-- A time within the deadlines of a token and of a handshake. -/
structure Timely (server : ServerHandshake) (token : OneTimeToken) (nowNanos : Nat) : Prop where
  token_created : token.createdAtNanos ≤ nowNanos
  token_fresh : nowNanos - token.createdAtNanos ≤ tokenTTLNanos
  server_created : server.createdAtNanos ≤ nowNanos
  server_fresh : nowNanos - server.createdAtNanos ≤ handshakeTimeoutNanos

theorem Timely.of_created {token token' : OneTimeToken} {nowNanos : Nat}
    (timely : server.Timely token nowNanos) (same : token.createdAtNanos = token'.createdAtNanos) :
    server.Timely token' nowNanos :=
  ⟨same ▸ timely.token_created, same ▸ timely.token_fresh, timely.server_created,
    timely.server_fresh⟩

/-- A proof that is accepted takes the token, in time. -/
theorem checkProof_takes {token consumed : OneTimeToken} {input : ClientProof} {nowNanos : Nat}
    {hello : Hello} {challenge : Challenge}
    (checked : server.checkProof primitives token input nowNanos =
      .ok (hello, challenge, consumed)) :
    server.Timely token nowNanos ∧ token.consumed = false ∧
      consumed = { token with consumed := true } := by
  unfold checkProof at checked
  obtain ⟨timely, checked⟩ := Except.check_bind_eq_ok.mp checked
  obtain ⟨created, fresh⟩ := Except.guard_eq_ok.mp timely
  split at checked
  · obtain ⟨-, checked⟩ := Except.check_bind_eq_ok.mp checked
    obtain ⟨transcript, made, checked⟩ := Except.bind_eq_ok.mp checked
    split at checked
    · obtain ⟨left, taken, checked⟩ := Except.bind_eq_ok.mp checked
      obtain ⟨rfl, rfl, rfl⟩ := by simpa using Except.pure_eq_ok.mp checked
      obtain ⟨⟨created', fresh'⟩, unused, rfl⟩ := OneTimeToken.consumeIfValid_eq_ok.mp taken
      exact ⟨⟨created', fresh', created, fresh⟩, unused, rfl⟩
    · cases checked
  · cases checked

/-- A proof that is refused changes nothing, and one that is accepted takes the token. -/
theorem receiveProof_cases {token left : OneTimeToken} {input : ClientProof} {nowNanos : Nat}
    {sessionID : RandomData identifierLength} {result : Except Failure (ServerFinished × Bytes)}
    {next : ServerHandshake} (sound : server.Sound) (length : token.value.length = tokenLength)
    (returned : server.receiveProof primitives token input nowNanos sessionID =
      (result, next, left)) :
    (∃ failure, result = .error failure ∧ next = server ∧ left = token) ∨
      ∃ finished key, result = .ok (finished, key) ∧ server.state = .awaitingProof ∧
        next = { server with state := .complete } ∧ server.Timely token nowNanos ∧
        token.consumed = false ∧ left = { token with consumed := true } := by
  unfold receiveProof at returned
  split at returned
  · rename_i failure checked
    obtain ⟨rfl, rfl, rfl⟩ := by simpa using returned
    exact .inl ⟨failure, rfl, rfl, rfl⟩
  · rename_i hello challenge consumed checked
    obtain ⟨awaiting, greeted, challenged, -⟩ := checkProof_eq_ok checked
    obtain ⟨timely, unused, rfl⟩ := checkProof_takes checked
    have valid := sound.hello hello greeted
    have valid' := sound.challenge challenge challenged
    rw [finish_of_valid length valid valid' sessionID.2] at returned
    obtain ⟨rfl, rfl, rfl⟩ := by simpa using returned
    exact .inr ⟨_, _, rfl, awaiting, rfl, timely, unused, rfl⟩

theorem receiveProof_refused {token left : OneTimeToken} {input : ClientProof} {nowNanos : Nat}
    {sessionID : RandomData identifierLength} {failure : Failure} {next : ServerHandshake}
    (sound : server.Sound) (length : token.value.length = tokenLength)
    (returned : server.receiveProof primitives token input nowNanos sessionID =
      (.error failure, next, left)) : next = server ∧ left = token := by
  obtain ⟨_, -, same, untaken⟩ | ⟨_, _, ok, -⟩ := receiveProof_cases sound length returned
  · exact ⟨same, untaken⟩
  · cases ok

theorem receiveProof_accepted {token left : OneTimeToken} {input : ClientProof} {nowNanos : Nat}
    {sessionID : RandomData identifierLength} {answer : ServerFinished × Bytes}
    {next : ServerHandshake} (sound : server.Sound) (length : token.value.length = tokenLength)
    (returned : server.receiveProof primitives token input nowNanos sessionID =
      (.ok answer, next, left)) :
    next = { server with state := .complete } ∧ server.Timely token nowNanos ∧
      token.consumed = false ∧ left = { token with consumed := true } := by
  obtain ⟨_, error, -⟩ | ⟨_, _, -, -, accepted⟩ := receiveProof_cases sound length returned
  · cases error
  · exact accepted

theorem Sound.complete (sound : server.Sound) : Sound { server with state := .complete } :=
  ⟨sound.serverID, sound.hello, sound.challenge⟩

end ServerHandshake

/-! ### Handshakes that share a token -/

/-- A `receiveProof` that returned. -/
structure Success where
  handshake : Nat
  nowNanos : Nat
  deriving Repr, DecidableEq

/-- A token with its handshakes, and the successes so far. -/
structure SharedToken where
  token : OneTimeToken
  handshakes : List ServerHandshake
  successes : List Success
  deriving Repr, DecidableEq

inductive Call where
  | create (serverID : Bytes) (nowNanos : Nat)
  | receiveHello (handshake : Nat) (input : Hello) (nowNanos : Nat)
      (serverNonce : RandomData nonceLength) (challengeID : RandomData identifierLength)
  | receiveProof (handshake : Nat) (input : ClientProof) (nowNanos : Nat)
      (sessionID : RandomData identifierLength)

/-- What a call returns. -/
inductive Reply where
  | created
  | challenge (challenge : Challenge)
  | finished (finished : ServerFinished) (sessionKey : Bytes)
  deriving Repr, DecidableEq

namespace SharedToken

def start (token : OneTimeToken) : SharedToken := ⟨token, [], []⟩

variable (primitives : Primitives) (shared : SharedToken)

/-- A call on one of the handshakes there are, with what it returns or throws. -/
def call : Call → Option (Except Failure Reply × SharedToken)
  | .create serverID nowNanos =>
      -- The one token there is has the number 0.
      match ServerHandshake.new 0 serverID nowNanos with
      | .error failure => some (.error failure, shared)
      | .ok server => some (.ok .created,
          { shared with handshakes := shared.handshakes ++ [server] })
  | .receiveHello handshake input nowNanos serverNonce challengeID =>
      shared.handshakes[handshake]?.map fun server =>
        match server.receiveHello input nowNanos serverNonce challengeID with
        | .error failure => (.error failure, shared)
        | .ok (challenge, next) => (.ok (.challenge challenge),
            { shared with handshakes := shared.handshakes.set handshake next })
  | .receiveProof handshake input nowNanos sessionID =>
      shared.handshakes[handshake]?.map fun server =>
        match server.receiveProof primitives shared.token input nowNanos sessionID with
        | (.error failure, next, left) => (.error failure,
            { shared with token := left, handshakes := shared.handshakes.set handshake next })
        | (.ok (finished, sessionKey), next, left) => (.ok (.finished finished sessionKey),
            { token := left
              handshakes := shared.handshakes.set handshake next
              successes := ⟨handshake, nowNanos⟩ :: shared.successes })

def step (call : Call) : Option SharedToken := (shared.call primitives call).map Prod.snd

variable {primitives shared}

/-- What holds of a token and its handshakes all along. -/
structure Holds (token : OneTimeToken) (shared : SharedToken) : Prop where
  value : shared.token.value = token.value
  created : shared.token.createdAtNanos = token.createdAtNanos
  sound : ∀ server ∈ shared.handshakes, server.Sound
  unused : shared.token.consumed = false → shared.successes = []
  once : shared.successes.length ≤ 1
  timely : ∀ success ∈ shared.successes, ∃ server,
    shared.handshakes[success.handshake]? = some server ∧ server.Timely token success.nowNanos

/-- The successes stay where a handshake goes on, as long as it stays the one that it is. -/
theorem timely_set {token : OneTimeToken} {handshakes : List ServerHandshake}
    {server next : ServerHandshake} {handshake : Nat} {success : Success}
    (here : handshakes[handshake]? = some server)
    (created : next.createdAtNanos = server.createdAtNanos)
    (timely : ∃ server, handshakes[success.handshake]? = some server ∧
      server.Timely token success.nowNanos) :
    ∃ server, (handshakes.set handshake next)[success.handshake]? = some server ∧
      server.Timely token success.nowNanos := by
  obtain ⟨other, there, timely⟩ := timely
  by_cases same : handshake = success.handshake
  · subst same
    obtain rfl := Option.some.inj (here.symm.trans there)
    obtain ⟨within, -⟩ := List.getElem?_eq_some_iff.mp here
    exact ⟨next, by simp [within], timely.token_created, timely.token_fresh,
      created ▸ timely.server_created, created ▸ timely.server_fresh⟩
  · exact ⟨other, by rw [List.getElem?_set_ne same, there], timely⟩

theorem sound_set {handshakes : List ServerHandshake} {next : ServerHandshake} {handshake : Nat}
    (sound : ∀ server ∈ handshakes, server.Sound) (sound' : next.Sound) :
    ∀ server ∈ handshakes.set handshake next, server.Sound := by
  intro server inside
  rcases List.mem_or_eq_of_mem_set inside with before | rfl
  · exact sound server before
  · exact sound'

/-- What a call can do: nothing, if it throws; make a handshake, take one on, or bring one to
    its end with the token. -/
inductive Outcome (shared : SharedToken) : Except Failure Reply → SharedToken → Prop where
  | thrown (failure : Failure) : Outcome shared (.error failure) shared
  | created {server : ServerHandshake} (sound : server.Sound) :
      Outcome shared (.ok .created) { shared with handshakes := shared.handshakes ++ [server] }
  | greeted {server next : ServerHandshake} {handshake : Nat} {challenge : Challenge}
      (here : shared.handshakes[handshake]? = some server) (sound : next.Sound)
      (created : next.createdAtNanos = server.createdAtNanos) :
      Outcome shared (.ok (.challenge challenge))
        { shared with handshakes := shared.handshakes.set handshake next }
  | finished {server next : ServerHandshake} {handshake nowNanos : Nat} {finished : ServerFinished}
      {sessionKey : Bytes} (here : shared.handshakes[handshake]? = some server)
      (sound : next.Sound) (created : next.createdAtNanos = server.createdAtNanos)
      (timely : server.Timely shared.token nowNanos) (unused : shared.token.consumed = false) :
      Outcome shared (.ok (.finished finished sessionKey))
        { token := { shared.token with consumed := true }
          handshakes := shared.handshakes.set handshake next
          successes := ⟨handshake, nowNanos⟩ :: shared.successes }

theorem outcome_of_call {call : Call} {result : Except Failure Reply} {next : SharedToken}
    (sound : ∀ server ∈ shared.handshakes, server.Sound)
    (length : shared.token.value.length = tokenLength)
    (called : shared.call primitives call = some (result, next)) :
    Outcome shared result next := by
  cases call with
  | create serverID nowNanos =>
      simp only [SharedToken.call] at called
      split at called
      · rename_i failure _
        obtain ⟨rfl, rfl⟩ := Prod.mk.inj (Option.some.inj called)
        exact .thrown failure
      · rename_i server made
        obtain ⟨rfl, rfl⟩ := Prod.mk.inj (Option.some.inj called)
        exact .created (ServerHandshake.new_sound made)
  | receiveHello handshake input nowNanos serverNonce challengeID =>
      simp only [SharedToken.call] at called
      obtain ⟨server, here, called⟩ := Option.map_eq_some_iff.mp called
      have kept := sound server (List.mem_of_getElem? here)
      split at called
      · rename_i failure _
        obtain ⟨rfl, rfl⟩ := Prod.mk.inj called
        exact .thrown failure
      · rename_i challenge server' returned
        obtain ⟨rfl, rfl⟩ := Prod.mk.inj called
        have kept' := ServerHandshake.receiveHello_sound kept returned
        obtain ⟨-, rfl⟩ := ServerHandshake.receiveHello_eq_ok returned
        exact .greeted here kept' rfl
  | receiveProof handshake input nowNanos sessionID =>
      simp only [SharedToken.call] at called
      obtain ⟨server, here, called⟩ := Option.map_eq_some_iff.mp called
      have kept := sound server (List.mem_of_getElem? here)
      split at called
      · rename_i failure server' left returned
        obtain ⟨rfl, rfl⟩ := ServerHandshake.receiveProof_refused kept length returned
        obtain ⟨rfl, rfl⟩ := Prod.mk.inj called
        obtain ⟨within, rfl⟩ := List.getElem?_eq_some_iff.mp here
        rw [List.set_getElem_self]
        exact .thrown failure
      · rename_i finished sessionKey server' left returned
        obtain ⟨rfl, timely, unused, rfl⟩ :=
          ServerHandshake.receiveProof_accepted kept length returned
        obtain ⟨rfl, rfl⟩ := Prod.mk.inj called
        exact .finished here kept.complete rfl timely unused

theorem Holds.of_outcome {token : OneTimeToken} {result : Except Failure Reply}
    {next : SharedToken} (holds : Holds token shared) (outcome : Outcome shared result next) :
    Holds token next := by
  cases outcome with
  | thrown failure => exact holds
  | created sound =>
      refine { holds with sound := ?_, timely := ?_ }
      · intro server inside
        rcases List.mem_append.mp inside with before | last
        · exact holds.sound server before
        · obtain rfl := List.mem_singleton.mp last
          exact sound
      · intro success inside
        obtain ⟨server, here, timely⟩ := holds.timely success inside
        obtain ⟨within, -⟩ := List.getElem?_eq_some_iff.mp here
        exact ⟨server, by rw [List.getElem?_append_left within, here], timely⟩
  | greeted here sound created =>
      refine { holds with sound := sound_set holds.sound sound, timely := ?_ }
      intro success inside
      exact timely_set here created (holds.timely success inside)
  | finished here sound created timely unused =>
      have none := holds.unused unused
      refine ⟨holds.value, holds.created, sound_set holds.sound sound, nofun, ?_, ?_⟩
      · simp [none]
      · intro success inside
        rw [none, List.mem_singleton] at inside
        subst inside
        exact timely_set here created ⟨_, here, timely.of_created holds.created⟩

theorem Holds.start {token : OneTimeToken} : Holds token (start token) :=
  ⟨rfl, rfl, nofun, fun _ => rfl, Nat.zero_le 1, nofun⟩

theorem Holds.call {token : OneTimeToken} {call : Call} {result : Except Failure Reply}
    {next : SharedToken} (holds : Holds token shared) (length : token.value.length = tokenLength)
    (called : shared.call primitives call = some (result, next)) : Outcome shared result next :=
  outcome_of_call holds.sound (holds.value ▸ length) called

theorem Holds.run {token : OneTimeToken} {calls : List Call} {final : SharedToken}
    (length : token.value.length = tokenLength)
    (ran : Machine.run (step primitives) (SharedToken.start token) calls = some final) :
    Holds token final := by
  apply Machine.run_preserves _ Holds.start ran
  intro shared call next holds stepped
  obtain ⟨⟨result, next'⟩, called, rfl⟩ := Option.map_eq_some_iff.mp stepped
  exact holds.of_outcome (holds.call length called)

/-- However the calls of any number of handshakes follow each other: at most one proof is ever
    accepted, in time for the token and for its handshake, and a call that throws changes
    nothing. -/
theorem token_used_once {value : Bytes} {createdAtNanos : Nat} {token : OneTimeToken}
    (made : OneTimeToken.new value createdAtNanos = .ok token) {calls : List Call}
    {final : SharedToken}
    (ran : Machine.run (step primitives) (SharedToken.start token) calls = some final) :
    final.successes.length ≤ 1 ∧
      (∀ success ∈ final.successes, ∃ server,
        final.handshakes[success.handshake]? = some server ∧
          server.Timely token success.nowNanos) ∧
      ∀ call failure next,
        final.call primitives call = some (.error failure, next) → next = final := by
  obtain ⟨length, rfl⟩ := OneTimeToken.new_eq_ok.mp made
  have holds := Holds.run length ran
  refine ⟨holds.once, holds.timely, ?_⟩
  intro call failure next thrown
  cases holds.call length thrown with
  | thrown => rfl

/-- Two handshakes get as far as the proof, and both try it. -/
def rivals : List Call :=
  [.create Sample.challenge.serverID 0, .create Sample.challenge.serverID 1,
    .receiveHello 0 Sample.hello 1 ⟨Sample.challenge.serverNonce, Sample.length_serverNonce⟩
      ⟨Sample.challenge.challengeID, Sample.length_challengeID⟩,
    .receiveHello 1 Sample.hello 1 ⟨Sample.challenge.serverNonce, Sample.length_serverNonce⟩
      ⟨Sample.challenge.challengeID, Sample.length_challengeID⟩,
    .receiveProof 1 ⟨Sample.proof⟩ 2 ⟨Sample.sessionID, Sample.length_sessionID⟩,
    .receiveProof 0 ⟨Sample.proof⟩ 3 ⟨Sample.sessionID, Sample.length_sessionID⟩]

theorem token_used_once_rivals :
    ∃ final, Machine.run (step Sample.cryptoKit) (start ⟨Sample.token, 0, false⟩) rivals =
        some final ∧ final.successes = [⟨1, 2⟩] ∧ final.successes.length ≤ 1 ∧
      ∀ call failure next,
        final.call Sample.cryptoKit call = some (.error failure, next) → next = final := by
  have runs : (Machine.run (step Sample.cryptoKit) (start ⟨Sample.token, 0, false⟩) rivals).map
      successes = some [⟨1, 2⟩] := by
    decide +kernel
  obtain ⟨final, ran, accepted⟩ := Option.map_eq_some_iff.mp runs
  have made : OneTimeToken.new Sample.token 0 = .ok ⟨Sample.token, 0, false⟩ := by decide +kernel
  have once := token_used_once made ran
  exact ⟨final, ran, accepted, once.1, once.2.2⟩

end SharedToken

end QuadControl.Apple.Diagnostic
