import QuadControl.Apple.Network

/-! # Agreement of the handshake

What has been done stays true of the handshakes that did it. A tag that is found valid was
computed by one of them, over a transcript that tells its operation and its fields, so
that the two sides of a handshake agree on all of it.
-/

namespace QuadControl.Apple.Diagnostic

open Lib Lib.Utf8

variable {primitives : Primitives}

/-- What a note says of the handshake that did it. -/
def Note.Holds (primitives : Primitives) (net : Network) : Note → Prop
  | .proved i token hello challenge proof =>
      (net.clients i).token = token ∧ (net.clients i).hello = hello ∧
        ∃ transcript, Transcript.clientProof hello challenge = .ok transcript ∧
          proof = primitives.hmac token transcript
  | .completed i _ session =>
      (net.servers i).state = .complete ∧ (net.servers i).hello = some session.hello ∧
        (net.servers i).challenge = some session.challenge ∧
        (net.tokenOf i).value = session.token ∧
        session.key = primitives.derive session.derivation
  | .accepted _ _ => True
  | .tagged _ transcript =>
      Transcript.HasLabel transcript "client-heartbeat".toList ∨
        Transcript.HasLabel transcript "server-ack".toList

/-- What no call takes back. -/
structure Network.Keeps (net next : Network) : Prop where
  value : ∀ i, (next.tokens i).value = (net.tokens i).value
  client : ∀ i, (next.clients i).token = (net.clients i).token ∧
    (next.clients i).hello = (net.clients i).hello
  reference : ∀ i, (next.servers i).token = (net.servers i).token
  complete : ∀ i, (net.servers i).state = .complete → (next.servers i).state = .complete ∧
    (next.servers i).hello = (net.servers i).hello ∧
    (next.servers i).challenge = (net.servers i).challenge

namespace Network

theorem Keeps.refl (net : Network) : net.Keeps net where
  value := fun _ => rfl
  client := fun _ => ⟨rfl, rfl⟩
  reference := fun _ => rfl
  complete := fun _ complete => ⟨complete, rfl, rfl⟩

theorem Keeps.trans {net next last : Network} (first : net.Keeps next) (second : next.Keeps last) :
    net.Keeps last where
  value := fun i => (second.value i).trans (first.value i)
  client := fun i =>
    ⟨(second.client i).1.trans (first.client i).1, (second.client i).2.trans (first.client i).2⟩
  reference := fun i => (second.reference i).trans (first.reference i)
  complete := by
    intro i complete
    obtain ⟨state, hello, challenge⟩ := first.complete i complete
    obtain ⟨state', hello', challenge'⟩ := second.complete i state
    exact ⟨state', hello'.trans hello, challenge'.trans challenge⟩

theorem Keeps.note {net next : Network} (keeps : net.Keeps next) (done : Option Note) :
    net.Keeps (next.note done) :=
  ⟨keeps.value, keeps.client, keeps.reference, keeps.complete⟩

theorem Keeps.setClient (net : Network) {i : Nat} {client : ClientHandshake}
    (token : client.token = (net.clients i).token) (hello : client.hello = (net.clients i).hello) :
    net.Keeps (net.setClient i client) := by
  refine ⟨fun _ => rfl, ?_, fun _ => rfl, fun _ complete => ⟨complete, rfl, rfl⟩⟩
  intro j
  by_cases same : j = i
  · subst same
    simp only [Network.setClient, Function.update_self]
    exact ⟨token, hello⟩
  · simp only [Network.setClient, Function.update_of_ne same]
    exact ⟨trivial, trivial⟩

theorem Keeps.setServer (net : Network) {i : Nat} {server : ServerHandshake}
    (token : server.token = (net.servers i).token)
    (complete : (net.servers i).state = .complete → server.state = .complete ∧
      server.hello = (net.servers i).hello ∧ server.challenge = (net.servers i).challenge) :
    net.Keeps (net.setServer i server) := by
  refine ⟨fun _ => rfl, fun _ => ⟨rfl, rfl⟩, ?_, ?_⟩
  all_goals
    intro j
    by_cases same : j = i
  · subst same
    simpa only [Network.setServer, Function.update_self] using token
  · simp only [Network.setServer, Function.update_of_ne same]
  · subst same
    simpa only [Network.setServer, Function.update_self] using complete
  · intro finished
    simpa only [Network.setServer, Function.update_of_ne same] using ⟨finished, trivial, trivial⟩

theorem Keeps.setTokenOf (net : Network) {i : Nat} {token : OneTimeToken}
    (value : token.value = (net.tokenOf i).value) : net.Keeps (net.setTokenOf i token) := by
  refine ⟨?_, fun _ => ⟨rfl, rfl⟩, fun _ => rfl, fun _ complete => ⟨complete, rfl, rfl⟩⟩
  intro j
  by_cases same : j = (net.servers i).token
  · subst same
    simp only [Network.setTokenOf, Function.update_self]
    exact value
  · simp only [Network.setTokenOf, Function.update_of_ne same]

theorem Keeps.tokenOf {net next : Network} (keeps : net.Keeps next) (i : Nat) :
    (next.tokenOf i).value = (net.tokenOf i).value := by
  unfold Network.tokenOf
  rw [keeps.reference]
  exact keeps.value _

theorem Keeps.holds {net next : Network} (keeps : net.Keeps next) {note : Note}
    (holds : note.Holds primitives net) : note.Holds primitives next := by
  cases note with
  | proved i token hello challenge proof =>
      obtain ⟨held, greeted, made⟩ := holds
      exact ⟨(keeps.client i).1.trans held, (keeps.client i).2.trans greeted, made⟩
  | completed i proof session =>
      obtain ⟨complete, hello, challenge, value, key⟩ := holds
      obtain ⟨complete', hello', challenge'⟩ := keeps.complete i complete
      exact ⟨complete', hello'.trans hello, challenge'.trans challenge,
        (keeps.tokenOf i).trans value, key⟩
  | accepted => trivial
  | tagged key transcript => exact holds

/-- A call keeps what was done, and what it does itself is as it is noted. -/
structure Extends (primitives : Primitives) (net next : Network) : Prop where
  keeps : net.Keeps next
  done : next.history = net.history ∨
    ∃ note, next.history = note :: net.history ∧ note.Holds primitives next

theorem Extends.quiet {net next : Network} (keeps : net.Keeps next)
    (same : next.history = net.history) : Extends primitives net next :=
  ⟨keeps, .inl same⟩

theorem extends_tagWith (net : Network) (key : Bytes) {label expected status : Text}
    {sessionID : Bytes} {sequence : UInt64}
    (session : label = "client-heartbeat".toList ∨ label = "server-ack".toList) :
    Extends primitives net (net.tagWith key
      (Transcript.sessionTranscript label expected sessionID sequence status)) := by
  unfold tagWith
  split
  · rename_i transcript made
    refine ⟨(Keeps.refl net).note _, .inr ⟨_, rfl, ?_⟩⟩
    have labelled := Transcript.hasLabel_session made
    rcases session with rfl | rfl
    · exact .inl labelled
    · exact .inr labelled
  · exact .quiet (Keeps.refl net) rfl

theorem extends_receiveChallenge (net : Network) (i : Nat) (challenge : Challenge) :
    Extends primitives net (net.receiveChallenge primitives i challenge) := by
  unfold receiveChallenge
  dsimp only
  split
  · rename_i message next returned
    obtain ⟨token, hello⟩ := ClientHandshake.receiveChallenge_keeps returned
    have keeps := Keeps.setClient net token hello
    refine ⟨keeps.note _, .inr ⟨_, rfl, (keeps.client i).1, (keeps.client i).2, ?_⟩⟩
    exact ClientHandshake.receiveChallenge_proof returned
  · rename_i failure next returned
    obtain ⟨token, hello⟩ := ClientHandshake.receiveChallenge_keeps returned
    exact .quiet (Keeps.setClient net token hello) rfl

theorem extends_receiveFinished (net : Network) (i : Nat) (finished : ServerFinished) :
    Extends primitives net (net.receiveFinished primitives i finished) := by
  unfold receiveFinished
  split
  · rename_i sessionID key next returned
    obtain ⟨-, rfl, -, challenge, challenged, -⟩ := ClientHandshake.receiveFinished_eq_ok returned
    have keeps : net.Keeps (net.setClient i { net.clients i with state := .complete }) :=
      Keeps.setClient net rfl rfl
    have noted : net.acceptance i sessionID key = some (.accepted i
        ⟨(net.clients i).token, (net.clients i).hello, challenge, sessionID, key⟩) := by
      simp only [acceptance, challenged]
      rfl
    rw [noted]
    exact ⟨keeps.note _, .inr ⟨_, rfl, trivial⟩⟩
  · exact .quiet (Keeps.refl net) rfl

theorem completion_eq {net : Network} {i : Nat} {proof key : Bytes} {finished : ServerFinished}
    {hello : Hello} {challenge : Challenge} (greeted : (net.servers i).hello = some hello)
    (challenged : (net.servers i).challenge = some challenge) :
    net.completion i proof finished key = some (.completed i proof
      ⟨(net.tokenOf i).value, hello, challenge, finished.sessionID, key⟩) := by
  simp only [completion, greeted, challenged]
  rfl

theorem Keeps.afterProof {net : Network} {i : Nat} {input : ClientProof} {nowNanos : Nat}
    {sessionID : RandomData Constants.identifierLength}
    {result : Except Failure (ServerFinished × Bytes)} {next : ServerHandshake}
    {left : OneTimeToken}
    (returned : (net.servers i).receiveProof primitives (net.tokenOf i) input nowNanos sessionID =
      (result, next, left)) : net.Keeps ((net.setTokenOf i left).setServer i next) := by
  obtain ⟨value, moved⟩ := ServerHandshake.receiveProof_keeps returned
  apply (Keeps.setTokenOf net value).trans
  apply Keeps.setServer
  · rcases moved with rfl | ⟨-, rfl⟩
    · rfl
    · rfl
  · intro complete
    rcases moved with rfl | ⟨awaiting, rfl⟩
    · exact ⟨complete, rfl, rfl⟩
    · exact absurd complete awaiting

theorem extends_receiveProof (net : Network) (i : Nat) (input : ClientProof) (nowNanos : Nat)
    (sessionID : RandomData Constants.identifierLength) :
    Extends primitives net (net.receiveProof primitives i input nowNanos sessionID) := by
  unfold receiveProof
  split
  · rename_i finished key next left returned
    have keeps := Keeps.afterProof returned
    obtain ⟨rfl, hello, challenge, greeted, challenged, derived, -⟩ :=
      ServerHandshake.receiveProof_eq_ok returned
    rw [completion_eq greeted challenged]
    refine ⟨keeps.note _, .inr ⟨_, rfl, ?_⟩⟩
    have value := keeps.tokenOf i
    simp only [Note.Holds, note, setServer, Function.update_self]
    exact ⟨trivial, greeted, challenged, value, derived⟩
  · rename_i failure next left returned
    exact .quiet (Keeps.afterProof returned) rfl

theorem extends_receive (net : Network) (delivery : Delivery) :
    Extends primitives net (net.receive primitives delivery) := by
  cases delivery with
  | hello i input nowNanos serverNonce challengeID =>
      simp only [receive]
      split
      · rename_i challenge next returned
        obtain ⟨fresh, rfl⟩ := ServerHandshake.receiveHello_eq_ok returned
        refine .quiet (Keeps.setServer net rfl ?_) rfl
        intro complete
        rw [complete] at fresh
        cases fresh
      · exact .quiet (Keeps.refl net) rfl
  | challenge i challenge => exact net.extends_receiveChallenge i challenge
  | proof i input nowNanos sessionID => exact net.extends_receiveProof i input nowNanos sessionID
  | finished i finished => exact net.extends_receiveFinished i finished
  | heartbeat key sessionID sequence status => exact net.extends_tagWith key (.inl rfl)
  | ack key sessionID sequence status => exact net.extends_tagWith key (.inr rfl)

/-- Everything noted is as it is noted. -/
def Sound (primitives : Primitives) (net : Network) : Prop :=
  ∀ note ∈ net.history, note.Holds primitives net

theorem Sound.receive {net : Network} (sound : net.Sound primitives) (delivery : Delivery) :
    (net.receive primitives delivery).Sound primitives := by
  have extended : Extends primitives net (net.receive primitives delivery) :=
    net.extends_receive delivery
  obtain ⟨keeps, same | ⟨note, added, holds⟩⟩ := extended
  · intro earlier inside
    rw [same] at inside
    exact keeps.holds (sound earlier inside)
  · intro earlier inside
    rw [added] at inside
    rcases List.mem_cons.mp inside with rfl | before
    · exact holds
    · exact keeps.holds (sound earlier before)

end Network

/-! ### Who computed a tag -/

/-- What tells a label tells it from the others of the handshake and of a session. -/
theorem client_ne_server {transcript : Bytes}
    (client : Transcript.HasLabel transcript "client-proof".toList)
    (server : Transcript.HasLabel transcript "server-finished".toList) : False := by
  have same := Transcript.HasLabel.inj (by decide) (by decide) client server
  exact absurd same (by decide)

theorem Note.session_ne {transcript : Bytes} {label : Text}
    (handshake : label = "client-proof".toList ∨ label = "server-finished".toList)
    (labelled : Transcript.HasLabel transcript label)
    (session : Transcript.HasLabel transcript "client-heartbeat".toList ∨
      Transcript.HasLabel transcript "server-ack".toList) : False := by
  rcases handshake with rfl | rfl
  all_goals
    rcases session with other | other
    all_goals
      have same := Transcript.HasLabel.inj (by decide) (by decide) labelled other
      exact absurd same (by decide)

theorem tag_of_ok {key : Bytes} {made : Except Failure Bytes} {pair : Bytes × Bytes}
    (inside : pair ∈ made.toOption.map (key, ·)) : pair.1 = key ∧ made = .ok pair.2 := by
  obtain ⟨transcript', given, rfl⟩ := Option.map_eq_some_iff.mp inside
  exact ⟨rfl, Except.toOption_eq_some.mp given⟩

namespace Network

variable {net : Network}

/-- A proof's transcript was authenticated by a client, for the handshake it tells. -/
theorem Sound.prover (sound : net.Sound primitives) {note : Note} (inside : note ∈ net.history)
    {key transcript : Bytes} (tagged : (key, transcript) ∈ note.tag) {hello : Hello}
    {challenge : Challenge} (made : Transcript.clientProof hello challenge = .ok transcript) :
    ∃ i, note = .proved i key hello challenge (primitives.hmac key transcript) := by
  have holds := sound note inside
  have labelled := Transcript.hasLabel_clientProof made
  cases note with
  | proved i token hello' challenge' proof =>
      obtain ⟨rfl, made'⟩ := tag_of_ok tagged
      obtain ⟨-, -, transcript', proved, rfl⟩ := holds
      obtain ⟨rfl, rfl⟩ := Transcript.clientProof_inj made made'
      obtain rfl := Except.ok.inj (proved.symm.trans made)
      exact ⟨i, rfl⟩
  | completed i proof session =>
      have finished := Transcript.hasLabel_serverFinished (tag_of_ok tagged).2
      exact absurd finished fun server => client_ne_server labelled server
  | accepted i session => cases tagged
  | tagged key' transcript' =>
      obtain ⟨rfl, rfl⟩ := Prod.mk.inj (Option.some.inj tagged)
      exact absurd holds fun session => Note.session_ne (.inl rfl) labelled session

/-- A server's transcript was authenticated by a server, for the session it tells. -/
theorem Sound.finisher (sound : net.Sound primitives) {note : Note} (inside : note ∈ net.history)
    {key transcript : Bytes} (tagged : (key, transcript) ∈ note.tag) {hello : Hello}
    {challenge : Challenge} {sessionID : Bytes}
    (made : Transcript.serverFinished hello challenge sessionID = .ok transcript) :
    ∃ i proof token, note = .completed i proof ⟨token, hello, challenge, sessionID, key⟩ := by
  have holds := sound note inside
  have labelled := Transcript.hasLabel_serverFinished made
  cases note with
  | proved i token hello' challenge' proof =>
      have proved := Transcript.hasLabel_clientProof (tag_of_ok tagged).2
      exact absurd labelled fun server => client_ne_server proved server
  | completed i proof session =>
      obtain ⟨rfl, made'⟩ := tag_of_ok tagged
      obtain ⟨rfl, rfl, rfl⟩ := Transcript.serverFinished_inj made made'
      exact ⟨i, proof, session.token, rfl⟩
  | accepted i session => cases tagged
  | tagged key' transcript' =>
      obtain ⟨rfl, rfl⟩ := Prod.mk.inj (Option.some.inj tagged)
      exact absurd holds fun session => Note.session_ne (.inr rfl) labelled session

/-- Some server has completed the handshake of a client, with this session and this key. -/
def ServerAgrees (net : Network) (i : Nat) (sessionID key : Bytes) : Prop :=
  ∃ challenge, (net.clients i).challenge = some challenge ∧ ∃ j proof,
    (net.servers j).state = .complete ∧ (net.servers j).hello = some (net.clients i).hello ∧
      (net.servers j).challenge = some challenge ∧
      (net.tokenOf j).value = (net.clients i).token ∧
      .completed j proof ⟨(net.clients i).token, (net.clients i).hello, challenge, sessionID, key⟩ ∈
        net.history

/-- Some client has computed a proof for what a server has received and issued. -/
def ClientProved (net : Network) (i : Nat) (proof : Bytes) : Prop :=
  ∃ hello challenge, (net.servers i).hello = some hello ∧
    (net.servers i).challenge = some challenge ∧ ∃ j,
      (net.clients j).token = (net.tokenOf i).value ∧ (net.clients j).hello = hello ∧
        .proved j (net.tokenOf i).value hello challenge proof ∈ net.history

theorem Sound.serverAgrees (sound : net.Sound primitives) {exposed : Bytes → Prop} {i : Nat}
    {finished : ServerFinished} {sessionID key : Bytes} {next : ClientHandshake}
    (returned : (net.clients i).receiveFinished primitives finished = .ok ((sessionID, key), next))
    (ideal : ∀ note, net.acceptance i sessionID key = some note →
      Ideal primitives exposed note net.history)
    (unknown : ¬ exposed (net.clients i).token) : net.ServerAgrees i sessionID key := by
  obtain ⟨rfl, -, -, challenge, challenged, derived, transcript, made, -⟩ :=
    ClientHandshake.receiveFinished_eq_ok returned
  have noted : net.acceptance i finished.sessionID key = some (.accepted i
      ⟨(net.clients i).token, (net.clients i).hello, challenge, finished.sessionID, key⟩) := by
    simp only [acceptance, challenged]
    rfl
  have ideal := ideal _ noted
  -- The key is as unknown as the token, so that the tag comes from a note.
  have unknownKey : ¬ exposed key := by
    intro exposedKey
    rw [derived] at exposedKey
    exact unknown (ideal.secret _ (.head _) exposedKey)
  have verified : (key, transcript) ∈ (Note.accepted i
      ⟨(net.clients i).token, (net.clients i).hello, challenge, finished.sessionID, key⟩).verified := by
    simp only [Note.verified, made]
    rfl
  obtain ⟨note, inside, tagged⟩ := ideal.unforgeable _ verified unknownKey
  obtain ⟨j, proof, token, rfl⟩ := sound.finisher inside tagged made
  obtain ⟨complete, hello, challenge', value, derived'⟩ := sound _ inside
  -- One key has one derivation, so that the server's token is the client's.
  have same := ideal.collisionFree _ (.head _) _
    (.tail _ (List.mem_filterMap.mpr ⟨_, inside, rfl⟩)) (derived.symm.trans derived')
  obtain rfl : (net.clients i).token = token := congrArg Derivation.token same
  exact ⟨challenge, challenged, j, proof, complete, hello, challenge', value, inside⟩

theorem Sound.clientProved (sound : net.Sound primitives) {exposed : Bytes → Prop} {i : Nat}
    {input : ClientProof} {nowNanos : Nat} {sessionID : RandomData Constants.identifierLength}
    {finished : ServerFinished} {key : Bytes} {next : ServerHandshake} {left : OneTimeToken}
    (returned : (net.servers i).receiveProof primitives (net.tokenOf i) input nowNanos sessionID =
      (.ok (finished, key), next, left))
    (ideal : ∀ note, net.completion i input.proof finished key = some note →
      Ideal primitives exposed note net.history)
    (unknown : ¬ exposed (net.tokenOf i).value) : net.ClientProved i input.proof := by
  obtain ⟨-, hello, challenge, greeted, challenged, -, transcript, made, proof⟩ :=
    ServerHandshake.receiveProof_eq_ok returned
  have ideal := ideal _ (completion_eq greeted challenged)
  have verified : ((net.tokenOf i).value, transcript) ∈ (Note.completed i input.proof
      ⟨(net.tokenOf i).value, hello, challenge, finished.sessionID, key⟩).verified := by
    simp only [Note.verified, made]
    rfl
  obtain ⟨note, inside, tagged⟩ := ideal.unforgeable _ verified unknown
  obtain ⟨j, rfl⟩ := sound.prover inside tagged made
  obtain ⟨token, hello', -⟩ := sound _ inside
  rw [← proof] at inside
  exact ⟨hello, challenge, greeted, challenged, j, token, hello', inside⟩

end Network

/-- Whatever the adversary delivers: who does not have the token cannot make a client accept
    a session that no server has completed with it, nor a server a proof that no client has
    computed for it. -/
theorem handshake_agreement (primitives : Primitives) (exposed : Bytes → Prop)
    (tokens : Nat → OneTimeToken) (clients : Nat → ClientHandshake)
    (servers : Nat → ServerHandshake) (deliveries : List Delivery) (net : Network)
    (ran : Machine.run (Network.step primitives) (.start tokens clients servers) deliveries =
      some net) :
    (∀ i finished sessionID key next,
      (net.clients i).receiveFinished primitives finished = .ok ((sessionID, key), next) →
      (∀ note, net.acceptance i sessionID key = some note →
        Ideal primitives exposed note net.history) →
      ¬ exposed (net.clients i).token → net.ServerAgrees i sessionID key) ∧
    (∀ i input nowNanos sessionID finished key next left,
      (net.servers i).receiveProof primitives (net.tokenOf i) input nowNanos sessionID =
        (.ok (finished, key), next, left) →
      (∀ note, net.completion i input.proof finished key = some note →
        Ideal primitives exposed note net.history) →
      ¬ exposed (net.tokenOf i).value → net.ClientProved i input.proof) := by
  have sound : net.Sound primitives := by
    refine Machine.run_preserves ?_ ?_ ran
    · intro before delivery after sound stepped
      obtain rfl := Option.some.inj stepped
      exact Network.Sound.receive sound delivery
    · intro note inside
      cases inside
  constructor
  · intro i finished sessionID key next returned ideal unknown
    exact sound.serverAgrees returned ideal unknown
  · intro i input nowNanos sessionID finished key next left returned ideal unknown
    exact sound.clientProved returned ideal unknown

/-! ### A handshake -/

namespace Sample

/-- Server 3 and client 5 of as many as you like, with one token. -/
def start : Network :=
  .start (fun _ => ⟨token, 0, false⟩) (fun _ => ⟨hello, token, .awaitingChallenge, none⟩)
    (fun _ => ⟨0, challenge.serverID, 0, .awaitingHello, none, none⟩)

/-- The messages up to the proof. -/
def opening : List Delivery :=
  [.hello 3 hello 1 ⟨challenge.serverNonce, length_serverNonce⟩
      ⟨challenge.challengeID, length_challengeID⟩,
    .challenge 5 challenge]

/-- The proof is delivered to the server. -/
def proving : Delivery := .proof 3 ⟨proof⟩ 2 ⟨sessionID, length_sessionID⟩

/-- Where the server takes the proof, and where the client takes the answer. -/
def opened : Network := opening.foldl (Network.receive cryptoKit) start

def finishing : Network := (opening ++ [proving]).foldl (Network.receive cryptoKit) start

def session : Session := ⟨token, hello, challenge, sessionID, key⟩

/-- The adversary has a key of its own. -/
def exposed (key : Bytes) : Prop := key = List.replicate 32 0

instance : DecidablePred exposed := fun _ => decEq _ _

def proved : Note := .proved 5 token hello challenge proof

/-- The only derivation is that of the session. -/
theorem ideal_of_derivation {next : Note} {history : List Note}
    (unforgeable : ∀ pair ∈ next.verified, ¬ exposed pair.1 → ∃ note ∈ history, pair ∈ note.tag)
    (only : ∀ one ∈ (next :: history).filterMap Note.derivation, one = session.derivation) :
    Ideal cryptoKit exposed next history where
  unforgeable := unforgeable
  collisionFree := fun one inside other inside' _ => (only one inside).trans (only other inside').symm
  secret := by
    intro one inside known
    obtain rfl := only one inside
    exact absurd known (by decide +kernel)

theorem ideal_completed : Ideal cryptoKit exposed (.completed 3 proof session) [proved] := by
  apply ideal_of_derivation
  · intro pair verified _
    exact ⟨proved, .head _, verified⟩
  · intro one inside
    exact List.mem_singleton.mp inside

theorem ideal_accepted :
    Ideal cryptoKit exposed (.accepted 5 session) [.completed 3 proof session, proved] := by
  apply ideal_of_derivation
  · intro pair verified _
    exact ⟨_, .head _, verified⟩
  · intro one inside
    rcases List.mem_cons.mp inside with rfl | again
    · rfl
    · exact List.mem_singleton.mp again

end Sample

open Sample in
/-- The handshake of the golden vectors: the server takes the client's proof, and the client
    what the server answers. -/
theorem handshake_agreement_sample :
    opened.ClientProved 3 proof ∧ finishing.ServerAgrees 5 sessionID key := by
  constructor
  · apply (handshake_agreement cryptoKit exposed _ _ _ opening opened
      (Network.run_step cryptoKit start opening)).2 3 ⟨proof⟩ 2
      ⟨sessionID, rfl⟩ ⟨sessionID, finish⟩ key
      ⟨0, challenge.serverID, 0, .complete, some hello, some challenge⟩ ⟨token, 0, true⟩
    · decide +kernel
    · intro note noted
      have same : opened.completion 3 proof ⟨sessionID, finish⟩ key =
          some (.completed 3 proof session) := by decide +kernel
      have history : opened.history = [proved] := by decide +kernel
      obtain rfl := Option.some.inj (same.symm.trans noted)
      rw [history]
      exact ideal_completed
    · decide +kernel
  · apply (handshake_agreement cryptoKit exposed _ _ _ (opening ++ [proving]) finishing
      (Network.run_step cryptoKit start _)).1 5
      ⟨sessionID, finish⟩ sessionID key ⟨hello, token, .complete, some challenge⟩
    · decide +kernel
    · intro note noted
      have same : finishing.acceptance 5 sessionID key = some (.accepted 5 session) := by
        decide +kernel
      have history : finishing.history = [.completed 3 proof session, proved] := by
        decide +kernel
      obtain rfl := Option.some.inj (same.symm.trans noted)
      rw [history]
      exact ideal_accepted
    · decide +kernel

end QuadControl.Apple.Diagnostic
