import QuadControl.Apple.ServerRuns

/-! # The events of a connection

What a server tells of a connection: that it was accepted, then perhaps that it was
authenticated and each of its heartbeats, and at last that it was closed. What comes late
to a connection that is closed tells nothing more.
-/

namespace QuadControl.Apple.Diagnostic

open Lib Lib.Utf8 Constants

/-! ### What a history tells -/

section History

variable {Id : Type}

def ServerEvent.connectionID : ServerEvent Id → Id
  | .connectionAccepted connectionID => connectionID
  | .authenticated connectionID => connectionID
  | .heartbeat connectionID _ => connectionID
  | .connectionClosed connectionID _ => connectionID

def Record.connectionID : Record Id → Id
  | .received connectionID _ => connectionID
  | .sent connectionID _ => connectionID
  | .emitted event => event.connectionID

variable [DecidableEq Id]

def Record.tells (connectionID : Id) : Record Id → Option (ServerEvent Id)
  | .received _ _ => none
  | .sent _ _ => none
  | .emitted event => if event.connectionID = connectionID then some event else none

/-- The events of a connection, the first one first. -/
def eventsOf (connectionID : Id) (history : List (Record Id)) : List (ServerEvent Id) :=
  (history.filterMap (Record.tells connectionID)).reverse

theorem eventsOf_silent {connectionID : Id} {entry : Record Id}
    (silent : entry.tells connectionID = none) (history : List (Record Id)) :
    eventsOf connectionID (entry :: history) = eventsOf connectionID history := by
  rw [eventsOf, List.filterMap_cons_none silent, eventsOf]

theorem eventsOf_emitted (event : ServerEvent Id) (history : List (Record Id)) :
    eventsOf event.connectionID (.emitted event :: history) =
      eventsOf event.connectionID history ++ [event] := by
  have told : (Record.emitted event).tells event.connectionID = some event := if_pos rfl
  rw [eventsOf, List.filterMap_cons_some told, List.reverse_cons, eventsOf]

theorem Record.tells_of_ne {connectionID : Id} {entry : Record Id}
    (ne : entry.connectionID ≠ connectionID) : entry.tells connectionID = none := by
  cases entry with
  | received other body => rfl
  | sent other wire => rfl
  | emitted event => exact if_neg ne

theorem eventsOf_of_absent {connectionID : Id} {history : List (Record Id)}
    (absent : ∀ entry ∈ history, entry.connectionID ≠ connectionID) :
    eventsOf connectionID history = [] := by
  rw [eventsOf, List.reverse_eq_nil_iff, List.filterMap_eq_nil_iff]
  intro entry inside
  exact Record.tells_of_ne (absent entry inside)

theorem mem_eventsOf {event : ServerEvent Id} {history : List (Record Id)}
    (inside : .emitted event ∈ history) : event ∈ eventsOf event.connectionID history := by
  rw [eventsOf, List.mem_reverse, List.mem_filterMap]
  exact ⟨_, inside, if_pos rfl⟩

/-- The events of a connection that is in some phase. -/
inductive Told (connectionID : Id) : Phase → List (ServerEvent Id) → Prop where
  | waiting {phase : Phase} (waits : phase.Waiting) :
      Told connectionID phase [.connectionAccepted connectionID]
  | authenticated (beats : List UInt64) :
      Told connectionID .authenticated (.connectionAccepted connectionID ::
        .authenticated connectionID :: beats.map (.heartbeat connectionID))
  | dropped (failure : Failure) :
      Told connectionID .closed
        [.connectionAccepted connectionID, .connectionClosed connectionID failure]
  | closed (beats : List UInt64) (failure : Failure) :
      Told connectionID .closed (ServerEvent.connectionAccepted connectionID ::
        .authenticated connectionID :: beats.map (.heartbeat connectionID) ++
        [ServerEvent.connectionClosed connectionID failure])

variable {connectionID : Id} {phase : Phase} {events : List (ServerEvent Id)}

omit [DecidableEq Id] in
theorem Told.of_waiting (told : Told connectionID phase events) (waits : phase.Waiting) :
    events = [.connectionAccepted connectionID] := by
  cases told with
  | waiting _ => rfl
  | authenticated beats => exact absurd rfl waits.1
  | dropped failure => exact absurd rfl waits.2
  | closed beats failure => exact absurd rfl waits.2

omit [DecidableEq Id] in
theorem Told.authenticate (told : Told connectionID phase events) (waits : phase.Waiting) :
    Told connectionID .authenticated (events ++ [ServerEvent.authenticated connectionID]) := by
  rw [told.of_waiting waits]
  exact .authenticated []

omit [DecidableEq Id] in
theorem Told.beat (told : Told connectionID phase events) (here : phase = .authenticated)
    (sequence : UInt64) :
    Told connectionID .authenticated (events ++ [ServerEvent.heartbeat connectionID sequence]) := by
  cases told with
  | waiting waits => exact absurd here waits.1
  | authenticated beats =>
      have longer : Told connectionID .authenticated _ := .authenticated (beats ++ [sequence])
      rw [List.map_append] at longer
      exact longer
  | dropped failure => cases here
  | closed beats failure => cases here

omit [DecidableEq Id] in
theorem Told.close (told : Told connectionID phase events) (live : phase ≠ .closed)
    (failure : Failure) :
    Told connectionID .closed (events ++ [ServerEvent.connectionClosed connectionID failure]) := by
  cases told with
  | waiting _ => exact .dropped failure
  | authenticated beats => exact .closed beats failure
  | dropped failure => exact absurd rfl live
  | closed beats failure => exact absurd rfl live

end History

/-! ### What precedes an authentication -/

section Chronicle

variable {Id Peer : Type}

/-- A hello has come, under the connection id that counts. -/
def ServerConnection.Greeted (coders : Coders) (connection : ServerConnection Id Peer)
    (wire : Bytes) (hello : Hello) (history : List (Record Id)) : Prop :=
  connection.wireConnectionID = some wire ∧ connection.handshake.hello = some hello ∧
    ∃ body, .received connection.connectionID body ∈ history ∧
      Turn.Holds coders coders.hello .hello wire hello body

/-- The last that has come is a valid proof, under the same connection id as the hello before. -/
def ServerConnection.Proved (coders : Coders) (primitives : Primitives) (secret : Bytes)
    (connection : ServerConnection Id Peer) (history : List (Record Id)) : Prop :=
  ∃ wire hello challenge proof transcript body before,
    history = .received connection.connectionID body :: before ∧
    connection.Greeted coders wire hello before ∧
    Turn.Holds coders coders.clientProof .clientProof wire proof body ∧
    connection.handshake.challenge = some challenge ∧
    Transcript.clientProof hello challenge = .ok transcript ∧
    proof.proof = primitives.hmac secret transcript

variable [DecidableEq Id]

/-- What a history says of a connection fits its state. -/
structure ServerConnection.Chronicle (coders : Coders) (primitives : Primitives) (secret : Bytes)
    (connection : ServerConnection Id Peer) (history : List (Record Id)) : Prop where
  told : Told connection.connectionID connection.phase
    (eventsOf connection.connectionID history)
  greeted : connection.phase = .awaitingProof →
    ∃ wire hello, connection.Greeted coders wire hello history
  proved : ∀ before, .emitted (.authenticated connection.connectionID) :: before <:+ history →
    connection.Proved coders primitives secret before

namespace ServerConnection

variable {coders : Coders} {primitives : Primitives} {secret : Bytes}
  {connection next : ServerConnection Id Peer} {history : List (Record Id)}

omit [DecidableEq Id] in
theorem Greeted.cons {wire : Bytes} {hello : Hello}
    (greeted : connection.Greeted coders wire hello history) (entry : Record Id) :
    connection.Greeted coders wire hello (entry :: history) := by
  obtain ⟨pinned, kept, body, inside, held⟩ := greeted
  exact ⟨pinned, kept, body, List.mem_cons_of_mem _ inside, held⟩

/-- The fields of a connection that its authentication rests on. -/
structure Alike (connection next : ServerConnection Id Peer) : Prop where
  wire : next.wireConnectionID = connection.wireConnectionID
  hello : next.handshake.hello = connection.handshake.hello
  challenge : next.handshake.challenge = connection.handshake.challenge

omit [DecidableEq Id] in
theorem Greeted.alike {wire : Bytes} {hello : Hello}
    (greeted : connection.Greeted coders wire hello history)
    (same : next.connectionID = connection.connectionID) (alike : connection.Alike next) :
    next.Greeted coders wire hello history := by
  unfold Greeted
  rw [alike.wire, alike.hello, same]
  exact greeted

omit [DecidableEq Id] in
theorem Proved.alike (proved : connection.Proved coders primitives secret history)
    (same : next.connectionID = connection.connectionID) (alike : connection.Alike next) :
    next.Proved coders primitives secret history := by
  obtain ⟨wire, hello, challenge, proof, transcript, body, before, last, greeted, held, kept, made,
    valid⟩ := proved
  refine ⟨wire, hello, challenge, proof, transcript, body, before, same ▸ last,
    greeted.alike same alike, held, alike.challenge.trans kept, made, valid⟩

/-- A connection that still waits has not been authenticated. -/
theorem Chronicle.unproved
    (chronicle : connection.Chronicle coders primitives secret history)
    (waits : connection.phase.Waiting) (before : List (Record Id)) :
    ¬ .emitted (.authenticated connection.connectionID) :: before <:+ history := by
  intro suffix
  have inside := mem_eventsOf (suffix.subset List.mem_cons_self)
  have only := chronicle.told.of_waiting waits
  simp only [ServerEvent.connectionID] at inside
  rw [only, List.mem_singleton] at inside
  cases inside

/-- A connection that goes on, with nothing told of it. -/
theorem Chronicle.lead (chronicle : connection.Chronicle coders primitives secret history)
    (same : next.connectionID = connection.connectionID)
    (slot : next.phase = connection.phase ∨ next.phase.Waiting ∧ connection.phase.Waiting)
    (alike : connection.phase.Waiting ∨ connection.Alike next)
    (greeted : next.phase = .awaitingProof →
      ∃ wire hello, next.Greeted coders wire hello history) :
    next.Chronicle coders primitives secret history := by
  refine ⟨?_, greeted, ?_⟩
  · rw [same]
    rcases slot with phase | ⟨waits, waits'⟩
    · rw [phase]
      exact chronicle.told
    · rw [chronicle.told.of_waiting waits']
      exact .waiting waits
  · intro before suffix
    rw [same] at suffix
    rcases alike with waits | alike
    · exact absurd suffix (chronicle.unproved waits before)
    · exact (chronicle.proved before suffix).alike same alike

/-- The phase and what the authentication rests on are as they were. -/
theorem Chronicle.still (chronicle : connection.Chronicle coders primitives secret history)
    (same : next.connectionID = connection.connectionID) (phase : next.phase = connection.phase)
    (alike : connection.Alike next) : next.Chronicle coders primitives secret history := by
  apply chronicle.lead same (.inl phase) (.inr alike)
  intro awaiting
  obtain ⟨wire, hello, greeted⟩ := chronicle.greeted (phase ▸ awaiting)
  exact ⟨wire, hello, greeted.alike same alike⟩

/-- An entry that tells nothing of the connection. -/
theorem Chronicle.silent (chronicle : connection.Chronicle coders primitives secret history)
    {entry : Record Id} (silent : entry.tells connection.connectionID = none) :
    connection.Chronicle coders primitives secret (entry :: history) := by
  refine ⟨?_, ?_, ?_⟩
  · rw [eventsOf_silent silent]
    exact chronicle.told
  · intro awaiting
    obtain ⟨wire, hello, greeted⟩ := chronicle.greeted awaiting
    exact ⟨wire, hello, greeted.cons entry⟩
  · intro before suffix
    rcases List.suffix_cons_iff.mp suffix with whole | suffix
    · obtain ⟨rfl, -⟩ := List.cons.inj whole
      have told : (Record.emitted (.authenticated connection.connectionID)).tells
          connection.connectionID = some (.authenticated connection.connectionID) := if_pos rfl
      rw [told] at silent
      cases silent
    · exact chronicle.proved before suffix

/-- An event of the connection that is not its authentication. -/
theorem Chronicle.tell (chronicle : connection.Chronicle coders primitives secret history)
    {event : ServerEvent Id} (own : event.connectionID = connection.connectionID)
    (other : event ≠ .authenticated connection.connectionID)
    (same : next.connectionID = connection.connectionID)
    (told : Told connection.connectionID next.phase
      (eventsOf connection.connectionID history ++ [event]))
    (late : next.phase ≠ .awaitingProof) (alike : connection.Alike next) :
    next.Chronicle coders primitives secret (.emitted event :: history) := by
  refine ⟨?_, fun awaiting => absurd awaiting late, ?_⟩
  · rw [same, ← own, eventsOf_emitted, own]
    exact told
  · intro before suffix
    rw [same] at suffix
    rcases List.suffix_cons_iff.mp suffix with whole | suffix
    · obtain ⟨first, -⟩ := List.cons.inj whole
      exact absurd (Record.emitted.inj first).symm other
    · exact (chronicle.proved before suffix).alike same alike

/-- The authentication, with what precedes it. -/
theorem Chronicle.authenticate
    (chronicle : connection.Chronicle coders primitives secret history)
    (waits : connection.phase.Waiting)
    (same : next.connectionID = connection.connectionID) (phase : next.phase = .authenticated)
    (proved : next.Proved coders primitives secret history) :
    next.Chronicle coders primitives secret
      (.emitted (.authenticated connection.connectionID) :: history) := by
  refine ⟨?_, ?_, ?_⟩
  · rw [same, phase]
    have events := eventsOf_emitted (.authenticated connection.connectionID) history
    simp only [ServerEvent.connectionID] at events
    rw [events]
    exact chronicle.told.authenticate waits
  · intro awaiting
    rw [phase] at awaiting
    cases awaiting
  · intro before suffix
    rw [same] at suffix
    rcases List.suffix_cons_iff.mp suffix with whole | suffix
    · obtain ⟨-, rfl⟩ := List.cons.inj whole
      exact proved
    · exact absurd suffix (chronicle.unproved waits before)

/-- A connection begins with the event that it is accepted. -/
theorem Chronicle.start (phase : connection.phase = .awaitingReady)
    (absent : ∀ entry ∈ history, entry.connectionID ≠ connection.connectionID) :
    connection.Chronicle coders primitives secret
      (.emitted (.connectionAccepted connection.connectionID) :: history) := by
  refine ⟨?_, ?_, ?_⟩
  · have events := eventsOf_emitted (.connectionAccepted connection.connectionID) history
    simp only [ServerEvent.connectionID] at events
    rw [events, eventsOf_of_absent absent, phase]
    exact .waiting (by decide)
  · intro awaiting
    rw [phase] at awaiting
    cases awaiting
  · intro before suffix
    rcases List.suffix_cons_iff.mp suffix with whole | suffix
    · cases whole
    · exact absurd rfl (absent _ (suffix.subset List.mem_cons_self))

end ServerConnection

end Chronicle

/-! ### Turns -/

namespace Turn

variable {Id Peer : Type} [DecidableEq Id]

/-- A handler at its turn, with a history that fits it. -/
structure Chronicled (coders : Coders) (primitives : Primitives) (secret : Bytes)
    (turn : Turn Id Peer) : Prop where
  value : turn.around.token.value = secret
  chronicle : turn.connection.Chronicle coders primitives secret turn.around.history

/-- A turn puts down what happens to its own connection. -/
structure Tells (coders : Coders) (primitives : Primitives) (secret : Bytes)
    (turn next : Turn Id Peer) : Prop where
  same : next.connection.connectionID = turn.connection.connectionID
  chronicled : next.Chronicled coders primitives secret
  own : ∃ entries, next.around.history = entries ++ turn.around.history ∧
    ∀ entry ∈ entries, entry.connectionID = turn.connection.connectionID

variable {coders : Coders} {primitives : Primitives} {secret : Bytes} {turn : Turn Id Peer}

theorem Tells.refl (chronicled : turn.Chronicled coders primitives secret) :
    turn.Tells coders primitives secret turn :=
  ⟨rfl, chronicled, [], rfl, nofun⟩

theorem Tells.trans {middle next : Turn Id Peer}
    (first : turn.Tells coders primitives secret middle)
    (second : middle.Tells coders primitives secret next) :
    turn.Tells coders primitives secret next := by
  obtain ⟨entries, grown, own⟩ := first.own
  obtain ⟨entries', grown', own'⟩ := second.own
  refine ⟨second.same.trans first.same, second.chronicled, entries' ++ entries, ?_, ?_⟩
  · rw [grown', grown, List.append_assoc]
  · intro entry inside
    rcases List.mem_append.mp inside with later | earlier
    · exact (own' entry later).trans first.same
    · exact own entry earlier

/-- A turn that puts nothing down. -/
theorem Tells.of_chronicle {next : Turn Id Peer}
    (same : next.connection.connectionID = turn.connection.connectionID)
    (value : next.around.token.value = secret)
    (history : next.around.history = turn.around.history)
    (chronicle : next.connection.Chronicle coders primitives secret turn.around.history) :
    turn.Tells coders primitives secret next :=
  ⟨same, ⟨value, history ▸ chronicle⟩, [], history, nofun⟩

/-- A turn that puts one thing down. -/
theorem Tells.of_entry {next : Turn Id Peer} {entry : Record Id}
    (same : next.connection.connectionID = turn.connection.connectionID)
    (value : next.around.token.value = secret)
    (history : next.around.history = entry :: turn.around.history)
    (own : entry.connectionID = turn.connection.connectionID)
    (chronicle : next.connection.Chronicle coders primitives secret
      (entry :: turn.around.history)) :
    turn.Tells coders primitives secret next := by
  refine ⟨same, ⟨value, history ▸ chronicle⟩, [entry], history, ?_⟩
  intro other inside
  rw [List.mem_singleton.mp inside]
  exact own

theorem Chronicled.still (chronicled : turn.Chronicled coders primitives secret)
    {next : Turn Id Peer} (same : next.connection.connectionID = turn.connection.connectionID)
    (value : next.around.token.value = turn.around.token.value)
    (history : next.around.history = turn.around.history)
    (phase : next.connection.phase = turn.connection.phase)
    (alike : turn.connection.Alike next.connection) :
    turn.Tells coders primitives secret next :=
  .of_chronicle same (value.trans chronicled.value) history
    (chronicled.chronicle.still same phase alike)

theorem Chronicled.record (chronicled : turn.Chronicled coders primitives secret)
    {entry : Record Id} (own : entry.connectionID = turn.connection.connectionID)
    (silent : entry.tells turn.connection.connectionID = none) :
    turn.Tells coders primitives secret (turn.record entry) :=
  .of_entry rfl chronicled.value rfl own (chronicled.chronicle.silent silent)

theorem Chronicled.sent (chronicled : turn.Chronicled coders primitives secret)
    {recordFailure : Bool} {result : Except Failure Unit} {next : Turn Id Peer}
    (sent : Sent turn recordFailure result next) : turn.Tells coders primitives secret next := by
  cases sent with
  | failed failure => exact Tells.refl chronicled
  | awaited wire =>
      have awaits : turn.Tells coders primitives secret { turn with connection := {
          turn.connection with awaited := .send recordFailure :: turn.connection.awaited } } :=
        chronicled.still rfl rfl rfl rfl ⟨rfl, rfl, rfl⟩
      exact awaits.trans (awaits.chronicled.record rfl rfl)

theorem Chronicled.pinned (chronicled : turn.Chronicled coders primitives secret)
    {wire : Option Bytes}
    (pinned : wire = turn.connection.wireConnectionID ∨
      turn.connection.phase = .awaitingHello ∧ turn.connection.wireConnectionID = none) :
    turn.Tells coders primitives secret (turn.pinned wire) := by
  rcases pinned with rfl | ⟨phase, -⟩
  · exact Tells.refl chronicled
  · refine .of_chronicle rfl chronicled.value rfl ?_
    have waits : turn.connection.phase.Waiting := by simp [phase]
    refine chronicled.chronicle.lead rfl (.inl rfl) (.inl waits) ?_
    intro awaiting
    have greeting : turn.connection.phase = .awaitingProof := awaiting
    rw [phase] at greeting
    cases greeting

/-- The hello that is taken is the one that has come. -/
theorem Chronicled.greet (chronicled : turn.Chronicled coders primitives secret) {body wire : Bytes}
    {hello : Hello} {challenge : Challenge} {handshake : ServerHandshake} {readings : Readings}
    (phase : turn.connection.phase = .awaitingHello)
    (last : .received turn.connection.connectionID body ∈ turn.around.history)
    (held : Holds coders coders.hello .hello wire hello body)
    (received : turn.connection.handshake.receiveHello hello readings.nowNanos
      readings.serverNonce readings.challengeID = .ok (challenge, handshake)) :
    turn.Tells coders primitives secret ((turn.pinned (some wire)).greet handshake) := by
  obtain ⟨-, rfl⟩ := ServerHandshake.receiveHello_eq_ok received
  refine .of_chronicle rfl chronicled.value rfl ?_
  have waits : turn.connection.phase.Waiting := by simp [phase]
  have waits' : Phase.awaitingProof.Waiting := Phase.waiting_awaitingProof
  refine chronicled.chronicle.lead rfl (.inr ⟨waits', waits⟩) (.inl waits) ?_
  intro _
  exact ⟨wire, hello, rfl, rfl, body, last, held⟩

/-- What `receiveProof` leaves has the same hello and the same challenge. -/
theorem Chronicled.prove (chronicled : turn.Chronicled coders primitives secret)
    {proof : ClientProof} {nowNanos : Nat} {sessionID : RandomData identifierLength}
    {result : Except Failure (ServerFinished × Bytes)} {handshake : ServerHandshake}
    {token : OneTimeToken}
    (received : turn.connection.handshake.receiveProof primitives turn.around.token proof nowNanos
      sessionID = (result, handshake, token)) :
    turn.Tells coders primitives secret (turn.prove handshake token) := by
  obtain ⟨value, kept⟩ := ServerHandshake.receiveProof_keeps received
  refine chronicled.still rfl value rfl rfl ?_
  rcases kept with rfl | ⟨-, rfl⟩
  · exact ⟨rfl, rfl, rfl⟩
  · exact ⟨rfl, rfl, rfl⟩

/-- The proof that is accepted is the one that has come last. -/
theorem Chronicled.authenticate (chronicled : turn.Chronicled coders primitives secret)
    {body wire : Bytes} {before : List (Record Id)}
    (last : turn.around.history = .received turn.connection.connectionID body :: before)
    (earlier : turn.connection.Chronicle coders primitives secret before)
    (phase : turn.connection.phase = .awaitingProof)
    (pinned : turn.connection.wireConnectionID = some wire) {proof : ClientProof}
    (held : Holds coders coders.clientProof .clientProof wire proof body) {nowNanos : Nat}
    {sessionID : RandomData identifierLength} {finished : ServerFinished} {sessionKey : Bytes}
    {handshake : ServerHandshake} {token : OneTimeToken}
    (received : turn.connection.handshake.receiveProof primitives turn.around.token proof nowNanos
      sessionID = (.ok (finished, sessionKey), handshake, token))
    (admission : AdmissionController Id Peer) :
    turn.Tells coders primitives secret
      ((turn.prove handshake token).authenticate finished sessionKey admission) := by
  obtain ⟨value, -⟩ := ServerHandshake.receiveProof_keeps received
  obtain ⟨rfl, hello, challenge, greeted, challenged, -, transcript, made, valid⟩ :=
    ServerHandshake.receiveProof_eq_ok received
  have waits : turn.connection.phase.Waiting := by simp [phase]
  refine .of_entry rfl (value.trans chronicled.value) rfl rfl ?_
  refine chronicled.chronicle.authenticate waits rfl rfl ?_
  obtain ⟨wire', hello', pinned', greeted', heard⟩ := earlier.greeted phase
  obtain rfl := Option.some.inj (pinned.symm.trans pinned')
  obtain rfl := Option.some.inj (greeted.symm.trans greeted')
  refine ⟨wire, hello, challenge, proof, transcript, body, before, last, ?_, held, challenged, made,
    chronicled.value ▸ valid⟩
  exact ⟨pinned, greeted, heard⟩

theorem Chronicled.count (chronicled : turn.Chronicled coders primitives secret)
    (counter : HeartbeatSequence) : turn.Tells coders primitives secret (turn.count counter) :=
  chronicled.still rfl rfl rfl rfl ⟨rfl, rfl, rfl⟩

theorem Chronicled.beat (chronicled : turn.Chronicled coders primitives secret)
    (phase : turn.connection.phase = .authenticated) (sequence : UInt64) :
    turn.Tells coders primitives secret (turn.beat sequence) := by
  refine .of_entry rfl chronicled.value rfl rfl ?_
  refine chronicled.chronicle.tell rfl nofun rfl ?_ ?_ ?_
  · show Told _ turn.connection.phase _
    rw [phase]
    exact chronicled.chronicle.told.beat phase sequence
  · show turn.connection.phase ≠ .awaitingProof
    rw [phase]
    nofun
  · exact ⟨rfl, rfl, rfl⟩

/-- Whatever the body is that came last, what its handling tells fits. -/
theorem Chronicled.handled (chronicled : turn.Chronicled coders primitives secret) {body : Bytes}
    {before : List (Record Id)}
    (last : turn.around.history = .received turn.connection.connectionID body :: before)
    (earlier : turn.connection.Chronicle coders primitives secret before) {readings : Readings}
    {result : Except Failure Unit} {next : Turn Id Peer}
    (handled : Handled coders primitives turn body readings result next) :
    turn.Tells coders primitives secret next := by
  cases handled with
  | refused failure wire pinned => exact chronicled.pinned pinned
  | greeted phase pinned held received sent =>
      have inside : .received turn.connection.connectionID body ∈ turn.around.history := by
        rw [last]
        exact List.mem_cons_self
      have first := chronicled.greet phase inside held received
      exact first.trans (first.chronicled.sent sent)
  | unproved phase received => exact chronicled.prove received
  | unadmitted phase received refused =>
      have first := chronicled.prove received
      exact first.trans (first.chronicled.still rfl rfl rfl rfl ⟨rfl, rfl, rfl⟩)
  | @authenticated wire proof finished sessionKey handshake token admission result next phase pinned
      held received admitted sent =>
      have first := chronicled.authenticate last earlier phase pinned held received admission
      exact first.trans (first.chronicled.sent sent)
  | unanswered failure phase decoded checked => exact chronicled.count _
  | @beaten envelope sessionID sessionKey counter result next phase decoded checked sent =>
      have first := chronicled.count counter
      have second := first.chronicled.beat phase envelope.sequence
      have third := second.chronicled.sent sent
      exact (first.trans second).trans third

theorem Chronicled.receive (chronicled : turn.Chronicled coders primitives secret) :
    turn.Tells coders primitives secret turn.receive :=
  chronicled.still rfl rfl rfl rfl ⟨rfl, rfl, rfl⟩

variable [DecidableEq Peer]

/-- A connection is told closed once. -/
theorem Chronicled.close (chronicled : turn.Chronicled coders primitives secret)
    (failure : Failure) (recordFailure : Bool) (nowNanos : Nat) :
    turn.Tells coders primitives secret (turn.close failure recordFailure nowNanos) := by
  unfold Turn.close
  split
  · exact Tells.refl chronicled
  · rename_i live
    refine .of_entry rfl chronicled.value rfl rfl ?_
    refine chronicled.chronicle.tell rfl nofun rfl ?_ ?_ ?_
    · exact chronicled.chronicle.told.close live failure
    · nofun
    · exact ⟨rfl, rfl, rfl⟩

theorem Chronicled.received (chronicled : turn.Chronicled coders primitives secret)
    (result : Except Failure Bytes) (readings : Readings) :
    turn.Tells coders primitives secret (turn.received coders primitives result readings) := by
  unfold Turn.received
  cases result with
  | error failure => exact chronicled.close failure _ _
  | ok body =>
      have first : turn.Tells coders primitives secret
          (turn.record (.received turn.connection.connectionID body)) :=
        chronicled.record rfl rfl
      dsimp only
      split
      · rename_i next handled
        exact first.trans
          (first.chronicled.handled rfl chronicled.chronicle (handled_of_handle handled))
      · rename_i failure next handled
        have second := first.trans
          (first.chronicled.handled rfl chronicled.chronicle (handled_of_handle handled))
        exact second.trans (second.chronicled.close failure _ _)

theorem Chronicled.sentCompletion (chronicled : turn.Chronicled coders primitives secret)
    (recordFailure : Bool) (failure : Option Failure) (nowNanos : Nat) :
    turn.Tells coders primitives secret (turn.sent recordFailure failure nowNanos) := by
  cases failure with
  | some failure => exact chronicled.close failure recordFailure nowNanos
  | none => exact chronicled.receive

theorem Chronicled.handleConnectionState (chronicled : turn.Chronicled coders primitives secret)
    (state : TransportState) (nowNanos : Nat) :
    turn.Tells coders primitives secret (turn.handleConnectionState state nowNanos) := by
  cases state with
  | ready =>
      unfold Turn.handleConnectionState
      dsimp only
      split
      · rename_i phase
        refine .of_chronicle rfl chronicled.value rfl ?_
        have waits : turn.connection.phase.Waiting := by simp [phase]
        have waits' : Phase.awaitingHello.Waiting := Phase.waiting_awaitingHello
        exact chronicled.chronicle.lead rfl (.inr ⟨waits', waits⟩) (.inl waits) nofun
      · exact Tells.refl chronicled
  | failed => exact chronicled.close .network false nowNanos
  | cancelled => exact chronicled.close .network false nowNanos
  | other => exact Tells.refl chronicled

end Turn

/-! ### The whole server -/

namespace Server

variable {Id Peer : Type} [DecidableEq Id]

/-- The history of a server fits all its handlers. -/
structure Chronicled (coders : Coders) (primitives : Primitives) (secret : Bytes)
    (server : Server Id Peer) : Prop where
  value : server.around.token.value = secret
  named : ∀ connectionID connection, server.handlers connectionID = some connection →
    connection.connectionID = connectionID
  chronicle : ∀ connectionID connection, server.handlers connectionID = some connection →
    connection.Chronicle coders primitives secret server.around.history
  absent : ∀ connectionID, server.handlers connectionID = none →
    ∀ entry ∈ server.around.history, entry.connectionID ≠ connectionID

variable {coders : Coders} {primitives : Primitives} {secret : Bytes} {server : Server Id Peer}

/-- What happens to other connections tells nothing of this one. -/
theorem elsewhere {connection : ServerConnection Id Peer} {history : List (Record Id)}
    (chronicle : connection.Chronicle coders primitives secret history)
    (entries : List (Record Id))
    (others : ∀ entry ∈ entries, entry.connectionID ≠ connection.connectionID) :
    connection.Chronicle coders primitives secret (entries ++ history) := by
  induction entries with
  | nil => exact chronicle
  | cons entry entries ih =>
      have later := ih fun other inside => others other (List.mem_cons_of_mem _ inside)
      exact later.silent (Record.tells_of_ne (others entry List.mem_cons_self))

/-- A handler takes its turn, or a new one begins. -/
theorem Chronicled.put (chronicled : server.Chronicled coders primitives secret)
    {next : Turn Id Peer} (here : next.Chronicled coders primitives secret)
    (own : ∃ entries, next.around.history = entries ++ server.around.history ∧
      ∀ entry ∈ entries, entry.connectionID = next.connection.connectionID) :
    (server.put next).Chronicled coders primitives secret := by
  obtain ⟨entries, grown, own⟩ := own
  refine ⟨here.value, ?_, ?_, ?_⟩
  · intro other connection found
    obtain ⟨rfl, rfl⟩ | ⟨-, found⟩ := server.handlers_put_eq_some found
    · rfl
    · exact chronicled.named other connection found
  · intro other connection found
    obtain ⟨rfl, rfl⟩ | ⟨ne, found⟩ := server.handlers_put_eq_some found
    · exact here.chronicle
    · have chronicle := chronicled.chronicle other connection found
      obtain rfl := chronicled.named other connection found
      show connection.Chronicle coders primitives secret next.around.history
      rw [grown]
      apply elsewhere chronicle
      intro entry inside
      rw [own entry inside]
      exact ne.symm
  · intro other found
    have ne : other ≠ next.connection.connectionID := by
      rintro rfl
      rw [handlers_put_self] at found
      cases found
    rw [handlers_put_of_ne server ne] at found
    intro entry inside
    have whole : entry ∈ next.around.history := inside
    rw [grown] at whole
    rcases List.mem_append.mp whole with new | old
    · rw [own entry new]
      exact ne.symm
    · exact chronicled.absent other found entry old

theorem Chronicled.tells (chronicled : server.Chronicled coders primitives secret)
    {connection : ServerConnection Id Peer} {next : Turn Id Peer}
    (tells : Turn.Tells coders primitives secret ⟨connection, server.around⟩ next) :
    (server.put next).Chronicled coders primitives secret := by
  obtain ⟨entries, grown, own⟩ := tells.own
  refine chronicled.put tells.chronicled ⟨entries, grown, ?_⟩
  intro entry inside
  rw [tells.same]
  exact own entry inside

theorem Chronicled.here (chronicled : server.Chronicled coders primitives secret)
    {connectionID : Id} {connection : ServerConnection Id Peer}
    (found : server.handlers connectionID = some connection) :
    Turn.Chronicled coders primitives secret ⟨connection, server.around⟩ :=
  ⟨chronicled.value, chronicled.chronicle connectionID connection found⟩

theorem Chronicled.turn (chronicled : server.Chronicled coders primitives secret)
    {connectionID : Id} {may : ServerConnection Id Peer → Bool} {act : Turn Id Peer → Turn Id Peer}
    {next : Server Id Peer} (turned : server.turn connectionID may act = some next)
    (tells : ∀ turn : Turn Id Peer, turn.Chronicled coders primitives secret →
      turn.Tells coders primitives secret (act turn)) :
    next.Chronicled coders primitives secret := by
  obtain ⟨connection, here, -, rfl⟩ := turn_eq_some server turned
  exact chronicled.tells (tells _ (chronicled.here here))

variable [DecidableEq Peer]

theorem Chronicled.accept (chronicled : server.Chronicled coders primitives secret)
    {connectionID : Id} (new : server.handlers connectionID = none) (peerKey : Option Peer)
    (allowed : Bool) (nowNanos : Nat) (serverID : RandomData identifierLength)
    (createdNanos failedNanos : Nat) :
    (server.accept connectionID peerKey allowed nowNanos serverID createdNanos
      failedNanos).Chronicled coders primitives secret := by
  obtain ⟨admission, same, -, -⟩ | ⟨connection, admission, same, rfl, phase, -⟩ :=
    accept_cases server connectionID peerKey allowed nowNanos serverID createdNanos failedNanos
  · rw [same]
    exact ⟨chronicled.value, chronicled.named, chronicled.chronicle, chronicled.absent⟩
  · rw [same]
    have absent := chronicled.absent connection.connectionID new
    refine chronicled.put ⟨chronicled.value, .start phase absent⟩ ⟨[_], rfl, ?_⟩
    intro entry inside
    rw [List.mem_singleton.mp inside]
    rfl

theorem Chronicled.stopAll (chronicled : server.Chronicled coders primitives secret)
    (nowNanos : Nat) (order : List Id) :
    (server.stopAll nowNanos order).Chronicled coders primitives secret := by
  induction order generalizing server with
  | nil => exact chronicled
  | cons connectionID order ih =>
      unfold Server.stopAll
      split
      · exact ih chronicled
      · rename_i connection here
        apply ih
        exact chronicled.tells ((chronicled.here here).close .network false nowNanos)

theorem Chronicled.step (chronicled : server.Chronicled coders primitives secret)
    {happening : Happening Id Peer} {next : Server Id Peer}
    (stepped : server.step coders primitives happening = some next) :
    next.Chronicled coders primitives secret := by
  unfold Server.step at stepped
  cases happening with
  | accept connectionID peerKey allowed nowNanos serverID createdNanos failedNanos =>
      obtain ⟨new, same⟩ := Option.ite_none_right_eq_some.mp stepped
      obtain rfl := Option.some.inj same
      exact chronicled.accept (Option.isNone_iff_eq_none.mp new) peerKey allowed nowNanos serverID
        createdNanos failedNanos
  | transport connectionID state nowNanos =>
      dsimp only at stepped
      apply chronicled.turn stepped
      intro turn here
      exact here.handleConnectionState state nowNanos
  | received connectionID result readings =>
      dsimp only at stepped
      apply chronicled.turn stepped
      intro turn here
      have first : turn.Tells coders primitives secret (complete .receive turn) :=
        here.still rfl rfl rfl rfl ⟨rfl, rfl, rfl⟩
      exact first.trans (first.chronicled.received result readings)
  | sent connectionID recordFailure failure nowNanos =>
      dsimp only at stepped
      apply chronicled.turn stepped
      intro turn here
      have first : turn.Tells coders primitives secret (complete (.send recordFailure) turn) :=
        here.still rfl rfl rfl rfl ⟨rfl, rfl, rfl⟩
      exact first.trans (first.chronicled.sentCompletion recordFailure failure nowNanos)
  | handshakeTimeout connectionID nowNanos =>
      dsimp only at stepped
      apply chronicled.turn stepped
      intro turn here
      have first : turn.Tells coders primitives secret
          { turn with connection := { turn.connection with handshakeTimeout := false } } :=
        here.still rfl rfl rfl rfl ⟨rfl, rfl, rfl⟩
      exact first.trans (first.chronicled.close .timeout true nowNanos)
  | heartbeatTimeout connectionID nowNanos =>
      dsimp only at stepped
      apply chronicled.turn stepped
      intro turn here
      have first : turn.Tells coders primitives secret
          { turn with connection := { turn.connection with heartbeatTimeout := false } } :=
        here.still rfl rfl rfl rfl ⟨rfl, rfl, rfl⟩
      exact first.trans (first.chronicled.close .timeout false nowNanos)
  | stop order nowNanos =>
      obtain ⟨-, same⟩ := Option.ite_none_right_eq_some.mp stepped
      obtain rfl := Option.some.inj same
      apply Chronicled.stopAll
      exact ⟨chronicled.value, chronicled.named, chronicled.chronicle, chronicled.absent⟩

omit [DecidableEq Peer] in
theorem Chronicled.start (token : OneTimeToken) :
    (Server.start token : Server Id Peer).Chronicled coders primitives token.value := by
  constructor
  · rfl
  · intro connectionID connection here
    cases here
  · intro connectionID connection here
    cases here
  · intro connectionID _ entry inside
    cases inside

/-- Whatever comes to a server, and in whatever order: the events of a connection are that it
    was accepted, perhaps that it was authenticated and heartbeats after that, and once, at the
    end, that it was closed. It is authenticated only after a hello and then a valid proof have
    come, both under the connection id that it has pinned. -/
theorem connection_events {value : Bytes} {createdAtNanos : Nat} {token : OneTimeToken}
    (made : OneTimeToken.new value createdAtNanos = .ok token)
    {happenings : List (Happening Id Peer)} {server : Server Id Peer}
    (ran : Machine.run (Server.step coders primitives) (Server.start token) happenings =
      some server) (connectionID : Id) :
    (server.handlers connectionID = none →
      eventsOf connectionID server.around.history = []) ∧
    ∀ connection, server.handlers connectionID = some connection →
      Told connectionID connection.phase (eventsOf connectionID server.around.history) ∧
      ∀ before, .emitted (.authenticated connectionID) :: before <:+ server.around.history →
        connection.Proved coders primitives value before := by
  obtain ⟨-, rfl⟩ := OneTimeToken.new_eq_ok.mp made
  have chronicled := Machine.run_preserves
    (fun _ _ _ chronicled stepped => Chronicled.step chronicled stepped) (Chronicled.start _) ran
  constructor
  · intro none
    exact eventsOf_of_absent (chronicled.absent connectionID none)
  · intro connection here
    have chronicle := chronicled.chronicle connectionID connection here
    obtain rfl := chronicled.named connectionID connection here
    exact ⟨chronicle.told, chronicle.proved⟩

/-- A connection is greeted, proves itself, is heard of once more, and breaks. -/
def session : List (Happening Nat Nat) :=
  greeting ++ [Happening.received 0 (.ok (Sample.body Sample.proofEnvelope)) (readings 6),
    .sent 0 false none 7, .received 0 (.ok (Sample.body Sample.heartbeatEnvelope)) (readings 8),
    .transport 0 .failed 9, .sent 0 false none 10]

theorem connection_events_session :
    ∃ server : Server Nat Nat,
      Machine.run (Server.step Sample.coders Sample.sessionKit)
          (Server.start ⟨Sample.token, 0, false⟩) session = some server ∧
        eventsOf 0 server.around.history =
          [.connectionAccepted 0, .authenticated 0, .heartbeat 0 1,
            .connectionClosed 0 .network] ∧
        ∀ connection, server.handlers 0 = some connection →
          Told 0 connection.phase (eventsOf 0 server.around.history) ∧
          ∀ before, .emitted (.authenticated 0) :: before <:+ server.around.history →
            connection.Proved Sample.coders Sample.sessionKit Sample.token before := by
  have runs : (Machine.run (Server.step Sample.coders Sample.sessionKit)
      (Server.start ⟨Sample.token, 0, false⟩) session).map
        (fun server : Server Nat Nat => eventsOf 0 server.around.history) =
      some [.connectionAccepted 0, .authenticated 0, .heartbeat 0 1,
        .connectionClosed 0 .network] := by
    decide +kernel
  obtain ⟨server, ran, events⟩ := Option.map_eq_some_iff.mp runs
  have made : OneTimeToken.new Sample.token 0 = .ok ⟨Sample.token, 0, false⟩ := by decide +kernel
  exact ⟨server, ran, events, (connection_events made ran 0).2⟩

end Server

end QuadControl.Apple.Diagnostic
