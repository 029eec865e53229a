import QuadControl.Apple.ServerSlots

/-! # The slots over whole runs

The slots of a server are those of the handlers it has, whatever happens to it and in
whatever order.
-/

namespace QuadControl.Apple.Diagnostic

open Lib Lib.Utf8 Constants

namespace Server

variable {Id Peer : Type}

/-- The slots are those of the handlers there are. -/
structure Holds (server : Server Id Peer) : Prop where
  around : server.around.Sound
  named : ∀ connectionID connection, server.handlers connectionID = some connection →
    connection.connectionID = connectionID
  slotted : ∀ connectionID connection, server.handlers connectionID = some connection →
    Turn.Slotted ⟨connection, server.around⟩
  paced : ∀ connectionID connection, server.handlers connectionID = some connection →
    connection.Paced
  absent : ∀ connectionID, server.handlers connectionID = none →
    connectionID ∉ server.around.admission.pending ∧
      server.around.admission.active ≠ some connectionID ∧
      connectionID ∉ server.around.connections

variable [DecidableEq Id] {server : Server Id Peer}

omit [DecidableEq Id] in
theorem Holds.fits (holds : server.Holds) {connectionID : Id}
    {connection : ServerConnection Id Peer}
    (here : server.handlers connectionID = some connection) :
    Turn.Fits ⟨connection, server.around⟩ :=
  ⟨holds.slotted _ _ here, holds.paced _ _ here, holds.around⟩

/-- A handler takes its turn, or a new one begins. -/
theorem Holds.put (holds : server.Holds) {next : Turn Id Peer} {connectionID : Id}
    (same : next.connection.connectionID = connectionID) (fits : next.Fits)
    (elsewhere : server.around.Elsewhere connectionID next.around) :
    (server.put next).Holds := by
  subst same
  refine ⟨fits.around, ?_, ?_, ?_, ?_⟩
  · intro other connection here
    obtain ⟨rfl, rfl⟩ | ⟨-, here⟩ := server.handlers_put_eq_some here
    · rfl
    · exact holds.named other connection here
  · intro other connection here
    obtain ⟨rfl, rfl⟩ | ⟨ne, here⟩ := server.handlers_put_eq_some here
    · exact fits.slotted
    · have slotted := holds.slotted other connection here
      obtain rfl := holds.named other connection here
      exact ⟨(elsewhere.pending _ ne).trans slotted.pending,
        (elsewhere.active _ ne).trans slotted.active, (elsewhere.table _ ne).trans slotted.table⟩
  · intro other connection here
    obtain ⟨rfl, rfl⟩ | ⟨-, here⟩ := server.handlers_put_eq_some here
    · exact fits.paced
    · exact holds.paced other connection here
  · intro other here
    have ne : other ≠ next.connection.connectionID := by
      rintro rfl
      rw [handlers_put_self] at here
      cases here
    rw [handlers_put_of_ne server ne] at here
    obtain ⟨pending, active, table⟩ := holds.absent other here
    exact ⟨fun inside => pending ((elsewhere.pending other ne).mp inside),
      fun taken => active ((elsewhere.active other ne).mp taken),
      fun inside => table ((elsewhere.table other ne).mp inside)⟩

theorem Holds.leads (holds : server.Holds) {connectionID : Id}
    {connection : ServerConnection Id Peer} {next : Turn Id Peer}
    (here : server.handlers connectionID = some connection)
    (leads : Turn.Leads ⟨connection, server.around⟩ next) : (server.put next).Holds := by
  have named := holds.named connectionID connection here
  exact holds.put (leads.same.trans named) leads.fits (named ▸ leads.elsewhere)

theorem Holds.turn (holds : server.Holds) {connectionID : Id}
    {may : ServerConnection Id Peer → Bool} {act : Turn Id Peer → Turn Id Peer}
    {next : Server Id Peer} (turned : server.turn connectionID may act = some next)
    (leads : ∀ turn : Turn Id Peer, turn.Fits → may turn.connection = true →
      turn.Leads (act turn)) : next.Holds := by
  obtain ⟨connection, here, may, rfl⟩ := turn_eq_some server turned
  exact holds.leads here (leads _ (holds.fits here) may)

variable [DecidableEq Peer] {coders : Coders} {primitives : Primitives}

/-! ### New connections -/

omit [DecidableEq Id] [DecidableEq Peer] in
/-- A handler begins with a handshake that is sound, and waits for its transport. -/
theorem start_eq_ok (connectionID : Id) (peerKey : Peer) (serverID : RandomData identifierLength)
    (nowNanos : Nat) :
    ∃ connection, ServerConnection.start connectionID peerKey serverID nowNanos = .ok connection ∧
      connection.connectionID = connectionID ∧ connection.phase = .awaitingReady ∧
      connection.Paced ∧ connection.incomingSequence = .new ∧
      connection.handshake.state = .awaitingHello := by
  have made := ServerHandshake.new_eq_ok.mpr
    (⟨serverID.2, rfl⟩ : _ ∧ ServerHandshake.mk 0 serverID nowNanos .awaitingHello none none = _)
  refine ⟨_, Except.bind_eq_ok.mpr ⟨_, made, rfl⟩, rfl, rfl, ?_, rfl, rfl⟩
  exact ⟨fun _ => Nat.zero_le 1, fun _ => rfl, nofun, nofun, ServerHandshake.new_sound made⟩

omit [DecidableEq Id] [DecidableEq Peer] in
/-- Who is refused changes no slot. -/
theorem Holds.refuse (holds : server.Holds) {admission : AdmissionController Id Peer}
    (pending : admission.pending = server.around.admission.pending)
    (active : admission.active = server.around.admission.active) :
    Holds { server with around := { server.around with admission := admission } } := by
  have around : Surroundings.Sound { server.around with admission := admission } := by
    refine ⟨pending ▸ holds.around.few, holds.around.length, ?_⟩
    rw [active]
    exact holds.around.used
  refine ⟨around, holds.named, ?_, holds.paced, ?_⟩
  · intro other connection here
    have slotted := holds.slotted other connection here
    exact ⟨pending ▸ slotted.pending, active ▸ slotted.active, slotted.table⟩
  · intro other here
    obtain ⟨outside, inactive, table⟩ := holds.absent other here
    exact ⟨pending ▸ outside, active ▸ inactive, table⟩

omit [DecidableEq Peer] in
/-- Who is let in is pending, and in the table. -/
theorem Holds.admit (holds : server.Holds) {connection : ServerConnection Id Peer}
    {admission : AdmissionController Id Peer} {history : List (Record Id)}
    (new : server.handlers connection.connectionID = none)
    (phase : connection.phase = .awaitingReady) (paced : connection.Paced)
    (room : server.around.admission.pending.card < maxPending)
    (pending : admission.pending =
      insert connection.connectionID server.around.admission.pending)
    (active : admission.active = server.around.admission.active) :
    (server.put
      { connection := connection
        around := { server.around with
          admission := admission
          connections := insert connection.connectionID server.around.connections
          history := history } }).Holds := by
  obtain ⟨-, inactive, -⟩ := holds.absent connection.connectionID new
  refine holds.put rfl ⟨⟨?_, ?_, ?_⟩, paced, ?_, holds.around.length, ?_⟩ ⟨?_, ?_, ?_⟩
  · simp [pending, phase, Phase.Waiting]
  · simp [active, inactive, phase]
  · simp [phase]
  · show admission.pending.card ≤ maxPending
    rw [pending]
    exact (Finset.card_insert_le _ _).trans room
  · show admission.active ≠ none → server.around.token.consumed = true
    rw [active]
    exact holds.around.used
  · intro other ne
    simp [pending, ne]
  · intro other ne
    simp [active]
  · intro other ne
    simp [ne]

variable (server) in
/-- A connection is let in, or there is nothing new but what the admission controller says. -/
theorem accept_cases (connectionID : Id) (peerKey : Option Peer) (allowed : Bool) (nowNanos : Nat)
    (serverID : RandomData identifierLength) (createdNanos failedNanos : Nat) :
    (∃ admission : AdmissionController Id Peer,
      server.accept connectionID peerKey allowed nowNanos serverID createdNanos failedNanos =
          { server with around := { server.around with admission := admission } } ∧
        admission.pending = server.around.admission.pending ∧
        admission.active = server.around.admission.active) ∨
    ∃ (connection : ServerConnection Id Peer) (admission : AdmissionController Id Peer),
      server.accept connectionID peerKey allowed nowNanos serverID createdNanos failedNanos =
          server.put
            { connection := connection
              around := { server.around with
                admission := admission
                connections := insert connection.connectionID server.around.connections
                history := .emitted (.connectionAccepted connection.connectionID) ::
                  server.around.history } } ∧
        connection.connectionID = connectionID ∧ connection.phase = .awaitingReady ∧
        connection.Paced ∧ connection.incomingSequence = .new ∧
        connection.handshake.state = .awaitingHello ∧
        server.around.admission.pending.card < maxPending ∧
        admission.pending = insert connection.connectionID server.around.admission.pending ∧
        admission.active = server.around.admission.active := by
  cases peerKey with
  | none => exact .inl ⟨server.around.admission, rfl, rfl, rfl⟩
  | some peerKey =>
      cases allowed with
      | false => exact .inl ⟨server.around.admission, rfl, rfl, rfl⟩
      | true =>
          unfold Server.accept
          dsimp only
          split
          · rename_i failure admission begun
            obtain ⟨active, ⟨ok, -⟩ | ⟨-, pending⟩⟩ := AdmissionController.begin_cases _ begun
            · cases ok
            · exact .inl ⟨admission, rfl, pending, active⟩
          · rename_i admission begun
            obtain ⟨active, ⟨-, -, room, pending⟩ | ⟨⟨_, error⟩, -⟩⟩ :=
              AdmissionController.begin_cases _ begun
            · obtain ⟨connection, started, rfl, phase, paced, counter, state⟩ :=
                start_eq_ok connectionID peerKey serverID createdNanos
              rw [started]
              exact .inr ⟨connection, admission, rfl, rfl, phase, paced, counter, state, room,
                pending, active⟩
            · cases error

theorem Holds.accept (holds : server.Holds) {connectionID : Id}
    (new : server.handlers connectionID = none) (peerKey : Option Peer) (allowed : Bool)
    (nowNanos : Nat) (serverID : RandomData identifierLength) (createdNanos failedNanos : Nat) :
    (server.accept connectionID peerKey allowed nowNanos serverID createdNanos
      failedNanos).Holds := by
  obtain ⟨admission, same, pending, active⟩ |
      ⟨connection, admission, same, rfl, phase, paced, -, -, room, pending, active⟩ :=
    accept_cases server connectionID peerKey allowed nowNanos serverID createdNanos failedNanos
  · rw [same]
    exact holds.refuse pending active
  · rw [same]
    exact holds.admit new phase paced room pending active

/-! ### The end of the server -/

theorem close_table {connection : ServerConnection Id Peer}
    (slotted : Turn.Slotted ⟨connection, server.around⟩) (failure : Failure)
    (recordFailure : Bool) (nowNanos : Nat) :
    (Turn.close ⟨connection, server.around⟩ failure recordFailure nowNanos).around.connections =
      server.around.connections.erase connection.connectionID := by
  unfold Turn.close
  split
  · rename_i closed
    have outside : connection.connectionID ∉ server.around.connections := by
      intro inside
      exact slotted.table.mp inside closed
    exact (Finset.erase_eq_of_notMem outside).symm
  · rfl

/-- The connections that are stopped leave the table. -/
theorem Holds.stopAll (holds : server.Holds) (nowNanos : Nat) (order : List Id) :
    (server.stopAll nowNanos order).Holds ∧
      (server.stopAll nowNanos order).around.connections =
        server.around.connections \ order.toFinset := by
  induction order generalizing server with
  | nil => exact ⟨holds, by simp [Server.stopAll]⟩
  | cons connectionID order ih =>
      unfold Server.stopAll
      rw [List.toFinset_cons, Finset.sdiff_insert, ← Finset.erase_sdiff_comm]
      split
      · rename_i none
        have outside := (holds.absent connectionID none).2.2
        rw [Finset.erase_eq_of_notMem outside]
        exact ih holds
      · rename_i connection here
        have fits := holds.fits here
        have uncounted : false = true → connection.phase ≠ .authenticated := nofun
        have kept := holds.leads here (fits.close .network nowNanos uncounted)
        have table := close_table fits.slotted .network false nowNanos
        rw [holds.named connectionID connection here] at table
        rw [← table]
        exact ih kept

/-- The server once its table is emptied. -/
def withoutTable (server : Server Id Peer) : Server Id Peer :=
  { server with around := { server.around with connections := ∅ } }

/-- The closing of a connection reads nothing of the table. -/
theorem put_close_withoutTable (connection : ServerConnection Id Peer) (failure : Failure)
    (recordFailure : Bool) (nowNanos : Nat) :
    server.withoutTable.put
        (Turn.close ⟨connection, server.withoutTable.around⟩ failure recordFailure nowNanos) =
      (server.put
        (Turn.close ⟨connection, server.around⟩ failure recordFailure nowNanos)).withoutTable := by
  unfold Turn.close
  split
  · rfl
  · rfl

theorem stopAll_withoutTable (nowNanos : Nat) (order : List Id) :
    server.withoutTable.stopAll nowNanos order =
      (server.stopAll nowNanos order).withoutTable := by
  induction order generalizing server with
  | nil => rfl
  | cons connectionID order ih =>
      unfold Server.stopAll
      have same : server.withoutTable.handlers connectionID = server.handlers connectionID := rfl
      rw [same]
      split
      · exact ih
      · rw [put_close_withoutTable]
        exact ih

/-- All the connections are closed before the server goes on, so it makes no difference that
    its table is emptied first. -/
theorem Holds.stopInternal (holds : server.Holds) {order : List Id} {nowNanos : Nat}
    {next : Server Id Peer} (stopped : server.stopInternal order nowNanos = some next) :
    next = server.stopAll nowNanos order ∧ next.Holds := by
  obtain ⟨⟨-, all⟩, same⟩ := Option.ite_none_right_eq_some.mp stopped
  obtain ⟨kept, table⟩ := holds.stopAll nowNanos order
  rw [all, Finset.sdiff_self] at table
  have empty : (server.stopAll nowNanos order).withoutTable = server.stopAll nowNanos order := by
    unfold withoutTable
    rw [← table]
  have whole : next = server.stopAll nowNanos order :=
    (Option.some.inj same).symm.trans ((stopAll_withoutTable nowNanos order).trans empty)
  exact ⟨whole, whole ▸ kept⟩

/-! ### Runs -/

theorem Holds.step (holds : server.Holds) {happening : Happening Id Peer} {next : Server Id Peer}
    (stepped : server.step coders primitives happening = some next) : next.Holds := by
  unfold Server.step at stepped
  cases happening with
  | accept connectionID peerKey allowed nowNanos serverID createdNanos failedNanos =>
      obtain ⟨new, same⟩ := Option.ite_none_right_eq_some.mp stepped
      obtain rfl := Option.some.inj same
      exact holds.accept (Option.isNone_iff_eq_none.mp new) peerKey allowed nowNanos serverID
        createdNanos failedNanos
  | transport connectionID state nowNanos =>
      dsimp only at stepped
      apply holds.turn stepped
      intro turn fits _
      exact fits.handleConnectionState state nowNanos
  | received connectionID result readings =>
      dsimp only at stepped
      apply holds.turn stepped
      intro turn fits may
      obtain ⟨leads, quiet⟩ := fits.complete (of_decide_eq_true may)
      exact leads.trans (leads.fits.received quiet)
  | sent connectionID recordFailure failure nowNanos =>
      dsimp only at stepped
      apply holds.turn stepped
      intro turn fits may
      have inside := of_decide_eq_true may
      obtain ⟨leads, quiet⟩ := fits.complete inside
      refine leads.trans (leads.fits.sentCompletion ?_ quiet ?_)
      · -- Nothing is sent before the transport is ready.
        intro ready
        rw [fits.paced.idle ready] at inside
        cases inside
      · -- Only a challenge counts, and no other message follows it.
        rintro rfl authenticated
        have same : turn.connection.phase = .authenticated := authenticated
        have phase := fits.paced.counted inside
        rw [same] at phase
        simp at phase
  | handshakeTimeout connectionID nowNanos =>
      dsimp only at stepped
      apply holds.turn stepped
      intro turn fits armed
      exact fits.handshakeTimeout nowNanos armed
  | heartbeatTimeout connectionID nowNanos =>
      dsimp only at stepped
      apply holds.turn stepped
      intro turn fits _
      exact fits.heartbeatTimeout nowNanos
  | stop order nowNanos => exact (holds.stopInternal stepped).2

omit [DecidableEq Id] [DecidableEq Peer] in
theorem Holds.start {token : OneTimeToken} (length : token.value.length = tokenLength) :
    (Server.start token : Server Id Peer).Holds := by
  constructor
  · exact ⟨Nat.zero_le _, length, fun taken => absurd rfl taken⟩
  · intro connectionID connection here
    cases here
  · intro connectionID connection here
    cases here
  · intro connectionID connection here
    cases here
  · intro connectionID _
    exact ⟨Finset.notMem_empty _, nofun, Finset.notMem_empty _⟩

theorem Holds.run {token : OneTimeToken} (length : token.value.length = tokenLength)
    {happenings : List (Happening Id Peer)}
    (ran : Machine.run (Server.step coders primitives) (Server.start token) happenings =
      some server) : server.Holds :=
  Machine.run_preserves (fun _ _ _ holds stepped => holds.step stepped) (Holds.start length) ran

/-- A connection of the table. -/
def Live (server : Server Id Peer) (connectionID : Id) (connection : ServerConnection Id Peer) :
    Prop :=
  connectionID ∈ server.around.connections ∧ server.handlers connectionID = some connection

omit [DecidableEq Id] [DecidableEq Peer] in
theorem Holds.live_iff (holds : server.Holds) {connectionID : Id}
    {connection : ServerConnection Id Peer} :
    server.Live connectionID connection ↔
      server.handlers connectionID = some connection ∧ connection.phase ≠ .closed := by
  unfold Live
  constructor
  · rintro ⟨inside, here⟩
    have slotted := holds.slotted connectionID connection here
    obtain rfl := holds.named connectionID connection here
    exact ⟨here, slotted.table.mp inside⟩
  · rintro ⟨here, live⟩
    have slotted := holds.slotted connectionID connection here
    obtain rfl := holds.named connectionID connection here
    exact ⟨slotted.table.mpr live, here⟩

omit [DecidableEq Id] [DecidableEq Peer] in
theorem Holds.pending_iff (holds : server.Holds) (connectionID : Id) :
    connectionID ∈ server.around.admission.pending ↔
      ∃ connection, server.Live connectionID connection ∧ connection.phase ≠ .authenticated := by
  constructor
  · intro pending
    cases here : server.handlers connectionID with
    | none => exact absurd pending (holds.absent connectionID here).1
    | some connection =>
        have slotted := holds.slotted connectionID connection here
        obtain rfl := holds.named connectionID connection here
        obtain ⟨early, live⟩ := slotted.pending.mp pending
        exact ⟨connection, holds.live_iff.mpr ⟨here, live⟩, early⟩
  · rintro ⟨connection, live, early⟩
    obtain ⟨here, open'⟩ := holds.live_iff.mp live
    have slotted := holds.slotted connectionID connection here
    obtain rfl := holds.named connectionID connection here
    exact slotted.pending.mpr ⟨early, open'⟩

omit [DecidableEq Id] [DecidableEq Peer] in
theorem Holds.active_iff (holds : server.Holds) (connectionID : Id) :
    server.around.admission.active = some connectionID ↔
      ∃ connection, server.Live connectionID connection ∧ connection.phase = .authenticated := by
  constructor
  · intro active
    cases here : server.handlers connectionID with
    | none => exact absurd active (holds.absent connectionID here).2.1
    | some connection =>
        have slotted := holds.slotted connectionID connection here
        obtain rfl := holds.named connectionID connection here
        have phase := slotted.active.mp active
        have live : connection.phase ≠ .closed := by
          rw [phase]
          nofun
        exact ⟨connection, holds.live_iff.mpr ⟨here, live⟩, phase⟩
  · rintro ⟨connection, live, phase⟩
    obtain ⟨here, -⟩ := holds.live_iff.mp live
    have slotted := holds.slotted connectionID connection here
    obtain rfl := holds.named connectionID connection here
    exact slotted.active.mpr phase

/-- Whatever happens to a server, and in whatever order: the connections that are pending are
    the live ones that are not authenticated, of which there are never more than eight, the
    active one is the only live one that is, and one that is closed holds no slot. -/
theorem slots_mirror {value : Bytes} {createdAtNanos : Nat} {token : OneTimeToken}
    (made : OneTimeToken.new value createdAtNanos = .ok token)
    {happenings : List (Happening Id Peer)} {server : Server Id Peer}
    (ran : Machine.run (Server.step coders primitives) (Server.start token) happenings =
      some server) :
    (∀ connectionID, connectionID ∈ server.around.admission.pending ↔
      ∃ connection, server.Live connectionID connection ∧ connection.phase ≠ .authenticated) ∧
    (∀ connectionID, server.around.admission.active = some connectionID ↔
      ∃ connection, server.Live connectionID connection ∧ connection.phase = .authenticated) ∧
    (∀ connectionID other connection connection',
      server.Live connectionID connection → connection.phase = .authenticated →
      server.Live other connection' → connection'.phase = .authenticated →
      connectionID = other) ∧
    server.around.admission.pending.card ≤ 8 ∧
    ∀ connectionID connection, server.handlers connectionID = some connection →
      connection.phase = .closed →
        connectionID ∉ server.around.connections ∧
          connectionID ∉ server.around.admission.pending ∧
          server.around.admission.active ≠ some connectionID := by
  obtain ⟨length, rfl⟩ := OneTimeToken.new_eq_ok.mp made
  have holds := Holds.run length ran
  refine ⟨holds.pending_iff, holds.active_iff, ?_, holds.around.few, ?_⟩
  · intro connectionID other connection connection' live phase live' phase'
    have active := (holds.active_iff connectionID).mpr ⟨connection, live, phase⟩
    have active' := (holds.active_iff other).mpr ⟨connection', live', phase'⟩
    exact Option.some.inj (active.symm.trans active')
  · intro connectionID connection here closed
    have slotted := holds.slotted connectionID connection here
    obtain rfl := holds.named connectionID connection here
    refine ⟨fun inside => slotted.table.mp inside closed,
      fun pending => (slotted.pending.mp pending).2 closed, ?_⟩
    intro active
    have phase := slotted.active.mp active
    rw [closed] at phase
    cases phase

/-- What a handshake of the golden vectors reads. -/
def readings (nowNanos : Nat) : Readings where
  nowNanos := nowNanos
  closeNanos := nowNanos
  serverNonce := ⟨Sample.challenge.serverNonce, Sample.length_serverNonce⟩
  challengeID := ⟨Sample.challenge.challengeID, Sample.length_challengeID⟩
  sessionID := ⟨Sample.sessionID, Sample.length_sessionID⟩

/-- Two come, and one of them says hello. -/
def greeting : List (Happening Nat Nat) :=
  let serverID : RandomData identifierLength :=
    ⟨Sample.challenge.serverID, Sample.length_serverID⟩
  [.accept 0 (some 10) true 1 serverID 1 1, .accept 1 (some 11) true 2 serverID 2 2,
    .transport 0 .ready 3,
    .received 0 (.ok (Sample.body Sample.helloEnvelope)) (readings 4), .sent 0 true none 5]

/-- The one proves itself, and the time of the other is over. -/
def visit : List (Happening Nat Nat) :=
  greeting ++ [Happening.received 0 (.ok (Sample.body Sample.proofEnvelope)) (readings 6),
    .handshakeTimeout 1 7]

theorem slots_mirror_visit :
    ∃ server : Server Nat Nat,
      Machine.run (Server.step Sample.coders Sample.sessionKit)
          (Server.start ⟨Sample.token, 0, false⟩) visit = some server ∧
        server.around.admission.active = some 0 ∧
        (∃ connection, server.Live 0 connection ∧ connection.phase = .authenticated) ∧
        server.around.admission.pending.card ≤ 8 := by
  have runs : (Machine.run (Server.step Sample.coders Sample.sessionKit)
      (Server.start ⟨Sample.token, 0, false⟩) visit).map
        (fun server : Server Nat Nat => server.around.admission.active) = some (some 0) := by
    decide +kernel
  obtain ⟨server, ran, active⟩ := Option.map_eq_some_iff.mp runs
  have made : OneTimeToken.new Sample.token 0 = .ok ⟨Sample.token, 0, false⟩ := by decide +kernel
  obtain ⟨-, mirrors, -, few, -⟩ := slots_mirror made ran
  exact ⟨server, ran, active, (mirrors 0).mp active, few⟩

/-- The token is never used up in vain: in every state of a server, a connection whose proof is
    accepted is admitted. -/
theorem proof_admitted {value : Bytes} {createdAtNanos : Nat} {token : OneTimeToken}
    (made : OneTimeToken.new value createdAtNanos = .ok token)
    {happenings : List (Happening Id Peer)} {server : Server Id Peer}
    (ran : Machine.run (Server.step coders primitives) (Server.start token) happenings =
      some server)
    {connectionID : Id} {connection : ServerConnection Id Peer}
    (here : server.handlers connectionID = some connection)
    (phase : connection.phase = .awaitingProof) {proof : ClientProof} {nowNanos : Nat}
    {sessionID : RandomData identifierLength} {returned : ServerFinished × Bytes}
    {handshake : ServerHandshake} {left : OneTimeToken}
    (received : connection.handshake.receiveProof primitives server.around.token proof nowNanos
      sessionID = (.ok returned, handshake, left)) :
    (server.around.admission.authenticationSucceeded connectionID).1 = true := by
  obtain ⟨length, rfl⟩ := OneTimeToken.new_eq_ok.mp made
  have holds := Holds.run length ran
  obtain rfl := holds.named connectionID connection here
  exact (holds.fits here).admits phase received

theorem proof_admitted_greeting :
    ∃ server : Server Nat Nat,
      Machine.run (Server.step Sample.coders Sample.sessionKit)
          (Server.start ⟨Sample.token, 0, false⟩) greeting = some server ∧
        (server.around.admission.authenticationSucceeded 0).1 = true := by
  have runs : ((Machine.run (Server.step Sample.coders Sample.sessionKit)
      (Server.start ⟨Sample.token, 0, false⟩) greeting).bind fun server : Server Nat Nat =>
        (server.handlers 0).map fun connection => (connection.phase,
          (connection.handshake.receiveProof Sample.sessionKit server.around.token ⟨Sample.proof⟩ 6
            ⟨Sample.sessionID, rfl⟩).1)) =
      some (.awaitingProof, .ok (⟨Sample.sessionID, Sample.finish⟩, Sample.key)) := by
    decide +kernel
  obtain ⟨server, ran, asked⟩ := Option.bind_eq_some_iff.mp runs
  obtain ⟨connection, here, result⟩ := Option.map_eq_some_iff.mp asked
  obtain ⟨phase, accepted⟩ := Prod.mk.inj result
  have made : OneTimeToken.new Sample.token 0 = .ok ⟨Sample.token, 0, false⟩ := by decide +kernel
  obtain ⟨handshake, left, received⟩ : ∃ handshake left,
      connection.handshake.receiveProof Sample.sessionKit server.around.token ⟨Sample.proof⟩ 6
        ⟨Sample.sessionID, rfl⟩ =
          (.ok (⟨Sample.sessionID, Sample.finish⟩, Sample.key), handshake, left) :=
    ⟨_, _, Prod.ext accepted rfl⟩
  exact ⟨server, ran, proof_admitted made ran here phase received⟩

end Server

end QuadControl.Apple.Diagnostic
