import QuadControl.Apple.ServerTurns

/-! # The slots of connections

A connection that waits to be authenticated is pending, one that is authenticated is
active, and one that is closed holds nothing. Every turn of a handler keeps this, for its
own connection and for the others. An active connection has used the token, so a proof
that is accepted finds the active slot free.
-/

namespace QuadControl.Apple.Diagnostic

open Lib Lib.Utf8 Constants

/-- The phases before the authentication. -/
def Phase.Waiting (phase : Phase) : Prop := phase ≠ .authenticated ∧ phase ≠ .closed

instance (phase : Phase) : Decidable phase.Waiting := instDecidableAnd

@[simp]
theorem Phase.waiting_awaitingReady : Phase.awaitingReady.Waiting := by
  decide

@[simp]
theorem Phase.waiting_awaitingHello : Phase.awaitingHello.Waiting := by
  decide

@[simp]
theorem Phase.waiting_awaitingProof : Phase.awaitingProof.Waiting := by
  decide

/-- The shared part of a server is within its limits, and the active slot is paid for with the
    token. -/
structure Surroundings.Sound {Id Peer : Type} (around : Surroundings Id Peer) : Prop where
  few : around.admission.pending.card ≤ maxPending
  length : around.token.value.length = tokenLength
  used : around.admission.active ≠ none → around.token.consumed = true

/-- Nothing happens to the other connections. -/
structure Surroundings.Elsewhere {Id Peer : Type} (connectionID : Id)
    (before after : Surroundings Id Peer) : Prop where
  pending : ∀ other, other ≠ connectionID →
    (other ∈ after.admission.pending ↔ other ∈ before.admission.pending)
  active : ∀ other, other ≠ connectionID →
    (after.admission.active = some other ↔ before.admission.active = some other)
  table : ∀ other, other ≠ connectionID → (other ∈ after.connections ↔ other ∈ before.connections)

/-- What may still come fits the phase. -/
structure ServerConnection.Paced {Id Peer : Type} (connection : ServerConnection Id Peer) :
    Prop where
  one : connection.phase ≠ .closed → connection.awaited.length ≤ 1
  idle : connection.phase = .awaitingReady → connection.awaited = []
  counted : .send true ∈ connection.awaited →
    connection.phase = .awaitingProof ∨ connection.phase = .closed
  timer : connection.phase = .authenticated → connection.handshakeTimeout = false
  sound : connection.handshake.Sound

namespace Turn

variable {Id Peer : Type}

/-- The slots of a connection are those of its phase. -/
structure Slotted (turn : Turn Id Peer) : Prop where
  pending : turn.connection.connectionID ∈ turn.around.admission.pending ↔
    turn.connection.phase.Waiting
  active : turn.around.admission.active = some turn.connection.connectionID ↔
    turn.connection.phase = .authenticated
  table : turn.connection.connectionID ∈ turn.around.connections ↔
    turn.connection.phase ≠ .closed

structure Fits (turn : Turn Id Peer) : Prop where
  slotted : turn.Slotted
  paced : turn.connection.Paced
  around : turn.around.Sound

/-- A turn keeps what holds of its connection, and the other connections as they are. -/
structure Leads (turn next : Turn Id Peer) : Prop where
  same : next.connection.connectionID = turn.connection.connectionID
  fits : next.Fits
  elsewhere : turn.around.Elsewhere turn.connection.connectionID next.around

theorem Leads.refl {turn : Turn Id Peer} (fits : turn.Fits) : turn.Leads turn :=
  ⟨rfl, fits, fun _ _ => Iff.rfl, fun _ _ => Iff.rfl, fun _ _ => Iff.rfl⟩

theorem Leads.trans {turn middle next : Turn Id Peer} (first : turn.Leads middle)
    (second : middle.Leads next) : turn.Leads next := by
  refine ⟨second.same.trans first.same, second.fits, ?_, ?_, ?_⟩
  · intro other ne
    exact (second.elsewhere.pending other (first.same ▸ ne)).trans (first.elsewhere.pending other ne)
  · intro other ne
    exact (second.elsewhere.active other (first.same ▸ ne)).trans (first.elsewhere.active other ne)
  · intro other ne
    exact (second.elsewhere.table other (first.same ▸ ne)).trans (first.elsewhere.table other ne)

variable [DecidableEq Id] [DecidableEq Peer]
variable {coders : Coders} {primitives : Primitives} {turn : Turn Id Peer}

/-! ### The token and the active slot -/

omit [DecidableEq Peer] in
/-- A proof that is accepted is followed by an authentication that succeeds. -/
theorem Fits.admits (fits : turn.Fits) (phase : turn.connection.phase = .awaitingProof)
    {proof : ClientProof} {nowNanos : Nat} {sessionID : RandomData identifierLength}
    {returned : ServerFinished × Bytes} {handshake : ServerHandshake} {token : OneTimeToken}
    (received : turn.connection.handshake.receiveProof primitives turn.around.token proof nowNanos
      sessionID = (.ok returned, handshake, token)) :
    (turn.around.admission.authenticationSucceeded turn.connection.connectionID).1 = true := by
  obtain ⟨-, -, unused, -⟩ :=
    ServerHandshake.receiveProof_accepted fits.paced.sound fits.around.length received
  have free : turn.around.admission.active = none := by
    by_contra taken
    have used := fits.around.used taken
    rw [unused] at used
    cases used
  have waiting : turn.connection.phase.Waiting := by simp [phase]
  have pending := fits.slotted.pending.mpr waiting
  rw [AdmissionController.authenticationSucceeded_eq, if_pos ⟨pending, free⟩]

/-! ### Closing -/

/-- However a connection is closed, it gives back the slot that it holds. -/
theorem Slotted.released (slotted : turn.Slotted) {recordFailure : Bool} (nowNanos : Nat)
    (uncounted : recordFailure = true → turn.connection.phase ≠ .authenticated)
    {admission : AdmissionController Id Peer}
    (left : admission =
      if recordFailure then
        turn.around.admission.recordFailure turn.connection.connectionID turn.connection.peerKey
          nowNanos
      else turn.around.admission.endConnection turn.connection.connectionID) :
    admission.pending = turn.around.admission.pending.erase turn.connection.connectionID ∧
      admission.active =
        if turn.around.admission.active = some turn.connection.connectionID then none
        else turn.around.admission.active := by
  subst left
  cases recordFailure with
  | false => exact ⟨rfl, rfl⟩
  | true =>
      have inactive : turn.around.admission.active ≠ some turn.connection.connectionID :=
        fun active => uncounted rfl (slotted.active.mp active)
      rw [if_pos rfl, if_neg inactive]
      exact ⟨rfl, rfl⟩

theorem Fits.close (fits : turn.Fits) (failure : Failure) {recordFailure : Bool} (nowNanos : Nat)
    (uncounted : recordFailure = true → turn.connection.phase ≠ .authenticated) :
    turn.Leads (turn.close failure recordFailure nowNanos) := by
  unfold Turn.close
  split
  · exact Leads.refl fits
  · obtain ⟨pending, active⟩ := fits.slotted.released nowNanos uncounted rfl
    dsimp only [Turn.record]
    generalize (if recordFailure then _ else _ : AdmissionController Id Peer) = admission
      at pending active ⊢
    have paced : ServerConnection.Paced { turn.connection with
        phase := .closed
        handshakeTimeout := false
        heartbeatTimeout := false
        sessionID := none
        sessionKey := none } :=
      ⟨fun live => absurd rfl live, nofun, fun _ => .inr rfl, nofun, fits.paced.sound⟩
    refine ⟨rfl, ⟨⟨?_, ?_, ?_⟩, paced, ?_, fits.around.length, ?_⟩, ?_, ?_, ?_⟩
    · -- The closed connection is not pending,
      simp [pending, Phase.Waiting]
    · -- not active
      simp only [active, reduceCtorEq, iff_false]
      split
      · nofun
      · assumption
    · -- and not in the table.
      simp
    · rw [pending]
      exact Finset.card_erase_le.trans fits.around.few
    · intro taken
      apply fits.around.used
      intro none
      simp [active, none] at taken
    · intro other ne
      rw [pending]
      simp [ne]
    · intro other ne
      simp only [active]
      split
      · rename_i here
        simp [here, Ne.symm ne]
      · rfl
    · intro other ne
      simp [ne]

/-! ### Handling -/

omit [DecidableEq Id] [DecidableEq Peer]

/-- A turn that only takes its connection on, to a phase with the same slot. -/
theorem Fits.lead (fits : turn.Fits) {next : Turn Id Peer}
    (same : next.connection.connectionID = turn.connection.connectionID)
    (token : next.around.token = turn.around.token)
    (admission : next.around.admission = turn.around.admission)
    (connections : next.around.connections = turn.around.connections)
    (slot : next.connection.phase = turn.connection.phase ∨
      next.connection.phase.Waiting ∧ turn.connection.phase.Waiting)
    (paced : next.connection.Paced) : turn.Leads next := by
  have waiting : next.connection.phase.Waiting ↔ turn.connection.phase.Waiting := by
    rcases slot with phase | both
    · rw [phase]
    · exact iff_of_true both.1 both.2
  have authenticated : next.connection.phase = .authenticated ↔
      turn.connection.phase = .authenticated := by
    rcases slot with phase | both
    · rw [phase]
    · exact iff_of_false both.1.1 both.2.1
  have closed : next.connection.phase = .closed ↔ turn.connection.phase = .closed := by
    rcases slot with phase | both
    · rw [phase]
    · exact iff_of_false both.1.2 both.2.2
  have slotted : next.Slotted := by
    constructor
    · rw [same, admission, waiting]
      exact fits.slotted.pending
    · rw [same, admission, authenticated]
      exact fits.slotted.active
    · rw [same, connections, Ne, closed]
      exact fits.slotted.table
  have around : next.around.Sound := by
    constructor
    · exact admission ▸ fits.around.few
    · exact token ▸ fits.around.length
    · rw [admission, token]
      exact fits.around.used
  refine ⟨same, ⟨slotted, paced, around⟩, ?_, ?_, ?_⟩
  · intro other _
    rw [admission]
  · intro other _
    rw [admission]
  · intro other _
    rw [connections]

theorem Fits.sent (fits : turn.Fits) {recordFailure : Bool} {result : Except Failure Unit}
    {next : Turn Id Peer} (sent : Sent turn recordFailure result next)
    (quiet : turn.connection.awaited = []) (started : turn.connection.phase ≠ .awaitingReady)
    (counted : recordFailure = true → turn.connection.phase = .awaitingProof) :
    turn.Leads next := by
  cases sent with
  | failed failure => exact Leads.refl fits
  | awaited wire =>
      refine fits.lead rfl rfl rfl rfl (.inl rfl) ?_
      refine ⟨fun _ => ?_, fun ready => absurd ready started, ?_, fits.paced.timer,
        fits.paced.sound⟩
      · show (Awaited.send recordFailure :: turn.connection.awaited).length ≤ 1
        rw [quiet]
        exact Nat.le_refl 1
      · intro inside
        have one : Awaited.send true ∈ .send recordFailure :: turn.connection.awaited := inside
        rw [quiet, List.mem_singleton] at one
        exact .inl (counted (Awaited.send.inj one).symm)

theorem Fits.pinned (fits : turn.Fits) (wire : Option Bytes) : turn.Leads (turn.pinned wire) := by
  have paced := fits.paced
  refine fits.lead rfl rfl rfl rfl (.inl rfl) ?_
  exact ⟨paced.one, paced.idle, paced.counted, paced.timer, paced.sound⟩

theorem Fits.greet (fits : turn.Fits) {handshake : ServerHandshake}
    (phase : turn.connection.phase = .awaitingHello) (quiet : turn.connection.awaited = [])
    (sound : handshake.Sound) : turn.Leads (turn.greet handshake) := by
  have waiting : turn.connection.phase.Waiting := by simp [phase]
  have waits : Phase.awaitingProof.Waiting := Phase.waiting_awaitingProof
  refine fits.lead rfl rfl rfl rfl (.inr ⟨waits, waiting⟩) ?_
  refine ⟨fun _ => ?_, nofun, fun _ => .inl rfl, nofun, sound⟩
  show turn.connection.awaited.length ≤ 1
  rw [quiet]
  exact Nat.zero_le 1

theorem Fits.count (fits : turn.Fits) (counter : HeartbeatSequence) :
    turn.Leads (turn.count counter) := by
  have paced := fits.paced
  refine fits.lead rfl rfl rfl rfl (.inl rfl) ?_
  exact ⟨paced.one, paced.idle, paced.counted, paced.timer, paced.sound⟩

theorem Fits.beat (fits : turn.Fits) (sequence : UInt64) : turn.Leads (turn.beat sequence) := by
  have paced := fits.paced
  refine fits.lead rfl rfl rfl rfl (.inl rfl) ?_
  exact ⟨paced.one, paced.idle, paced.counted, paced.timer, paced.sound⟩

theorem Fits.record (fits : turn.Fits) (entry : Record Id) : turn.Leads (turn.record entry) :=
  fits.lead rfl rfl rfl rfl (.inl rfl) fits.paced

/-- A completion that comes was the only one, if the connection is live. -/
theorem Fits.complete (fits : turn.Fits) {awaited : Awaited}
    (inside : awaited ∈ turn.connection.awaited) :
    turn.Leads (Server.complete awaited turn) ∧
      (turn.connection.phase ≠ .closed → (Server.complete awaited turn).connection.awaited = []) := by
  have paced := fits.paced
  constructor
  · refine fits.lead rfl rfl rfl rfl (.inl rfl) ?_
    refine ⟨?_, ?_, ?_, paced.timer, paced.sound⟩
    · intro live
      exact (List.length_erase_le).trans (paced.one live)
    · intro ready
      have none := paced.idle ready
      rw [none] at inside
      cases inside
    · intro counted
      exact paced.counted (List.mem_of_mem_erase counted)
  · intro live
    have one := paced.one live
    have fewer := List.length_erase_of_mem inside
    apply List.length_eq_zero_iff.mp
    show (turn.connection.awaited.erase awaited).length = 0
    omega

theorem Fits.receive (fits : turn.Fits)
    (started : turn.connection.phase ≠ .awaitingReady)
    (quiet : turn.connection.phase ≠ .closed → turn.connection.awaited = []) :
    turn.Leads turn.receive := by
  have paced := fits.paced
  refine fits.lead rfl rfl rfl rfl (.inl rfl) ?_
  refine ⟨?_, fun ready => absurd ready started, ?_, paced.timer, paced.sound⟩
  · intro live
    show (Awaited.receive :: turn.connection.awaited).length ≤ 1
    rw [quiet live]
    exact Nat.le_refl 1
  · intro inside
    exact paced.counted (List.mem_of_ne_of_mem (by nofun) inside)

variable [DecidableEq Id]

/-- The connection that takes the token takes the active slot with it. -/
theorem Fits.authenticate (fits : turn.Fits) (phase : turn.connection.phase = .awaitingProof)
    (quiet : turn.connection.awaited = []) {handshake : ServerHandshake} {token : OneTimeToken}
    {admission : AdmissionController Id Peer} (finished : ServerFinished) (sessionKey : Bytes)
    (sound : handshake.Sound) (used : token = { turn.around.token with consumed := true })
    (admitted : turn.around.admission.authenticationSucceeded turn.connection.connectionID =
      (true, admission)) :
    turn.Leads ((turn.prove handshake token).authenticate finished sessionKey admission) := by
  have slotted := fits.slotted
  rw [AdmissionController.authenticationSucceeded_eq] at admitted
  split at admitted
  · rename_i free
    obtain rfl := (Prod.mk.inj admitted).2
    subst used
    have paced : ServerConnection.Paced { turn.connection with
        handshake := handshake
        sessionID := some finished.sessionID
        sessionKey := some sessionKey
        phase := .authenticated
        handshakeTimeout := false
        heartbeatTimeout := true } := by
      refine ⟨fun _ => ?_, nofun, ?_, fun _ => rfl, sound⟩
      · show turn.connection.awaited.length ≤ 1
        rw [quiet]
        exact Nat.zero_le 1
      · intro inside
        have none : Awaited.send true ∈ turn.connection.awaited := inside
        rw [quiet] at none
        cases none
    refine ⟨rfl, ⟨⟨?_, ?_, ?_⟩, paced, ?_, fits.around.length, fun _ => rfl⟩, ?_, ?_, ?_⟩
    · simp [Turn.authenticate, Turn.prove, Turn.record, Phase.Waiting]
    · simp [Turn.authenticate, Turn.prove, Turn.record]
    · have live : turn.connection.connectionID ∈ turn.around.connections := by
        rw [slotted.table, phase]
        nofun
      simpa [Turn.authenticate, Turn.prove, Turn.record] using live
    · exact Finset.card_erase_le.trans fits.around.few
    · intro other ne
      simp [Turn.authenticate, Turn.prove, Turn.record, ne]
    · intro other ne
      simp [Turn.authenticate, Turn.prove, Turn.record, free.2, Ne.symm ne]
    · intro other ne
      exact Iff.rfl
  · cases admitted

/-- Whatever a body is, its handling keeps the slots. -/
theorem Fits.handled (fits : turn.Fits) {body : Bytes} {readings : Readings}
    {result : Except Failure Unit} {next : Turn Id Peer}
    (quiet : turn.connection.phase ≠ .closed → turn.connection.awaited = [])
    (handled : Handled coders primitives turn body readings result next) : turn.Leads next := by
  cases handled with
  | refused failure wire pinned => exact fits.pinned wire
  | @greeted wire hello challenge handshake result next phase pinned held received sent =>
      have quiet' := quiet (by rw [phase]; nofun)
      have sound := ServerHandshake.receiveHello_sound fits.paced.sound received
      have first := fits.pinned (some wire)
      have second := first.fits.greet phase quiet' sound
      have third := second.fits.sent sent quiet' nofun fun _ => rfl
      exact (first.trans second).trans third
  | unproved phase received =>
      obtain ⟨rfl, rfl⟩ :=
        ServerHandshake.receiveProof_refused fits.paced.sound fits.around.length received
      exact Leads.refl fits
  | unadmitted phase received refused =>
      have admitted := fits.admits phase received
      rw [refused] at admitted
      cases admitted
  | @authenticated wire proof finished sessionKey handshake token admission result next phase pinned
      held received admitted sent =>
      have quiet' := quiet (by rw [phase]; nofun)
      obtain ⟨rfl, -, -, used⟩ :=
        ServerHandshake.receiveProof_accepted fits.paced.sound fits.around.length received
      have complete := fits.paced.sound.complete
      have first := fits.authenticate phase quiet' finished sessionKey complete used admitted
      exact first.trans (first.fits.sent sent quiet' nofun nofun)
  | unanswered failure phase decoded checked => exact fits.count _
  | @beaten envelope sessionID sessionKey counter result next phase decoded checked sent =>
      have first := fits.count counter
      have second := first.fits.beat envelope.sequence
      have started : turn.connection.phase ≠ .awaitingReady := by
        rw [phase]
        nofun
      have third := second.fits.sent sent (quiet (by rw [phase]; nofun)) started nofun
      exact (first.trans second).trans third

variable [DecidableEq Peer]

/-! ### Turns -/

/-- What failed closes the connection, and counts unless it was authenticated. -/
theorem Fits.received (fits : turn.Fits) {result : Except Failure Bytes} {readings : Readings}
    (quiet : turn.connection.phase ≠ .closed → turn.connection.awaited = []) :
    turn.Leads (turn.received coders primitives result readings) := by
  unfold Turn.received
  cases result with
  | error failure =>
      exact fits.close failure readings.closeNanos fun counted => of_decide_eq_true counted
  | ok body =>
      have first := fits.record (.received turn.connection.connectionID body)
      dsimp only
      split
      · rename_i next handled
        exact first.trans (first.fits.handled quiet (handled_of_handle handled))
      · rename_i failure next handled
        have second := first.trans (first.fits.handled quiet (handled_of_handle handled))
        exact second.trans (second.fits.close failure readings.closeNanos fun counted =>
          of_decide_eq_true counted)

theorem Fits.sentCompletion (fits : turn.Fits) {recordFailure : Bool} {failure : Option Failure}
    {nowNanos : Nat} (started : turn.connection.phase ≠ .awaitingReady)
    (quiet : turn.connection.phase ≠ .closed → turn.connection.awaited = [])
    (uncounted : recordFailure = true → turn.connection.phase ≠ .authenticated) :
    turn.Leads (turn.sent recordFailure failure nowNanos) := by
  cases failure with
  | some failure => exact fits.close failure nowNanos uncounted
  | none => exact fits.receive started quiet

theorem Fits.handleConnectionState (fits : turn.Fits) (state : TransportState) (nowNanos : Nat) :
    turn.Leads (turn.handleConnectionState state nowNanos) := by
  cases state with
  | ready =>
      unfold Turn.handleConnectionState
      dsimp only
      split
      · rename_i phase
        have paced := fits.paced
        have waiting : turn.connection.phase.Waiting := by simp [phase]
        have waits : Phase.awaitingHello.Waiting := Phase.waiting_awaitingHello
        have none := paced.idle phase
        refine fits.lead rfl rfl rfl rfl (.inr ⟨waits, waiting⟩) ?_
        refine ⟨fun _ => ?_, nofun, ?_, nofun, paced.sound⟩
        · show (Awaited.receive :: turn.connection.awaited).length ≤ 1
          rw [none]
          exact Nat.le_refl 1
        · intro inside
          have one : Awaited.send true ∈ .receive :: turn.connection.awaited := inside
          rw [none] at one
          simp at one
      · exact Leads.refl fits
  | failed => exact fits.close .network nowNanos nofun
  | cancelled => exact fits.close .network nowNanos nofun
  | other => exact Leads.refl fits

/-- A timer that fires was armed, and a connection that is authenticated has none for its
    handshake. -/
theorem Fits.handshakeTimeout (fits : turn.Fits) (nowNanos : Nat)
    (armed : turn.connection.handshakeTimeout = true) :
    turn.Leads (Turn.close { turn with connection := { turn.connection with handshakeTimeout := false } }
      .timeout true nowNanos) := by
  have paced := fits.paced
  have fired : turn.Leads
      { turn with connection := { turn.connection with handshakeTimeout := false } } := by
    refine fits.lead rfl rfl rfl rfl (.inl rfl) ?_
    exact ⟨paced.one, paced.idle, paced.counted, fun _ => rfl, paced.sound⟩
  refine fired.trans (fired.fits.close .timeout nowNanos ?_)
  intro _ authenticated
  have disarmed := paced.timer authenticated
  rw [armed] at disarmed
  cases disarmed

theorem Fits.heartbeatTimeout (fits : turn.Fits) (nowNanos : Nat) :
    turn.Leads (Turn.close { turn with connection := { turn.connection with heartbeatTimeout := false } }
      .timeout false nowNanos) := by
  have paced := fits.paced
  have fired : turn.Leads
      { turn with connection := { turn.connection with heartbeatTimeout := false } } := by
    refine fits.lead rfl rfl rfl rfl (.inl rfl) ?_
    exact ⟨paced.one, paced.idle, paced.counted, paced.timer, paced.sound⟩
  exact fired.trans (fired.fits.close .timeout nowNanos nofun)

end Turn

end QuadControl.Apple.Diagnostic
