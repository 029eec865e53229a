import QuadControl.Apple.ClientSession

/-! # The heartbeats of a session

A session has one heartbeat on its way at a time: the next one is scheduled when the one
before is acknowledged. So what it has numbered is at most one ahead of what it knows to be
acknowledged.
-/

namespace QuadControl.Apple.Diagnostic

open Lib Lib.Utf8 Constants

/-- What a session is established with. -/
structure Established where
  sessionID : Bytes
  sessionKey : Bytes
  deriving Repr, DecidableEq

def ClientSession.established (session : ClientSession) : Option Established :=
  match session.phase, session.sessionID, session.sessionKey with
  | .authenticated, some sessionID, some sessionKey => some ⟨sessionID, sessionKey⟩
  | _, _, _ => none

/-- The number of the heartbeat that is on its way. -/
def ClientAwaited.beat : ClientAwaited → Option UInt64
  | .send (.heartbeat sequence) => some sequence
  | .receive (.ack sequence) => some sequence
  | _ => none

def beats (awaited : List ClientAwaited) : List UInt64 := awaited.filterMap ClientAwaited.beat

/-- The phases before the authentication. -/
def ClientPhase.Early (phase : ClientPhase) : Prop := phase ≠ .authenticated ∧ phase ≠ .closed

instance (phase : ClientPhase) : Decidable phase.Early := instDecidableAnd

@[simp]
theorem ClientPhase.early_idle : ClientPhase.idle.Early := by
  decide

@[simp]
theorem ClientPhase.early_awaitingChallenge : ClientPhase.awaitingChallenge.Early := by
  decide

@[simp]
theorem ClientPhase.early_awaitingFinished : ClientPhase.awaitingFinished.Early := by
  decide

namespace Client

variable {coders : Coders} {primitives : Primitives} {client next : Client}

/-- The number of the last heartbeat that was sent, and of the last one acknowledged. -/
def beatsSent (client : Client) : UInt64 := client.session.outgoingSequence.sent

def beatsAcknowledged (client : Client) : UInt64 := client.session.incomingSequence.received

/-- One heartbeat at a time. -/
structure Paced (client : Client) : Prop where
  early : client.session.phase.Early → client.beatsSent = 0 ∧ client.beatsAcknowledged = 0 ∧
    beats client.session.awaited = [] ∧ client.session.sessionKey = none
  resting : client.session.heartbeatSchedule = true → client.session.phase = .authenticated ∧
    client.beatsSent = client.beatsAcknowledged ∧ beats client.session.awaited = []
  single : client.session.phase = .authenticated → (beats client.session.awaited).length ≤ 1
  waiting : client.session.phase = .authenticated →
    ∀ sequence ∈ beats client.session.awaited, sequence = client.beatsSent
  behind : client.beatsSent.toNat ≤ client.beatsAcknowledged.toNat + 1

/-- A step that counts nothing. The session stays what it was, or is over. -/
structure Rests (client next : Client) : Prop where
  sent : next.beatsSent = client.beatsSent
  acknowledged : next.beatsAcknowledged = client.beatsAcknowledged
  established : next.session.established = client.session.established ∨
    next.session.established = none
  paced : next.Paced

theorem Rests.refl (paced : client.Paced) : client.Rests client :=
  ⟨rfl, rfl, .inl rfl, paced⟩

theorem Rests.trans {middle : Client} (first : client.Rests middle) (second : middle.Rests next) :
    client.Rests next := by
  refine ⟨second.sent.trans first.sent, second.acknowledged.trans first.acknowledged, ?_,
    second.paced⟩
  rcases second.established with same | ended
  · rw [same]
    exact first.established
  · exact .inr ended

theorem established_of_ne {session : ClientSession} (other : session.phase ≠ .authenticated) :
    session.established = none := by
  unfold ClientSession.established
  split
  · rename_i phase _ _
    exact absurd phase other
  · rfl

theorem established_of_eq {session : ClientSession} {sessionID sessionKey : Bytes}
    (phase : session.phase = .authenticated) (here : session.sessionID = some sessionID)
    (here' : session.sessionKey = some sessionKey) :
    session.established = some ⟨sessionID, sessionKey⟩ := by
  rw [ClientSession.established, phase, here, here']

/-- The fields that this is about. -/
def pace (client : Client) :=
  (client.session.phase, client.session.sessionID, client.session.sessionKey,
    client.session.heartbeatSchedule, client.session.outgoingSequence,
    client.session.incomingSequence, beats client.session.awaited)

theorem Paced.still (paced : client.Paced) (same : next.pace = client.pace) : client.Rests next := by
  simp only [pace, Prod.mk.injEq] at same
  obtain ⟨phase, sessionID, sessionKey, schedule, outgoing, incoming, awaited⟩ := same
  have sent : next.beatsSent = client.beatsSent := by rw [beatsSent, beatsSent, outgoing]
  have acknowledged : next.beatsAcknowledged = client.beatsAcknowledged := by
    rw [beatsAcknowledged, beatsAcknowledged, incoming]
  have established : next.session.established = client.session.established := by
    rw [ClientSession.established, ClientSession.established, phase, sessionID, sessionKey]
  refine ⟨sent, acknowledged, .inl established, ?_⟩
  constructor
  · rw [phase, sent, acknowledged, awaited, sessionKey]
    exact paced.early
  · rw [schedule, phase, sent, acknowledged, awaited]
    exact paced.resting
  · rw [phase, awaited]
    exact paced.single
  · rw [phase, sent, awaited]
    exact paced.waiting
  · rw [sent, acknowledged]
    exact paced.behind

/-- A step between phases that are early. -/
theorem Paced.early_of_early (paced : client.Paced) (before : client.session.phase.Early)
    (after : next.session.phase.Early)
    (outgoing : next.session.outgoingSequence = client.session.outgoingSequence)
    (incoming : next.session.incomingSequence = client.session.incomingSequence)
    (schedule : next.session.heartbeatSchedule = client.session.heartbeatSchedule)
    (awaited : beats next.session.awaited = beats client.session.awaited)
    (sessionKey : next.session.sessionKey = client.session.sessionKey) : client.Rests next := by
  have sent : next.beatsSent = client.beatsSent := by rw [beatsSent, beatsSent, outgoing]
  have acknowledged : next.beatsAcknowledged = client.beatsAcknowledged := by
    rw [beatsAcknowledged, beatsAcknowledged, incoming]
  refine ⟨sent, acknowledged, .inr (established_of_ne after.1), ?_⟩
  constructor
  · rw [sent, acknowledged, awaited, sessionKey]
    exact fun _ => paced.early before
  · rw [schedule]
    exact fun armed => absurd (paced.resting armed).1 before.1
  · exact fun authenticated => absurd authenticated after.1
  · exact fun authenticated => absurd authenticated after.1
  · rw [sent, acknowledged]
    exact paced.behind

theorem Paced.closeInternal (paced : client.Paced) (state : DiagnosticClientState)
    (initialFailure : Failure) : client.Rests (client.closeInternal state initialFailure) := by
  unfold Client.closeInternal
  split
  · exact Rests.refl paced
  · have closed : client.Rests { client with session := { client.session with
        phase := .closed
        handshakeTimeout := false
        heartbeatTimeout := false
        heartbeatSchedule := false
        handshake := none
        sessionID := none
        sessionKey := none } } :=
      ⟨rfl, rfl, .inr (established_of_ne nofun), fun early => absurd rfl early.2, nofun, nofun, nofun,
        paced.behind⟩
    apply closed.trans
    unfold Client.finishStart
    dsimp only
    split
    · exact closed.paced.still rfl
    · exact closed.paced.still rfl

theorem Paced.fail (paced : client.Paced) (failure : Failure) : client.Rests (client.fail failure) :=
  paced.closeInternal _ failure

theorem Rests.settle {result : Except Failure Unit} (rests : client.Rests next) :
    client.Rests (Client.settle (result, next)) := by
  cases result with
  | ok value => exact rests
  | error failure => exact rests.trans (rests.paced.fail failure)

/-! ### The handshake -/

theorem beats_cons {awaited : ClientAwaited} (other : awaited.beat = none)
    (rest : List ClientAwaited) : beats (awaited :: rest) = beats rest :=
  List.filterMap_cons_none other

theorem beats_cons_beat {awaited : ClientAwaited} {sequence : UInt64}
    (beat : awaited.beat = some sequence) (rest : List ClientAwaited) :
    beats (awaited :: rest) = sequence :: beats rest :=
  List.filterMap_cons_some beat

theorem beats_erase_sublist (awaited : ClientAwaited) (rest : List ClientAwaited) :
    (beats (rest.erase awaited)).Sublist (beats rest) :=
  List.erase_sublist.filterMap _

/-- A heartbeat that is on its way no longer. -/
theorem length_beats_erase {awaited : ClientAwaited} {rest : List ClientAwaited}
    {sequence : UInt64} (inside : awaited ∈ rest) (beat : awaited.beat = some sequence) :
    (beats (rest.erase awaited)).length + 1 = (beats rest).length := by
  have split : rest.Perm (awaited :: rest.erase awaited) := List.perm_cons_erase inside
  have same := (split.filterMap ClientAwaited.beat).length_eq
  rw [List.filterMap_cons_some beat, List.length_cons] at same
  exact same.symm

/-- The only one that is on its way. -/
theorem beats_erase_eq_nil {awaited : ClientAwaited} {rest : List ClientAwaited} {sequence : UInt64}
    (inside : awaited ∈ rest) (beat : awaited.beat = some sequence)
    (single : (beats rest).length ≤ 1) : beats (rest.erase awaited) = [] := by
  have fewer := length_beats_erase inside beat
  apply List.length_eq_zero_iff.mp
  omega

theorem Paced.complete (paced : client.Paced) (awaited : ClientAwaited) :
    client.Rests (client.complete awaited) := by
  have fewer := beats_erase_sublist awaited client.session.awaited
  have none : beats client.session.awaited = [] →
      beats (client.session.awaited.erase awaited) = [] := by
    intro empty
    rw [empty] at fewer
    exact List.sublist_nil.mp fewer
  refine ⟨rfl, rfl, .inl rfl, ?_, ?_, ?_, ?_, paced.behind⟩
  · intro early
    obtain ⟨sent, acknowledged, empty, sessionKey⟩ := paced.early early
    exact ⟨sent, acknowledged, none empty, sessionKey⟩
  · intro armed
    obtain ⟨phase, level, empty⟩ := paced.resting armed
    exact ⟨phase, level, none empty⟩
  · intro phase
    exact fewer.length_le.trans (paced.single phase)
  · intro phase sequence inside
    exact paced.waiting phase sequence (fewer.subset inside)

/-- A message of the handshake that is sent. -/
theorem Paced.send (paced : client.Paced) (wire : Except Failure Bytes) {message : Sending}
    (other : (ClientAwaited.send message).beat = none) :
    client.Rests (client.send wire message).2 := by
  cases wire with
  | error failure => exact Rests.refl paced
  | ok wire =>
      apply paced.still
      simp only [pace, Client.send, Client.record, beats_cons other]

theorem Paced.beginHandshake (paced : client.Paced) :
    client.Rests (client.beginHandshake coders) := by
  unfold Client.beginHandshake
  split
  · have told : client.Rests (client.record (.told .authenticating)) := paced.still rfl
    exact (told.trans (told.paced.send _ rfl)).settle
  · exact Rests.refl paced

theorem Paced.hear (paced : client.Paced) (result : Except Failure Bytes) :
    client.Rests (client.hear result) := by
  cases result with
  | error failure => exact Rests.refl paced
  | ok body => exact paced.still rfl

theorem Paced.start (paced : client.Paced) : client.Rests client.start := by
  unfold Client.start
  dsimp only
  split
  · rename_i idle
    have early : client.session.phase.Early := by simp [idle]
    exact paced.early_of_early early ClientPhase.early_awaitingChallenge rfl rfl rfl
      rfl rfl
  · exact paced.still rfl

theorem Paced.receiveChallenge (paced : client.Paced) (result : Except Failure Bytes) :
    client.Rests (client.receiveChallenge coders primitives result).2 := by
  unfold Client.receiveChallenge
  split
  · rename_i handshake phase _
    have early : client.session.phase.Early := by simp [phase]
    split
    · exact Rests.refl paced
    · split
      · exact paced.still rfl
      · rename_i proof left _
        have proved : client.Rests { client.prove left with
            session := { (client.prove left).session with phase := .awaitingFinished } } :=
          paced.early_of_early early ClientPhase.early_awaitingFinished rfl rfl rfl rfl
            rfl
        exact proved.trans (proved.paced.send _ rfl)
  · exact Rests.refl paced

variable (coders primitives) in
/-- What is verified authenticates a session that has counted nothing. -/
theorem Paced.receiveFinished (paced : client.Paced) (result : Except Failure Bytes) :
    client.Rests (client.receiveFinished coders primitives result).2 ∨
      client.session.phase.Early ∧
        (client.receiveFinished coders primitives result).1 = .ok () ∧
        (client.receiveFinished coders primitives result).2.beatsSent = client.beatsSent ∧
        (client.receiveFinished coders primitives result).2.beatsAcknowledged =
          client.beatsAcknowledged ∧
        (client.receiveFinished coders primitives result).2.Paced := by
  unfold Client.receiveFinished
  split
  · rename_i handshake phase _
    have early : client.session.phase.Early := by simp [phase]
    obtain ⟨sent, acknowledged, empty, -⟩ := paced.early early
    split
    · exact .inl (Rests.refl paced)
    · split
      · exact .inl (Rests.refl paced)
      · rename_i sessionID sessionKey left _
        have level : client.beatsSent = client.beatsAcknowledged := sent.trans acknowledged.symm
        right
        dsimp only
        unfold Client.authenticate Client.finishStart
        dsimp only
        split
        all_goals
          refine ⟨early, rfl, rfl, rfl, fun late => absurd rfl late.1, fun _ => ⟨rfl, level, empty⟩,
            fun _ => ?_, fun _ sequence inside => ?_, paced.behind⟩
          · show (beats client.session.awaited).length ≤ 1
            rw [empty]
            exact Nat.zero_le 1
          · have none : sequence ∈ beats client.session.awaited := inside
            rw [empty] at none
            cases none
  · exact .inl (Rests.refl paced)

/-! ### Heartbeats -/

/-- The tag that is checked when a body comes, with its key and transcript. -/
def checks (coders : Coders) (client : Client) : Block → Option (Bytes × Bytes × Bytes)
  | .received (.ack sequence) (.ok body) => do
      let session ← client.session.established
      let envelope ← (Wire.decode coders body).toOption
      let mac ← envelope.mac
      let transcript ←
        (Transcript.serverAck session.sessionID sequence Ack.new.status).toOption
      return (mac, session.sessionKey, transcript)
  | _ => none

/-- What a block does to the counters. -/
inductive Beats (coders : Coders) (primitives : Primitives) (client : Client) (block : Block)
    (next : Client) : Prop where
  | rests (rests : client.Rests next)
  | begins (early : client.session.phase.Early) (sent : next.beatsSent = client.beatsSent)
      (acknowledged : next.beatsAcknowledged = client.beatsAcknowledged) (paced : next.Paced)
  | sends {session : Established} (here : client.session.established = some session)
      (sent : next.beatsSent.toNat = client.beatsSent.toNat + 1)
      (acknowledged : next.beatsAcknowledged = client.beatsAcknowledged)
      (established : next.session.established = some session ∨ next.session.established = none)
      (paced : next.Paced)
  | acknowledged {session : Established} {mac transcript : Bytes}
      (here : client.session.established = some session)
      (checks : client.checks coders block = some (mac, session.sessionKey, transcript))
      (valid : primitives.isValid mac session.sessionKey transcript = true)
      (made : Transcript.serverAck session.sessionID next.beatsAcknowledged Ack.new.status =
        .ok transcript)
      (later : client.beatsAcknowledged.toNat < next.beatsAcknowledged.toNat)
      (sent : next.beatsSent = client.beatsSent)
      (established : next.session.established = some session) (paced : next.Paced)

/-- The timer of the next heartbeat fires. -/
def fired (client : Client) : Client :=
  { client with session := { client.session with heartbeatSchedule := false } }

theorem Paced.fired (paced : client.Paced) : client.Rests client.fired :=
  ⟨rfl, rfl, .inl rfl, paced.early, nofun, paced.single, paced.waiting, paced.behind⟩

/-- A heartbeat is numbered when the one before is acknowledged. -/
theorem Paced.counted (paced : client.Paced)
    (armed : client.session.heartbeatSchedule = true) {sequence : UInt64}
    {counter : HeartbeatSequence}
    (counted : client.session.outgoingSequence.next = .ok (sequence, counter)) :
    (client.fired.count counter).beatsSent = sequence ∧
      sequence.toNat = client.beatsSent.toNat + 1 ∧ (client.fired.count counter).Paced := by
  obtain ⟨phase, level, empty⟩ := paced.resting armed
  obtain ⟨number, rfl⟩ := HeartbeatSequence.next_eq_ok counted
  have number' : sequence.toNat = client.beatsSent.toNat + 1 := number
  refine ⟨rfl, number, fun late => absurd phase late.1, nofun, fun _ => ?_, fun _ other inside => ?_,
    ?_⟩
  · show (beats client.session.awaited).length ≤ 1
    rw [empty]
    exact Nat.zero_le 1
  · have none : other ∈ beats client.session.awaited := inside
    rw [empty] at none
    cases none
  · show sequence.toNat ≤ client.beatsAcknowledged.toNat + 1
    rw [number', level]

/-- The heartbeat that was numbered is on its way. -/
theorem Paced.launch (paced : client.Paced) (phase : client.session.phase = .authenticated)
    (armed : client.session.heartbeatSchedule = false) {awaited : List ClientAwaited}
    (alone : beats awaited = [client.beatsSent]) {session : ClientSession}
    (next : session = { client.session with heartbeatTimeout := true, awaited := awaited })
    (history : List ClientRecord) :
    Paced { session := session, calls := client.calls, history := history } := by
  subst next
  refine ⟨fun late => absurd phase late.1, fun scheduled => ?_, fun _ => ?_, fun _ other inside => ?_,
    paced.behind⟩
  · have rests : client.session.heartbeatSchedule = true := scheduled
    rw [armed] at rests
    cases rests
  · show (beats awaited).length ≤ 1
    rw [alone]
    exact Nat.le_refl 1
  · have only : other ∈ beats awaited := inside
    rw [alone] at only
    exact List.mem_singleton.mp only

theorem Paced.sendHeartbeat (paced : client.Paced)
    (armed : client.session.heartbeatSchedule = true) :
    Beats coders primitives client .heartbeatSchedule
      (Client.settle (client.fired.sendHeartbeat coders primitives)) := by
  obtain ⟨-, level, empty⟩ := paced.resting armed
  unfold Client.sendHeartbeat
  split
  · rename_i sessionID sessionKey phase sessionID' sessionKey'
    have here : client.session.established = some ⟨sessionID, sessionKey⟩ :=
      established_of_eq phase sessionID' sessionKey'
    split
    · exact .rests paced.fired.settle
    · rename_i sequence counter counted
      obtain ⟨number, one, paced'⟩ := paced.counted armed counted
      have same : (client.fired.count counter).session.established = some ⟨sessionID, sessionKey⟩ :=
        here
      have acknowledged : (client.fired.count counter).beatsAcknowledged =
          client.beatsAcknowledged := by
        obtain ⟨-, rfl⟩ := HeartbeatSequence.next_eq_ok counted
        rfl
      split
      · rename_i failure _
        have ended := paced'.fail failure
        refine .sends here ?_ (ended.acknowledged.trans acknowledged) ?_ ended.paced
        · have counted' := congrArg UInt64.toNat (ended.sent.trans number)
          exact counted'.trans one
        · exact ended.established.imp (fun same' => same'.trans same) id
      · obtain rfl := number
        have alone : beats (.send (.heartbeat (client.fired.count counter).beatsSent) ::
            client.session.awaited) = [(client.fired.count counter).beatsSent] := by
          rw [beats_cons_beat rfl, empty]
        exact .sends here one acknowledged (.inl same)
          (paced'.launch phase rfl alone rfl _)
  · exact .rests paced.fired.settle

/-- What an acknowledgement that is taken has passed. -/
theorem checkAck_eq_ok {sessionID sessionKey : Bytes} {sequence : UInt64}
    {result : Except Failure Bytes} {counter : HeartbeatSequence}
    (checked : client.checkAck coders primitives sessionID sessionKey sequence result =
      .ok counter) :
    client.beatsAcknowledged.toNat < sequence.toNat ∧
      counter = { client.session.incomingSequence with received := sequence } ∧
      ∃ body envelope mac transcript, result = .ok body ∧
        Wire.decode coders body = .ok envelope ∧ envelope.mac = some mac ∧
        Transcript.serverAck sessionID sequence Ack.new.status = .ok transcript ∧
        primitives.isValid mac sessionKey transcript = true := by
  unfold Client.checkAck at checked
  obtain ⟨body, heard, checked⟩ := Except.bind_eq_ok.mp checked
  obtain ⟨envelope, decoded, checked⟩ := Except.bind_eq_ok.mp checked
  split at checked
  · cases checked
  · rename_i mac tagged
    split at checked
    · obtain ⟨ack, -, checked⟩ := Except.bind_eq_ok.mp checked
      obtain ⟨right, checked⟩ := Except.check_bind_eq_ok.mp checked
      obtain ⟨transcript, made, checked⟩ := Except.bind_eq_ok.mp checked
      have status : ack.status = Ack.new.status := Except.guard_eq_ok.mp right
      rw [status] at made
      split at checked
      · rename_i valid
        obtain ⟨later, rfl⟩ := HeartbeatSequence.accept_eq_ok checked
        exact ⟨later, rfl, body, envelope, mac, transcript, heard, decoded, tagged, made, valid⟩
      · cases checked
    · cases checked

/-- The heartbeat that is acknowledged is the one that was on its way. -/
theorem Paced.acknowledge (paced : client.Paced) (phase : client.session.phase = .authenticated)
    {sequence : UInt64} (inside : .receive (.ack sequence) ∈ client.session.awaited)
    (history : List ClientRecord) :
    Paced { session := { client.session with
              awaited := client.session.awaited.erase (.receive (.ack sequence))
              incomingSequence := { client.session.incomingSequence with received := sequence }
              heartbeatTimeout := false
              heartbeatSchedule := true }
            calls := client.calls
            history := history } := by
  have empty := beats_erase_eq_nil inside rfl (paced.single phase)
  have number : sequence ∈ beats client.session.awaited :=
    List.mem_filterMap.mpr ⟨_, inside, rfl⟩
  have level : client.beatsSent = sequence := (paced.waiting phase sequence number).symm
  refine ⟨fun late => absurd phase late.1, fun _ => ⟨phase, level, empty⟩, fun _ => ?_,
    fun _ other inside => ?_, ?_⟩
  · show (beats (client.session.awaited.erase (.receive (.ack sequence)))).length ≤ 1
    rw [empty]
    exact Nat.zero_le 1
  · have none : other ∈ beats (client.session.awaited.erase (.receive (.ack sequence))) := inside
    rw [empty] at none
    cases none
  · show client.beatsSent.toNat ≤ sequence.toNat + 1
    rw [level]
    exact Nat.le_succ _

theorem Paced.receiveAck (paced : client.Paced) {sequence : UInt64}
    (inside : .receive (.ack sequence) ∈ client.session.awaited) (result : Except Failure Bytes) :
    Beats coders primitives client (.received (.ack sequence) result)
      ((client.complete (.receive (.ack sequence))).received coders primitives (.ack sequence)
        result) := by
  have completed := paced.complete (.receive (.ack sequence))
  have heard := completed.trans (completed.paced.hear result)
  unfold Client.received Client.receiveAck
  dsimp only
  split
  · rename_i sessionID sessionKey phase sessionID' sessionKey'
    split
    · exact .rests heard.settle
    · rename_i counter checked
      obtain ⟨later, rfl, body, envelope, mac, transcript, rfl, decoded, tagged, made, valid⟩ :=
        checkAck_eq_ok checked
      have here : client.session.established = some ⟨sessionID, sessionKey⟩ :=
        established_of_eq phase sessionID' sessionKey'
      have checks : client.checks coders (.received (.ack sequence) (.ok body)) =
          some (mac, sessionKey, transcript) := by
        simp only [Client.checks, here, decoded, made, tagged, Except.toOption, Option.bind_eq_bind,
          Option.bind_some]
        rfl
      exact .acknowledged here checks valid made later rfl here
        (paced.acknowledge phase inside _)
  · exact .rests heard.settle

/-! ### Blocks -/

/-- What is sent is answered, and a heartbeat stays on its way. -/
theorem Paced.sent (paced : client.Paced) {message : Sending}
    (inside : .send message ∈ client.session.awaited) (failure : Option Failure) :
    client.Rests ((client.complete (.send message)).sent message failure) := by
  have completed := paced.complete (.send message)
  cases failure with
  | some failure => exact completed.trans (completed.paced.fail failure)
  | none =>
      cases message with
      | hello => exact completed.trans (completed.paced.still rfl)
      | clientProof => exact completed.trans (completed.paced.still rfl)
      | heartbeat sequence =>
          have number : sequence ∈ beats client.session.awaited :=
            List.mem_filterMap.mpr ⟨_, inside, rfl⟩
          have busy : beats client.session.awaited ≠ [] := List.ne_nil_of_mem number
          have alone : client.session.phase = .authenticated →
              beats (.receive (.ack sequence) ::
                client.session.awaited.erase (.send (.heartbeat sequence))) = [sequence] := by
            intro phase
            rw [beats_cons_beat rfl, beats_erase_eq_nil inside rfl (paced.single phase)]
          refine ⟨rfl, rfl, .inl rfl, fun early => ?_, fun armed => ?_, fun phase => ?_,
            fun phase other inside => ?_, paced.behind⟩
          · exact absurd (paced.early early).2.2.1 busy
          · exact absurd (paced.resting armed).2.2 busy
          · show (beats (.receive (.ack sequence) ::
              client.session.awaited.erase (.send (.heartbeat sequence)))).length ≤ 1
            rw [alone phase]
            exact Nat.le_refl 1
          · have only : other ∈ beats (.receive (.ack sequence) ::
                client.session.awaited.erase (.send (.heartbeat sequence))) := inside
            rw [alone phase, List.mem_singleton] at only
            rw [only]
            exact paced.waiting phase sequence number

theorem Paced.handleConnectionState (paced : client.Paced) (state : Turn.TransportState) :
    client.Rests (client.handleConnectionState coders state) := by
  cases state with
  | ready => exact paced.beginHandshake
  | failed => exact paced.fail .network
  | cancelled => exact paced.closeInternal _ .network
  | other => exact Rests.refl paced

theorem Paced.received (paced : client.Paced) {message : Receiving}
    (inside : .receive message ∈ client.session.awaited) (result : Except Failure Bytes) :
    Beats coders primitives client (.received message result)
      ((client.complete (.receive message)).received coders primitives message result) := by
  have completed := paced.complete (.receive message)
  have heard := completed.trans (completed.paced.hear result)
  cases message with
  | challenge => exact .rests (heard.trans (heard.paced.receiveChallenge result)).settle
  | serverFinished =>
      unfold Client.received
      dsimp only
      obtain rests | ⟨early, ok, sent, acknowledged, paced'⟩ :=
        heard.paced.receiveFinished coders primitives result
      · exact .rests (heard.trans rests).settle
      · have same : Client.settle (((client.complete (.receive .serverFinished)).hear
              result).receiveFinished coders primitives result) =
            (((client.complete (.receive .serverFinished)).hear result).receiveFinished coders
              primitives result).2 := by
          generalize ((client.complete (.receive .serverFinished)).hear result).receiveFinished coders
            primitives result = pair at ok
          obtain ⟨result, next⟩ := pair
          obtain rfl := ok
          rfl
        rw [same]
        have early' : client.session.phase.Early := by
          cases result with
          | error failure => exact early
          | ok body => exact early
        exact .begins early' (sent.trans heard.sent) (acknowledged.trans heard.acknowledged) paced'
  | ack sequence => exact paced.receiveAck inside result

/-- Every block rests, or it counts as it may. -/
theorem Paced.step (paced : client.Paced) {block : Block}
    (stepped : client.step coders primitives block = some next) :
    Beats coders primitives client block next := by
  cases block with
  | start =>
      obtain rfl := Option.some.inj stepped
      exact .rests paced.start
  | close =>
      obtain rfl := Option.some.inj stepped
      exact .rests (paced.closeInternal _ .network)
  | transport state =>
      obtain ⟨-, same⟩ := Option.ite_none_right_eq_some.mp stepped
      obtain rfl := Option.some.inj same
      exact .rests (paced.handleConnectionState state)
  | sent message failure =>
      obtain ⟨inside, same⟩ := Option.ite_none_right_eq_some.mp stepped
      obtain rfl := Option.some.inj same
      exact .rests (paced.sent inside failure)
  | received message result =>
      obtain ⟨inside, same⟩ := Option.ite_none_right_eq_some.mp stepped
      obtain rfl := Option.some.inj same
      exact paced.received inside result
  | handshakeTimeout =>
      obtain ⟨-, same⟩ := Option.ite_none_right_eq_some.mp stepped
      obtain rfl := Option.some.inj same
      have disarmed : client.Rests
          { client with session := { client.session with handshakeTimeout := false } } :=
        paced.still rfl
      exact .rests (disarmed.trans (disarmed.paced.fail .timeout))
  | heartbeatTimeout =>
      obtain ⟨-, same⟩ := Option.ite_none_right_eq_some.mp stepped
      obtain rfl := Option.some.inj same
      have disarmed : client.Rests
          { client with session := { client.session with heartbeatTimeout := false } } :=
        paced.still rfl
      exact .rests (disarmed.trans (disarmed.paced.fail .timeout))
  | heartbeatSchedule =>
      obtain ⟨armed, same⟩ := Option.ite_none_right_eq_some.mp stepped
      obtain rfl := Option.some.inj same
      exact paced.sendHeartbeat armed

theorem Paced.new {connectionID : RandomData identifierLength} {token : Bytes}
    {clientNonce : RandomData nonceLength}
    (made : Client.new connectionID token clientNonce = .ok client) : client.Paced := by
  obtain ⟨handshake, -, made⟩ := Except.bind_eq_ok.mp made
  obtain rfl := Except.pure_eq_ok.mp made
  exact ⟨fun _ => ⟨rfl, rfl, rfl, rfl⟩, nofun, nofun, nofun, Nat.zero_le _⟩

end Client

end QuadControl.Apple.Diagnostic
