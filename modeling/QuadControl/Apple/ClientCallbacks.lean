import QuadControl.Apple.ClientSession
import QuadControl.Apple.ServerTurns

/-! # What a session calls back

A call of `start` is answered once: with the session's first end, with its authentication, or
at once where the session is not idle. The state of a session that is told last is that it
ended, and what is ended keeps no secret.
-/

namespace QuadControl.Apple.Diagnostic

open Lib Lib.Utf8 Constants

namespace ClientRecord

def completes (call : Nat) : ClientRecord → Bool
  | .completed other _ => other = call
  | _ => false

/-- The states that are told of an end. -/
def ends : ClientRecord → Bool
  | .told .disconnected => true
  | .told (.failed _) => true
  | _ => false

/-- What may come after the end: what was on its way, and calls of `start` that are refused. -/
def Late (entry : ClientRecord) : Prop :=
  (∃ body, entry = .received body) ∨ ∃ call, entry = .completed call (.error .state)

theorem Late.ends {entry : ClientRecord} (late : entry.Late) : entry.ends = false := by
  obtain ⟨body, rfl⟩ | ⟨call, rfl⟩ := late
  · rfl
  · rfl

end ClientRecord

namespace Client

/-! ### Completions -/

/-- How often the completion of a call was called. -/
def completions (call : Nat) (history : List ClientRecord) : Nat :=
  history.countP (ClientRecord.completes call)

/-- Each call is completed once, but for the one whose completion is kept. -/
structure Counted (calls : Nat) (kept : Option Nat) (history : List ClientRecord) : Prop where
  called : ∀ call, kept = some call → call < calls
  once : ∀ call, call < calls → kept ≠ some call → completions call history = 1
  never : ∀ call, calls ≤ call ∨ kept = some call → completions call history = 0

variable {calls : Nat} {kept : Option Nat} {history : List ClientRecord}

theorem completions_other {entry : ClientRecord} {call : Nat}
    (other : entry.completes call = false) :
    completions call (entry :: history) = completions call history := by
  simp [completions, other]

theorem completions_self (call : Nat) (result : Except Failure Unit) :
    completions call (.completed call result :: history) = completions call history + 1 := by
  simp [completions, ClientRecord.completes]

theorem completes_of_ne {call other : Nat} (ne : other ≠ call) (result : Except Failure Unit) :
    (ClientRecord.completed other result).completes call = false := by
  simp [ClientRecord.completes, ne]

theorem Counted.cons (counted : Counted calls kept history) {entry : ClientRecord}
    (other : ∀ call, entry.completes call = false) : Counted calls kept (entry :: history) := by
  refine ⟨counted.called, ?_, ?_⟩
  · intro call below free
    rw [completions_other (other call)]
    exact counted.once call below free
  · intro call outside
    rw [completions_other (other call)]
    exact counted.never call outside

/-- A call whose completion is kept. -/
theorem Counted.keep (counted : Counted calls none history) :
    Counted (calls + 1) (some calls) history := by
  refine ⟨?_, ?_, ?_⟩
  · intro call same
    obtain rfl := Option.some.inj same
    exact Nat.lt_succ_self _
  · intro call below free
    have ne : call ≠ calls := fun same => free (congrArg some same.symm)
    exact counted.once call (by omega) nofun
  · intro call outside
    apply counted.never call
    rcases outside with above | same
    · exact .inl (by omega)
    · exact .inl (Option.some.inj same).le

/-- A call that is completed at once. -/
theorem Counted.refuse (counted : Counted calls kept history) (result : Except Failure Unit) :
    Counted (calls + 1) kept (.completed calls result :: history) := by
  have later : ∀ call, call ≠ calls →
      completions call (.completed calls result :: history) = completions call history :=
    fun call ne => completions_other (completes_of_ne ne.symm result)
  refine ⟨fun call same => Nat.lt_succ_of_lt (counted.called call same), ?_, ?_⟩
  · intro call below free
    by_cases same : call = calls
    · subst same
      rw [completions_self, counted.never call (.inl le_rfl)]
    · rw [later call same]
      exact counted.once call (by omega) free
  · intro call outside
    have ne : call ≠ calls := by
      rcases outside with above | same
      · omega
      · exact (counted.called call same).ne
    rw [later call ne]
    apply counted.never call
    exact outside.imp (fun above => by omega) id

/-- The call whose completion was kept is completed. -/
theorem Counted.finish {call : Nat} (counted : Counted calls (some call) history)
    (result : Except Failure Unit) : Counted calls none (.completed call result :: history) := by
  refine ⟨nofun, ?_, ?_⟩
  · intro other below _
    by_cases same : other = call
    · subst same
      rw [completions_self, counted.never other (.inr rfl)]
    · rw [completions_other (completes_of_ne (Ne.symm same) result)]
      exact counted.once other below fun kept => same (Option.some.inj kept).symm
  · intro other outside
    have above : calls ≤ other := outside.resolve_right nofun
    have ne : call ≠ other := ((counted.called call rfl).trans_le above).ne
    rw [completions_other (completes_of_ne ne result)]
    exact counted.never other (.inl above)

/-! ### The end -/

/-- The end is told last, and once the session is closed. -/
inductive Ended : ClientPhase → List ClientRecord → Prop where
  | still {phase : ClientPhase} {history : List ClientRecord} (live : phase ≠ .closed)
      (quiet : ∀ entry ∈ history, entry.ends = false) : Ended phase history
  | told {state : DiagnosticClientState} {history : List ClientRecord}
      (ends : (ClientRecord.told state).ends = true)
      (quiet : ∀ entry ∈ history, entry.ends = false) : Ended .closed (.told state :: history)
  | late {entry : ClientRecord} {history : List ClientRecord} (late : entry.Late)
      (ended : Ended .closed history) : Ended .closed (entry :: history)

variable {phase : ClientPhase}

theorem Ended.quiet (ended : Ended phase history) (live : phase ≠ .closed) :
    ∀ entry ∈ history, entry.ends = false := by
  cases ended with
  | still _ quiet => exact quiet
  | told _ _ => exact absurd rfl live
  | late _ _ => exact absurd rfl live

theorem Ended.cons (ended : Ended phase history) {entry : ClientRecord}
    (quiet : entry.ends = false) (late : phase = .closed → entry.Late) :
    Ended phase (entry :: history) := by
  by_cases closed : phase = .closed
  · subst closed
    exact .late (late rfl) ended
  · refine .still closed ?_
    intro other inside
    rcases List.mem_cons.mp inside with rfl | inside
    · exact quiet
    · exact ended.quiet closed other inside

/-- Nothing but what is late follows the end. -/
theorem Ended.follows (ended : Ended phase history) {later earlier : List ClientRecord}
    {end' : ClientRecord} (split : history = later ++ end' :: earlier) (ends : end'.ends = true) :
    ∀ entry ∈ later, entry.Late := by
  have impossible : ∀ {history : List ClientRecord} {later : List ClientRecord},
      history = later ++ end' :: earlier → (∀ entry ∈ history, entry.ends = false) → False := by
    intro history later split quiet
    have inside : end' ∈ history := by
      rw [split]
      exact List.mem_append_right _ List.mem_cons_self
    rw [quiet end' inside] at ends
    cases ends
  induction ended generalizing later with
  | still live quiet => exact (impossible split quiet).elim
  | told told quiet =>
      cases later with
      | nil => nofun
      | cons first later =>
          obtain ⟨-, rest⟩ := List.cons.inj split
          exact (impossible rest quiet).elim
  | late late ended ih =>
      cases later with
      | nil => nofun
      | cons first later =>
          obtain ⟨rfl, rest⟩ := List.cons.inj split
          intro entry inside
          rcases List.mem_cons.mp inside with rfl | inside
          · exact late
          · exact ih rest entry inside

theorem Ended.countP (ended : Ended phase history) :
    history.countP ClientRecord.ends ≤ 1 := by
  have none : ∀ {history : List ClientRecord}, (∀ entry ∈ history, entry.ends = false) →
      history.countP ClientRecord.ends = 0 := by
    intro history quiet
    rw [List.countP_eq_zero]
    intro entry inside
    simp [quiet entry inside]
  induction ended with
  | still live quiet => simp [none quiet]
  | told ends quiet => simp [ends, none quiet]
  | late late ended ih => simpa [late.ends] using ih

/-! ### The handshake -/

/-- A challenge has come under the session's connection id. -/
def Challenged (coders : Coders) (connectionID : Bytes) (challenge : Challenge)
    (history : List ClientRecord) : Prop :=
  ∃ body, .received body ∈ history ∧
    Turn.Holds coders coders.challenge .challenge connectionID challenge body

/-- The last that has come is a finished message, whose tag is the one for the session's token and
    hello and for a challenge that has come before. -/
def Verified (coders : Coders) (primitives : Primitives) (connectionID token : Bytes)
    (hello : Hello) (history : List ClientRecord) : Prop :=
  ∃ finished challenge transcript body before,
    history = .received body :: before ∧
    Turn.Holds coders coders.serverFinished .serverFinished connectionID finished body ∧
    Challenged coders connectionID challenge before ∧
    Transcript.serverFinished hello challenge finished.sessionID = .ok transcript ∧
    finished.proof = primitives.hmac
      (primitives.derive (Primitives.derivation token hello challenge)) transcript

/-- A handshake is the session's own, and its challenge has come. -/
structure Held (coders : Coders) (connectionID token : Bytes) (hello : Hello)
    (history : List ClientRecord) (handshake : ClientHandshake) : Prop where
  token : handshake.token = token
  hello : handshake.hello = hello
  challenge : ∀ challenge, handshake.challenge = some challenge →
    Challenged coders connectionID challenge history

section Sound

variable {coders : Coders} {primitives : Primitives} {connectionID token : Bytes} {hello : Hello}

theorem Challenged.cons {challenge : Challenge} {history : List ClientRecord}
    (challenged : Challenged coders connectionID challenge history) (entry : ClientRecord) :
    Challenged coders connectionID challenge (entry :: history) := by
  obtain ⟨body, inside, held⟩ := challenged
  exact ⟨body, List.mem_cons_of_mem _ inside, held⟩

theorem Held.cons {handshake : ClientHandshake} {history : List ClientRecord}
    (held : Held coders connectionID token hello history handshake) (entry : ClientRecord) :
    Held coders connectionID token hello (entry :: history) handshake :=
  ⟨held.token, held.hello, fun challenge kept => (held.challenge challenge kept).cons entry⟩

/-- An entry that reports no success. -/
theorem verified_cons {entry : ClientRecord} {history : List ClientRecord}
    (verified : ∀ call before, .completed call (.ok ()) :: before <:+ history →
      Verified coders primitives connectionID token hello before)
    (other : ∀ call, entry ≠ .completed call (.ok ())) :
    ∀ call before, .completed call (.ok ()) :: before <:+ entry :: history →
      Verified coders primitives connectionID token hello before := by
  intro call before suffix
  rcases List.suffix_cons_iff.mp suffix with whole | suffix
  · exact absurd (List.cons.inj whole).1.symm (other call)
  · exact verified call before suffix

/-- What holds of a session between its blocks. -/
structure Sound (coders : Coders) (primitives : Primitives) (connectionID token : Bytes)
    (hello : Hello) (client : Client) : Prop where
  named : client.session.connectionID = connectionID
  counted : Counted client.calls client.session.startCompletion client.history
  kept : client.session.startCompletion ≠ none →
    client.session.phase = .awaitingChallenge ∨ client.session.phase = .awaitingFinished
  ended : Ended client.session.phase client.history
  forgotten : client.session.phase = .closed → client.session.handshake = none ∧
    client.session.sessionID = none ∧ client.session.sessionKey = none
  held : ∀ handshake, client.session.handshake = some handshake →
    Held coders connectionID token hello client.history handshake
  verified : ∀ call before, .completed call (.ok ()) :: before <:+ client.history →
    Verified coders primitives connectionID token hello before

/-- The fields that this is about. -/
def gist (client : Client) :=
  (client.session.connectionID, client.session.handshake, client.session.sessionID,
    client.session.sessionKey, client.session.phase, client.session.startCompletion, client.calls,
    client.history)

variable {client next : Client}

theorem Sound.still (sound : client.Sound coders primitives connectionID token hello)
    (same : next.gist = client.gist) : next.Sound coders primitives connectionID token hello := by
  simp only [gist, Prod.mk.injEq] at same
  obtain ⟨named, handshake, sessionID, sessionKey, phase, startCompletion, calls, history⟩ := same
  constructor
  · rw [named]
    exact sound.named
  · rw [calls, startCompletion, history]
    exact sound.counted
  · rw [startCompletion, phase]
    exact sound.kept
  · rw [phase, history]
    exact sound.ended
  · rw [phase, handshake, sessionID, sessionKey]
    exact sound.forgotten
  · rw [handshake, history]
    exact sound.held
  · rw [history]
    exact sound.verified

/-- An entry that neither completes a call nor ends the session. -/
theorem Sound.record (sound : client.Sound coders primitives connectionID token hello)
    {entry : ClientRecord} (other : ∀ call, entry.completes call = false)
    (quiet : entry.ends = false) (late : client.session.phase = .closed → entry.Late) :
    (client.record entry).Sound coders primitives connectionID token hello := by
  refine ⟨sound.named, sound.counted.cons other, sound.kept, sound.ended.cons quiet late,
    sound.forgotten, ?_, ?_⟩
  · intro handshake kept
    exact (sound.held handshake kept).cons entry
  · apply verified_cons sound.verified
    rintro call rfl
    have completes := other call
    simp [ClientRecord.completes] at completes

theorem Sound.hear (sound : client.Sound coders primitives connectionID token hello)
    (result : Except Failure Bytes) :
    (client.hear result).Sound coders primitives connectionID token hello := by
  cases result with
  | error failure => exact sound
  | ok body => exact sound.record (fun _ => rfl) rfl fun _ => .inl ⟨body, rfl⟩

/-- Whatever ends a session that is live, ends it once. -/
theorem Sound.closeInternal (sound : client.Sound coders primitives connectionID token hello)
    {state : DiagnosticClientState} (ends : (ClientRecord.told state).ends = true)
    (initialFailure : Failure) :
    (client.closeInternal state initialFailure).Sound coders primitives connectionID token
      hello := by
  unfold Client.closeInternal
  split
  · exact sound
  · rename_i live
    have quiet := sound.ended.quiet live
    unfold Client.finishStart
    dsimp only
    split
    · rename_i none
      have counted := sound.counted
      rw [none] at counted
      refine ⟨sound.named, ?_, fun some => absurd none some, .told ends quiet,
        fun _ => ⟨rfl, rfl, rfl⟩, nofun, verified_cons sound.verified nofun⟩
      show Counted client.calls client.session.startCompletion _
      rw [none]
      exact counted.cons fun _ => rfl
    · rename_i call kept
      have counted := sound.counted
      rw [kept] at counted
      exact ⟨sound.named, (counted.finish _).cons fun _ => rfl, fun some => absurd rfl some,
        .told ends (List.forall_mem_cons.mpr ⟨rfl, quiet⟩), fun _ => ⟨rfl, rfl, rfl⟩, nofun,
        verified_cons (verified_cons sound.verified nofun) nofun⟩

theorem Sound.fail (sound : client.Sound coders primitives connectionID token hello)
    (failure : Failure) : (client.fail failure).Sound coders primitives connectionID token hello :=
  sound.closeInternal rfl failure

theorem Sound.settle {result : Except Failure Unit}
    (sound : client.Sound coders primitives connectionID token hello) :
    (Client.settle (result, client)).Sound coders primitives connectionID token hello := by
  cases result with
  | ok value => exact sound
  | error failure => exact sound.fail failure

theorem Sound.start (sound : client.Sound coders primitives connectionID token hello) :
    client.start.Sound coders primitives connectionID token hello := by
  unfold Client.start
  dsimp only
  split
  · rename_i idle
    -- No completion is kept before the first call.
    have none : client.session.startCompletion = none := by
      by_contra some
      rcases sound.kept some with phase | phase
      · rw [idle] at phase
        cases phase
      · rw [idle] at phase
        cases phase
    have counted := sound.counted
    rw [none] at counted
    have live : client.session.phase ≠ .closed := by
      rw [idle]
      nofun
    have connecting : Client.Sound coders primitives connectionID token hello
        { session := { client.session with
            startCompletion := some client.calls
            phase := .awaitingChallenge
            handshakeTimeout := true
            transportStarted := true }
          calls := client.calls + 1
          history := client.history } :=
      ⟨sound.named, counted.keep, fun _ => .inl rfl, .still nofun (sound.ended.quiet live), nofun,
        sound.held, sound.verified⟩
    exact connecting.record (fun _ => rfl) rfl nofun
  · refine ⟨sound.named, sound.counted.refuse _, sound.kept, ?_, sound.forgotten, ?_,
      verified_cons sound.verified nofun⟩
    · exact sound.ended.cons rfl fun _ => .inr ⟨client.calls, rfl⟩
    · intro handshake kept
      exact (sound.held handshake kept).cons _

theorem Sound.send (sound : client.Sound coders primitives connectionID token hello)
    (live : client.session.phase ≠ .closed) (wire : Except Failure Bytes) (message : Sending) :
    (client.send wire message).2.Sound coders primitives connectionID token hello := by
  cases wire with
  | error failure => exact sound
  | ok wire =>
      have sending : Client.Sound coders primitives connectionID token hello
          { client with session := { client.session with
            awaited := .send message :: client.session.awaited } } := sound.still rfl
      exact sending.record (fun _ => rfl) rfl fun closed => absurd closed live

theorem Sound.beginHandshake (sound : client.Sound coders primitives connectionID token hello) :
    (client.beginHandshake coders).Sound coders primitives connectionID token hello := by
  unfold Client.beginHandshake
  split
  · rename_i phase _
    have live : client.session.phase ≠ .closed := by
      rw [phase]
      nofun
    have told : (client.record (.told .authenticating)).Sound coders primitives connectionID token
        hello := sound.record (fun _ => rfl) rfl fun closed => absurd closed live
    exact (told.send live _ _).settle
  · exact sound

theorem unpack_eq_ok {α : Type} [DiagnosticPayload α] {coder : Coder α} {type : DiagnosticType}
    {result : Except Failure Bytes} {message : α}
    (unpacked : client.unpack coders coder type result = .ok message) :
    ∃ body, result = .ok body ∧
      Turn.Holds coders coder type client.session.connectionID message body := by
  unfold Client.unpack at unpacked
  obtain ⟨body, heard, unpacked⟩ := Except.bind_eq_ok.mp unpacked
  obtain ⟨envelope, decoded, unpacked⟩ := Except.bind_eq_ok.mp unpacked
  split at unpacked
  · rename_i fitting
    exact ⟨body, heard, envelope, decoded, fitting.1, fitting.2.1, unpacked⟩
  · cases unpacked

/-- A handshake that takes a challenge keeps it, or nothing of it. -/
theorem receiveChallenge_challenge {handshake left : ClientHandshake} {challenge : Challenge}
    {result : Except Failure ClientProof}
    (returned : handshake.receiveChallenge primitives challenge = (result, left)) :
    left.challenge = handshake.challenge ∨ left.challenge = some challenge := by
  unfold ClientHandshake.receiveChallenge at returned
  split at returned
  · split at returned
    · obtain ⟨-, rfl⟩ := Prod.mk.inj returned
      exact .inl rfl
    · obtain ⟨-, rfl⟩ := Prod.mk.inj returned
      exact .inr rfl
  · obtain ⟨-, rfl⟩ := Prod.mk.inj returned
    exact .inl rfl

theorem Sound.prove (sound : client.Sound coders primitives connectionID token hello)
    (live : client.session.phase ≠ .closed) {handshake : ClientHandshake}
    (held : Held coders connectionID token hello client.history handshake) :
    (client.prove handshake).Sound coders primitives connectionID token hello := by
  refine ⟨sound.named, sound.counted, sound.kept, sound.ended, fun closed => absurd closed live, ?_,
    sound.verified⟩
  intro kept same
  obtain rfl := Option.some.inj same
  exact held

theorem Sound.receiveChallenge (sound : client.Sound coders primitives connectionID token hello)
    (result : Except Failure Bytes) :
    ((client.hear result).receiveChallenge coders primitives result).2.Sound coders primitives
      connectionID token hello := by
  have heard := sound.hear result
  unfold Client.receiveChallenge
  split
  · rename_i handshake phase kept
    have live : (client.hear result).session.phase ≠ .closed := by
      rw [phase]
      nofun
    split
    · exact heard
    · rename_i challenge unpacked
      obtain ⟨body, rfl, holds⟩ := unpack_eq_ok unpacked
      rw [heard.named] at holds
      have own := heard.held handshake kept
      have challenged : Challenged coders connectionID challenge (client.hear (.ok body)).history :=
        ⟨body, List.mem_cons_self, holds⟩
      have proves : ∀ {result left},
          handshake.receiveChallenge primitives challenge = (result, left) →
          ((client.hear (.ok body)).prove left).Sound coders primitives connectionID token
            hello := by
        intro result left returned
        obtain ⟨same, same'⟩ := ClientHandshake.receiveChallenge_keeps returned
        apply heard.prove live
        refine ⟨same.trans own.token, same'.trans own.hello, ?_⟩
        intro challenge' kept
        rcases receiveChallenge_challenge returned with before | new
        · exact own.challenge challenge' (before.symm.trans kept)
        · obtain rfl := Option.some.inj (new.symm.trans kept)
          exact challenged
      split
      · rename_i returned
        exact proves returned
      · rename_i proof left returned
        have proved := proves returned
        have next : Client.Sound coders primitives connectionID token hello
            { (client.hear (.ok body)).prove left with
              session := { ((client.hear (.ok body)).prove left).session with
                phase := .awaitingFinished } } :=
          ⟨proved.named, proved.counted, fun _ => .inr rfl,
            .still nofun (proved.ended.quiet live), nofun, proved.held, proved.verified⟩
        exact next.send nofun _ _
  · exact heard

/-- The session is authenticated with what was verified. -/
theorem Sound.authenticate (sound : client.Sound coders primitives connectionID token hello)
    (live : client.session.phase ≠ .closed) (sessionID sessionKey : Bytes)
    (verified : Verified coders primitives connectionID token hello client.history) :
    (client.authenticate sessionID sessionKey).Sound coders primitives connectionID token
      hello := by
  have quiet := sound.ended.quiet live
  unfold Client.authenticate Client.finishStart
  dsimp only
  split
  · rename_i none
    have counted := sound.counted
    rw [none] at counted
    refine ⟨sound.named, ?_, fun some => absurd none some,
      .still nofun (List.forall_mem_cons.mpr ⟨rfl, quiet⟩), nofun, nofun,
      verified_cons sound.verified nofun⟩
    show Counted client.calls client.session.startCompletion _
    rw [none]
    exact counted.cons fun _ => rfl
  · rename_i call kept
    have counted := sound.counted
    rw [kept] at counted
    have told : ∀ entry ∈ .told .connected :: .completed call (.ok ()) :: client.history,
        entry.ends = false :=
      List.forall_mem_cons.mpr ⟨rfl, List.forall_mem_cons.mpr ⟨rfl, quiet⟩⟩
    refine ⟨sound.named, (counted.finish _).cons fun _ => rfl, fun some => absurd rfl some,
      .still nofun told, nofun, nofun, verified_cons ?_ nofun⟩
    intro call' before suffix
    rcases List.suffix_cons_iff.mp suffix with whole | suffix
    · obtain ⟨-, rfl⟩ := List.cons.inj whole
      exact verified
    · exact sound.verified call' before suffix

theorem Sound.receiveFinished (sound : client.Sound coders primitives connectionID token hello)
    (result : Except Failure Bytes) :
    ((client.hear result).receiveFinished coders primitives result).2.Sound coders primitives
      connectionID token hello := by
  have heard := sound.hear result
  unfold Client.receiveFinished
  split
  · rename_i handshake phase kept
    have live : (client.hear result).session.phase ≠ .closed := by
      rw [phase]
      nofun
    split
    · exact heard
    · rename_i finished unpacked
      obtain ⟨body, rfl, holds⟩ := unpack_eq_ok unpacked
      rw [heard.named] at holds
      split
      · exact heard
      · rename_i sessionID sessionKey left returned
        obtain ⟨-, -, -, challenge, challenged, rfl, transcript, made, proof⟩ :=
          ClientHandshake.receiveFinished_eq_ok returned
        have own := sound.held handshake kept
        rw [own.hello] at made
        rw [own.token, own.hello] at proof
        exact heard.authenticate live sessionID _ ⟨finished, challenge, transcript, body,
          client.history, rfl, holds, own.challenge challenge challenged, made, proof⟩
  · exact heard

theorem Sound.sendHeartbeat (sound : client.Sound coders primitives connectionID token hello) :
    (client.sendHeartbeat coders primitives).2.Sound coders primitives connectionID token
      hello := by
  unfold Client.sendHeartbeat
  split
  · rename_i sessionID sessionKey phase _ _
    have live : client.session.phase ≠ .closed := by
      rw [phase]
      nofun
    split
    · exact sound
    · rename_i sequence counter _
      split
      · exact sound.still rfl
      · rename_i wire _
        have armed : Client.Sound coders primitives connectionID token hello
            { client.count counter with
              session := { (client.count counter).session with heartbeatTimeout := true } } :=
          sound.still rfl
        exact armed.send live (.ok wire) _
  · exact sound

theorem Sound.receiveAck (sound : client.Sound coders primitives connectionID token hello)
    (sequence : UInt64) (result : Except Failure Bytes) :
    (client.receiveAck coders primitives sequence result).2.Sound coders primitives connectionID
      token hello := by
  unfold Client.receiveAck
  split
  · split
    · exact sound
    · exact sound.still rfl
  · exact sound

theorem Sound.received (sound : client.Sound coders primitives connectionID token hello)
    (message : Receiving) (result : Except Failure Bytes) :
    (client.received coders primitives message result).Sound coders primitives connectionID token
      hello := by
  cases message with
  | challenge => exact (sound.receiveChallenge result).settle
  | serverFinished => exact (sound.receiveFinished result).settle
  | ack sequence => exact ((sound.hear result).receiveAck sequence result).settle

theorem Sound.sent (sound : client.Sound coders primitives connectionID token hello)
    (message : Sending) (failure : Option Failure) :
    (client.sent message failure).Sound coders primitives connectionID token hello := by
  cases failure with
  | some failure => exact sound.fail failure
  | none => exact sound.still rfl

theorem Sound.handleConnectionState
    (sound : client.Sound coders primitives connectionID token hello)
    (state : Turn.TransportState) :
    (client.handleConnectionState coders state).Sound coders primitives connectionID token
      hello := by
  cases state with
  | ready => exact sound.beginHandshake
  | failed => exact sound.fail .network
  | cancelled => exact sound.closeInternal rfl .network
  | other => exact sound

theorem Sound.step (sound : client.Sound coders primitives connectionID token hello)
    {block : Block} (stepped : client.step coders primitives block = some next) :
    next.Sound coders primitives connectionID token hello := by
  cases block with
  | start =>
      obtain rfl := Option.some.inj stepped
      exact sound.start
  | close =>
      obtain rfl := Option.some.inj stepped
      exact sound.closeInternal rfl .network
  | transport state =>
      obtain ⟨-, same⟩ := Option.ite_none_right_eq_some.mp stepped
      obtain rfl := Option.some.inj same
      exact sound.handleConnectionState state
  | sent message failure =>
      obtain ⟨-, same⟩ := Option.ite_none_right_eq_some.mp stepped
      obtain rfl := Option.some.inj same
      have completed : (client.complete (.send message)).Sound coders primitives connectionID token
          hello := sound.still rfl
      exact completed.sent message failure
  | received message result =>
      obtain ⟨-, same⟩ := Option.ite_none_right_eq_some.mp stepped
      obtain rfl := Option.some.inj same
      have completed : (client.complete (.receive message)).Sound coders primitives connectionID
          token hello := sound.still rfl
      exact completed.received message result
  | handshakeTimeout =>
      obtain ⟨-, same⟩ := Option.ite_none_right_eq_some.mp stepped
      obtain rfl := Option.some.inj same
      refine Sound.fail ?_ .timeout
      exact sound.still rfl
  | heartbeatTimeout =>
      obtain ⟨-, same⟩ := Option.ite_none_right_eq_some.mp stepped
      obtain rfl := Option.some.inj same
      refine Sound.fail ?_ .timeout
      exact sound.still rfl
  | heartbeatSchedule =>
      obtain ⟨-, same⟩ := Option.ite_none_right_eq_some.mp stepped
      obtain rfl := Option.some.inj same
      apply Sound.settle
      apply Sound.sendHeartbeat
      exact sound.still rfl

theorem Sound.new {connectionID : RandomData identifierLength} {token : Bytes}
    {clientNonce : RandomData nonceLength}
    (made : Client.new connectionID token clientNonce = .ok client) :
    client.Sound coders primitives connectionID token ⟨clientNonce⟩ := by
  obtain ⟨handshake, began, made⟩ := Except.bind_eq_ok.mp made
  obtain rfl := Except.pure_eq_ok.mp made
  obtain ⟨-, began⟩ := Except.check_bind_eq_ok.mp began
  obtain ⟨-, began⟩ := Except.check_bind_eq_ok.mp began
  obtain rfl := Except.pure_eq_ok.mp began
  refine ⟨rfl, ⟨nofun, nofun, fun _ _ => rfl⟩, fun some => absurd rfl some, .still nofun nofun, nofun,
    ?_, ?_⟩
  · intro handshake kept
    obtain rfl := Option.some.inj kept
    exact ⟨rfl, rfl, nofun⟩
  · intro call before suffix
    cases List.suffix_nil.mp suffix

end Sound

/-- Whatever the order of a session's blocks: a call of `start` is completed at most once, and
    once it is authenticated or closed every call is. Success is reported only with a finished
    message that was verified, the end is told at most once with nothing after it but refusals of
    later calls, and what is closed keeps neither key nor handshake. -/
theorem session_callbacks {coders : Coders} {primitives : Primitives}
    {connectionID : RandomData identifierLength} {token : Bytes}
    {clientNonce : RandomData nonceLength} {first : Client}
    (made : Client.new connectionID token clientNonce = .ok first) {blocks : List Block}
    {client : Client}
    (ran : Machine.run (Client.step coders primitives) first blocks = some client) :
    (∀ call, completions call client.history ≤ 1) ∧
    (client.session.phase = .authenticated ∨ client.session.phase = .closed →
      ∀ call, call < client.calls → completions call client.history = 1) ∧
    (∀ call before, .completed call (.ok ()) :: before <:+ client.history →
      Verified coders primitives connectionID token ⟨clientNonce⟩ before) ∧
    (client.history.countP ClientRecord.ends ≤ 1 ∧
      ∀ later state earlier, client.history = later ++ .told state :: earlier →
        (ClientRecord.told state).ends = true → ∀ entry ∈ later, entry.Late) ∧
    (client.session.phase = .closed →
      client.session.sessionKey = none ∧ client.session.handshake = none) := by
  have sound : client.Sound coders primitives connectionID token ⟨clientNonce⟩ :=
    Machine.run_preserves (fun _ _ _ sound stepped => Sound.step sound stepped) (Sound.new made) ran
  refine ⟨?_, ?_, sound.verified, ⟨sound.ended.countP, ?_⟩, ?_⟩
  · intro call
    by_cases free : call < client.calls ∧ client.session.startCompletion ≠ some call
    · exact (sound.counted.once call free.1 free.2).le
    · have outside : client.calls ≤ call ∨ client.session.startCompletion = some call := by
        by_cases below : call < client.calls
        · exact .inr (by_contra fun other => free ⟨below, other⟩)
        · exact .inl (not_lt.mp below)
      rw [sound.counted.never call outside]
      exact Nat.zero_le 1
  · intro ended call below
    apply sound.counted.once call below
    intro kept
    have waiting := sound.kept (by rw [kept]; nofun)
    rcases ended with phase | phase
    all_goals
      rw [phase] at waiting
      simp at waiting
  · intro later state earlier split ends
    exact sound.ended.follows split ends
  · intro closed
    exact ⟨(sound.forgotten closed).2.2, (sound.forgotten closed).1⟩

/-- A session is authenticated, started once more, and closed. -/
def visit : List Block :=
  [.start, .transport .ready, .sent .hello none,
    .received .challenge (.ok (Sample.body Sample.challengeEnvelope)), .sent .clientProof none,
    .received .serverFinished (.ok (Sample.body Sample.finishedEnvelope)), .start, .close]

theorem session_callbacks_visit :
    ∃ first client, Client.new ⟨Sample.connectionID, rfl⟩ Sample.token
        ⟨Sample.hello.clientNonce, rfl⟩ = .ok first ∧
      Machine.run (Client.step Sample.coders Sample.sessionKit) first visit = some client ∧
      .completed 0 (.ok ()) ∈ client.history ∧ completions 0 client.history ≤ 1 ∧
      (client.session.phase = .authenticated ∨ client.session.phase = .closed →
        ∀ call, call < client.calls → completions call client.history = 1) ∧
      client.history.countP ClientRecord.ends ≤ 1 := by
  have runs : ((Client.new ⟨Sample.connectionID, rfl⟩ Sample.token
      ⟨Sample.hello.clientNonce, rfl⟩).toOption.bind fun first =>
        (Machine.run (Client.step Sample.coders Sample.sessionKit) first visit).map fun client =>
          decide (ClientRecord.completed 0 (.ok ()) ∈ client.history)) = some true := by
    decide +kernel
  obtain ⟨first, began, rest⟩ := Option.bind_eq_some_iff.mp runs
  obtain ⟨client, ran, completed⟩ := Option.map_eq_some_iff.mp rest
  have made := Except.toOption_eq_some.mp began
  obtain ⟨once, each, -, ⟨single, -⟩, -⟩ := session_callbacks made ran
  exact ⟨first, client, made, ran, of_decide_eq_true completed, once 0, each, single⟩

end Client

end QuadControl.Apple.Diagnostic
