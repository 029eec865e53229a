import QuadControl.Lib.Except
import QuadControl.Lib.Framing

/-! # Messages and transcripts of the diagnostic protocol

The messages of the handshake with their checks, and the canonical transcripts that are
authenticated. A transcript is the domain, the version and the framed label before the
framed fields of its operation, so that it tells its label and its fields.
-/

namespace QuadControl.Apple.Diagnostic

open Lib Lib.Utf8 Lib.Framing

/-! ### Limits and failures -/

namespace Constants

def version : Nat := 1

def tokenLength : Nat := 32

def nonceLength : Nat := 32

def identifierLength : Nat := 16

def macLength : Nat := 32

def tokenTTLNanos : Nat := 180000000000

def handshakeTimeoutNanos : Nat := 10000000000

end Constants

open Constants

/-- `DiagnosticFailure`. -/
inductive Failure where
  | malformed
  | version
  | length
  | state
  | authentication
  | expired
  | consumed
  | replay
  | resourceLimit
  | rateLimited
  | timeout
  | network
  deriving Repr, DecidableEq

def requireLength (data : Bytes) (length : Nat) : Except Failure Unit :=
  if data.length = length then .ok () else .error .length

/-- What `secureRandomData` gives. -/
abbrev RandomData (count : Nat) := { data : Bytes // data.length = count }

/-! ### Messages -/

/-- `DiagnosticHello`. -/
structure Hello where
  clientNonce : Bytes
  deriving Repr, DecidableEq

def Hello.validate (hello : Hello) : Except Failure Unit :=
  requireLength hello.clientNonce nonceLength

/-- `DiagnosticChallenge`. -/
structure Challenge where
  serverNonce : Bytes
  challengeID : Bytes
  serverID : Bytes
  deriving Repr, DecidableEq

def Challenge.validate (challenge : Challenge) : Except Failure Unit := do
  requireLength challenge.serverNonce nonceLength
  requireLength challenge.challengeID identifierLength
  requireLength challenge.serverID identifierLength

/-- `DiagnosticClientProof`. -/
structure ClientProof where
  proof : Bytes
  deriving Repr, DecidableEq

def ClientProof.validate (message : ClientProof) : Except Failure Unit :=
  requireLength message.proof macLength

/-- `DiagnosticServerFinished`. -/
structure ServerFinished where
  sessionID : Bytes
  proof : Bytes
  deriving Repr, DecidableEq

def ServerFinished.validate (message : ServerFinished) : Except Failure Unit := do
  requireLength message.sessionID identifierLength
  requireLength message.proof macLength

theorem requireLength_eq_ok {data : Bytes} {length : Nat} {u : Unit} :
    requireLength data length = .ok u ↔ data.length = length :=
  Except.guard_eq_ok

theorem Hello.validate_eq_ok {hello : Hello} {u : Unit} :
    hello.validate = .ok u ↔ hello.clientNonce.length = nonceLength :=
  requireLength_eq_ok

theorem Challenge.validate_eq_ok {challenge : Challenge} {u : Unit} :
    challenge.validate = .ok u ↔
      challenge.serverNonce.length = nonceLength ∧
        challenge.challengeID.length = identifierLength ∧
        challenge.serverID.length = identifierLength := by
  simp only [validate, Except.check_bind_eq_ok, requireLength_eq_ok]

/-! ### Transcripts -/

namespace Transcript

def domain : Bytes := encode "QuadControlDiagnostic".toList

/-- `canonical`. -/
def canonical (label : Text) (fields : List Bytes) : Bytes :=
  domain ++ bigEndian 4 version ++ prefixed (encode label) ++ frames fields

/-- The four fields of a handshake, in their order. -/
def handshakeFields (hello : Hello) (challenge : Challenge) : List Bytes :=
  [hello.clientNonce, challenge.serverNonce, challenge.challengeID, challenge.serverID]

def clientProof (hello : Hello) (challenge : Challenge) : Except Failure Bytes := do
  hello.validate
  challenge.validate
  return canonical "client-proof".toList (handshakeFields hello challenge)

def sessionInfo (hello : Hello) (challenge : Challenge) : Except Failure Bytes := do
  hello.validate
  challenge.validate
  return canonical "session-key".toList (handshakeFields hello challenge)

def serverFinished (hello : Hello) (challenge : Challenge) (sessionID : Bytes) :
    Except Failure Bytes := do
  hello.validate
  challenge.validate
  requireLength sessionID identifierLength
  return canonical "server-finished".toList (handshakeFields hello challenge ++ [sessionID])

def canonicalHeartbeat (label : Text) (sessionID : Bytes) (sequence : UInt64)
    (semanticValue : Bytes) : Bytes :=
  canonical label [sessionID, bigEndian 8 sequence.toNat, semanticValue]

/-- A transcript of a session, whose status is `expected`. -/
def sessionTranscript (label expected : Text) (sessionID : Bytes) (sequence : UInt64)
    (status : Text) : Except Failure Bytes := do
  requireLength sessionID identifierLength
  if status = expected then
    return canonicalHeartbeat label sessionID sequence (encode status)
  else throw .malformed

def clientHeartbeat : Bytes → UInt64 → Text → Except Failure Bytes :=
  sessionTranscript "client-heartbeat".toList "alive".toList

def serverAck : Bytes → UInt64 → Text → Except Failure Bytes :=
  sessionTranscript "server-ack".toList "ok".toList

/-! ### What a transcript tells -/

theorem canonical_label_inj {label other : Text} {fields others : List Bytes}
    (fits : Fits (encode label)) (fits' : Fits (encode other))
    (same : canonical label fields = canonical other others) :
    label = other ∧ frames fields = frames others := by
  simp only [canonical, List.append_assoc, List.append_cancel_left_eq] at same
  obtain ⟨labels, rest⟩ := prefixed_append_inj fits fits' same
  exact ⟨encode_injective labels, rest⟩

/-- Transcripts of one label tell their fields. -/
theorem canonical_inj {label : Text} {fields others : List Bytes} (labelled : Fits (encode label))
    (fits : ∀ field ∈ fields, Fits field) (fits' : ∀ field ∈ others, Fits field)
    (same : canonical label fields = canonical label others) : fields = others :=
  frames_inj fits fits' (canonical_label_inj labelled labelled same).2

/-- A field of a handshake that passes its checks. -/
theorem fits_of_length {field : Bytes} {length : Nat} (checked : field.length = length)
    (small : length < 2 ^ 32) : Fits field := by
  unfold Fits
  omega

theorem fits_handshakeFields {hello : Hello} {challenge : Challenge}
    (valid : hello.validate = .ok ()) (valid' : challenge.validate = .ok ()) :
    ∀ field ∈ handshakeFields hello challenge, Fits field := by
  obtain ⟨nonce, challengeID, serverID⟩ := Challenge.validate_eq_ok.mp valid'
  intro field inside
  simp only [handshakeFields, List.mem_cons, List.not_mem_nil, or_false] at inside
  rcases inside with rfl | rfl | rfl | rfl
  · exact fits_of_length (Hello.validate_eq_ok.mp valid) (by decide)
  · exact fits_of_length nonce (by decide)
  · exact fits_of_length challengeID (by decide)
  · exact fits_of_length serverID (by decide)

theorem fits_append_session {fields : List Bytes} {sessionID : Bytes}
    (fits : ∀ field ∈ fields, Fits field) (length : sessionID.length = identifierLength) :
    ∀ field ∈ fields ++ [sessionID], Fits field := by
  intro field inside
  rcases List.mem_append.mp inside with before | last
  · exact fits field before
  · obtain rfl := List.mem_singleton.mp last
    exact fits_of_length length (by decide)

theorem handshakeFields_inj {hello hello' : Hello} {challenge challenge' : Challenge}
    (same : handshakeFields hello challenge = handshakeFields hello' challenge') :
    hello = hello' ∧ challenge = challenge' := by
  cases hello
  cases hello'
  cases challenge
  cases challenge'
  simpa [handshakeFields] using same

theorem clientProof_eq_ok {hello : Hello} {challenge : Challenge} {transcript : Bytes} :
    clientProof hello challenge = .ok transcript ↔
      hello.validate = .ok () ∧ challenge.validate = .ok () ∧
        canonical "client-proof".toList (handshakeFields hello challenge) = transcript := by
  simp only [clientProof, Except.check_bind_eq_ok, Except.pure_eq_ok]

theorem sessionInfo_eq_ok {hello : Hello} {challenge : Challenge} {info : Bytes} :
    sessionInfo hello challenge = .ok info ↔
      hello.validate = .ok () ∧ challenge.validate = .ok () ∧
        canonical "session-key".toList (handshakeFields hello challenge) = info := by
  simp only [sessionInfo, Except.check_bind_eq_ok, Except.pure_eq_ok]

theorem serverFinished_eq_ok {hello : Hello} {challenge : Challenge}
    {sessionID transcript : Bytes} :
    serverFinished hello challenge sessionID = .ok transcript ↔
      hello.validate = .ok () ∧ challenge.validate = .ok () ∧
        sessionID.length = identifierLength ∧
        canonical "server-finished".toList (handshakeFields hello challenge ++ [sessionID]) =
          transcript := by
  simp only [serverFinished, Except.check_bind_eq_ok, requireLength_eq_ok, Except.pure_eq_ok]

/-- A proof's transcript tells its handshake. -/
theorem clientProof_inj {hello hello' : Hello} {challenge challenge' : Challenge}
    {transcript : Bytes} (here : clientProof hello challenge = .ok transcript)
    (there : clientProof hello' challenge' = .ok transcript) :
    hello = hello' ∧ challenge = challenge' := by
  obtain ⟨valid, checked, same⟩ := clientProof_eq_ok.mp here
  obtain ⟨valid', checked', same'⟩ := clientProof_eq_ok.mp there
  apply handshakeFields_inj
  apply canonical_inj _ _ _ (same.trans same'.symm)
  · decide
  · exact fits_handshakeFields valid checked
  · exact fits_handshakeFields valid' checked'

/-- The server's transcript tells its handshake and its session. -/
theorem serverFinished_inj {hello hello' : Hello} {challenge challenge' : Challenge}
    {sessionID sessionID' transcript : Bytes}
    (here : serverFinished hello challenge sessionID = .ok transcript)
    (there : serverFinished hello' challenge' sessionID' = .ok transcript) :
    hello = hello' ∧ challenge = challenge' ∧ sessionID = sessionID' := by
  obtain ⟨valid, checked, length, same⟩ := serverFinished_eq_ok.mp here
  obtain ⟨valid', checked', length', same'⟩ := serverFinished_eq_ok.mp there
  have fields : handshakeFields hello challenge ++ [sessionID] =
      handshakeFields hello' challenge' ++ [sessionID'] := by
    apply canonical_inj _ _ _ (same.trans same'.symm)
    · decide
    · exact fits_append_session (fits_handshakeFields valid checked) length
    · exact fits_append_session (fits_handshakeFields valid' checked') length'
  obtain ⟨handshake, session⟩ := List.append_inj fields rfl
  obtain ⟨hellos, challenges⟩ := handshakeFields_inj handshake
  exact ⟨hellos, challenges, List.singleton_inj.mp session⟩

/-! ### The label of a transcript -/

/-- A transcript of the operation with this label. -/
def HasLabel (transcript : Bytes) (label : Text) : Prop :=
  ∃ fields, canonical label fields = transcript

theorem HasLabel.inj {transcript : Bytes} {label other : Text} (fits : Fits (encode label))
    (fits' : Fits (encode other)) (here : HasLabel transcript label)
    (there : HasLabel transcript other) : label = other := by
  obtain ⟨fields, rfl⟩ := here
  obtain ⟨others, same⟩ := there
  exact (canonical_label_inj fits fits' same.symm).1

theorem hasLabel_clientProof {hello : Hello} {challenge : Challenge} {transcript : Bytes}
    (made : clientProof hello challenge = .ok transcript) :
    HasLabel transcript "client-proof".toList :=
  ⟨_, (clientProof_eq_ok.mp made).2.2⟩

theorem hasLabel_serverFinished {hello : Hello} {challenge : Challenge}
    {sessionID transcript : Bytes} (made : serverFinished hello challenge sessionID = .ok transcript) :
    HasLabel transcript "server-finished".toList :=
  ⟨_, (serverFinished_eq_ok.mp made).2.2.2⟩

theorem hasLabel_session {label expected status : Text} {sessionID transcript : Bytes}
    {sequence : UInt64}
    (made : sessionTranscript label expected sessionID sequence status = .ok transcript) :
    HasLabel transcript label := by
  unfold sessionTranscript at made
  obtain ⟨-, made⟩ := Except.check_bind_eq_ok.mp made
  split at made
  · cases made
    exact ⟨_, rfl⟩
  · cases made

/-- What the transcripts with a label begin with. -/
def opening (label : Text) : Bytes :=
  domain ++ bigEndian 4 version ++ prefixed (encode label)

theorem HasLabel.opening {transcript : Bytes} {label other : Text} (fits : Fits (encode label))
    (fits' : Fits (encode other)) (here : HasLabel transcript label)
    (there : Transcript.opening other <+: transcript) : label = other := by
  obtain ⟨fields, rfl⟩ := here
  obtain ⟨rest, same⟩ := there
  simp only [canonical, Transcript.opening, List.append_assoc, List.append_cancel_left_eq] at same
  exact (encode_injective (prefixed_append_inj fits' fits same).1).symm

theorem sessionTranscript_eq_ok {label expected status : Text} {sessionID transcript : Bytes}
    {sequence : UInt64} :
    sessionTranscript label expected sessionID sequence status = .ok transcript ↔
      sessionID.length = identifierLength ∧ status = expected ∧
        canonicalHeartbeat label sessionID sequence (encode status) = transcript := by
  unfold sessionTranscript
  rw [Except.check_bind_eq_ok, requireLength_eq_ok]
  split
  · rename_i same
    simp only [same, true_and, Except.pure_eq_ok]
  · rename_i other
    simp only [other, false_and, and_false, iff_false]
    rintro ⟨-, malformed⟩
    cases malformed

/-- The transcripts of a session tell it, and their number. -/
theorem sessionTranscript_inj {label expected status status' : Text}
    {sessionID sessionID' transcript : Bytes} {sequence sequence' : UInt64}
    (labelled : Fits (encode label)) (fits : Fits (encode expected))
    (here : sessionTranscript label expected sessionID sequence status = .ok transcript)
    (there : sessionTranscript label expected sessionID' sequence' status' = .ok transcript) :
    sessionID = sessionID' ∧ sequence = sequence' := by
  obtain ⟨length, rfl, same⟩ := sessionTranscript_eq_ok.mp here
  obtain ⟨length', rfl, same'⟩ := sessionTranscript_eq_ok.mp there
  have numbered : ∀ number : UInt64, Fits (bigEndian 8 number.toNat) := by
    intro number
    exact fits_of_length (length_bigEndian 8 _) (by decide)
  have fields : ∀ {sessionID : Bytes} {sequence : UInt64}, sessionID.length = identifierLength →
      ∀ field ∈ [sessionID, bigEndian 8 sequence.toNat, encode status'], Fits field := by
    intro sessionID sequence length field inside
    simp only [List.mem_cons, List.not_mem_nil, or_false] at inside
    rcases inside with rfl | rfl | rfl
    · exact fits_of_length length (by decide)
    · exact numbered sequence
    · exact fits
  have parts := canonical_inj labelled (fields length) (fields length') (same.trans same'.symm)
  obtain ⟨sessions, rest⟩ := List.cons.inj parts
  obtain ⟨numbers, -⟩ := List.cons.inj rest
  refine ⟨sessions, UInt64.toNat_inj.mp ?_⟩
  exact bigEndian_inj sequence.toNat_lt sequence'.toNat_lt numbers

end Transcript

end QuadControl.Apple.Diagnostic
