import QuadControl.Apple.Transcript

/-! # The transcripts of all operations

Five operations are authenticated over a canonical transcript each. Their labels differ and
their fields fit, so the bytes of a transcript tell the operation and all that it takes.
-/

namespace QuadControl.Apple.Diagnostic

open Lib Lib.Utf8 Lib.Framing Constants

namespace Transcript

/-- What a transcript is computed for, with all that its operation takes. -/
inductive Operation where
  | clientProof (hello : Hello) (challenge : Challenge)
  | sessionInfo (hello : Hello) (challenge : Challenge)
  | serverFinished (hello : Hello) (challenge : Challenge) (sessionID : Bytes)
  | clientHeartbeat (sessionID : Bytes) (sequence : UInt64) (status : Text)
  | serverAck (sessionID : Bytes) (sequence : UInt64) (status : Text)
  deriving Repr, DecidableEq

/-- The operations, without what they take. -/
inductive Operation.Kind where
  | clientProof
  | sessionInfo
  | serverFinished
  | clientHeartbeat
  | serverAck
  deriving Repr, DecidableEq

def Operation.Kind.label : Operation.Kind → Text
  | clientProof => "client-proof".toList
  | sessionInfo => "session-key".toList
  | serverFinished => "server-finished".toList
  | clientHeartbeat => "client-heartbeat".toList
  | serverAck => "server-ack".toList

namespace Operation

theorem Kind.label_injective {kind other : Kind} (same : kind.label = other.label) :
    kind = other := by
  revert same
  cases kind <;> cases other <;> decide

theorem Kind.fits_label (kind : Kind) : Fits (encode kind.label) := by
  cases kind <;> decide

def kind : Operation → Kind
  | clientProof .. => .clientProof
  | sessionInfo .. => .sessionInfo
  | serverFinished .. => .serverFinished
  | clientHeartbeat .. => .clientHeartbeat
  | serverAck .. => .serverAck

def transcript : Operation → Except Failure Bytes
  | clientProof hello challenge => Transcript.clientProof hello challenge
  | sessionInfo hello challenge => Transcript.sessionInfo hello challenge
  | serverFinished hello challenge sessionID =>
      Transcript.serverFinished hello challenge sessionID
  | clientHeartbeat sessionID sequence status =>
      Transcript.clientHeartbeat sessionID sequence status
  | serverAck sessionID sequence status => Transcript.serverAck sessionID sequence status

theorem hasLabel {operation : Operation} {bytes : Bytes}
    (made : operation.transcript = .ok bytes) : Transcript.HasLabel bytes operation.kind.label := by
  cases operation with
  | clientProof hello challenge => exact Transcript.hasLabel_clientProof made
  | sessionInfo hello challenge => exact ⟨_, (Transcript.sessionInfo_eq_ok.mp made).2.2⟩
  | serverFinished hello challenge sessionID => exact Transcript.hasLabel_serverFinished made
  | clientHeartbeat sessionID sequence status => exact Transcript.hasLabel_session made
  | serverAck sessionID sequence status => exact Transcript.hasLabel_session made

/-- No transcript is of two operations. -/
theorem kind_unique {operation other : Operation} {bytes : Bytes}
    (here : operation.transcript = .ok bytes) (there : other.transcript = .ok bytes) :
    operation.kind = other.kind :=
  Kind.label_injective ((hasLabel here).inj (Kind.fits_label _) (Kind.fits_label _)
    (hasLabel there))

/-- The key's transcript tells its handshake. -/
theorem sessionInfo_inj {hello hello' : Hello} {challenge challenge' : Challenge} {info : Bytes}
    (here : Transcript.sessionInfo hello challenge = .ok info)
    (there : Transcript.sessionInfo hello' challenge' = .ok info) :
    hello = hello' ∧ challenge = challenge' := by
  obtain ⟨valid, checked, same⟩ := Transcript.sessionInfo_eq_ok.mp here
  obtain ⟨valid', checked', same'⟩ := Transcript.sessionInfo_eq_ok.mp there
  apply Transcript.handshakeFields_inj
  apply Transcript.canonical_inj _ _ _ (same.trans same'.symm)
  · decide
  · exact Transcript.fits_handshakeFields valid checked
  · exact Transcript.fits_handshakeFields valid' checked'

/-- The transcripts of a session tell its status too, for they have only one. -/
theorem session_fields_inj {label expected status status' : Text}
    {sessionID sessionID' transcript : Bytes} {sequence sequence' : UInt64}
    (labelled : Fits (encode label)) (fits : Fits (encode expected))
    (here : Transcript.sessionTranscript label expected sessionID sequence status =
      .ok transcript)
    (there : Transcript.sessionTranscript label expected sessionID' sequence' status' =
      .ok transcript) :
    sessionID = sessionID' ∧ sequence = sequence' ∧ status = status' := by
  obtain ⟨sessions, sequences⟩ := Transcript.sessionTranscript_inj labelled fits here there
  have expects := (Transcript.sessionTranscript_eq_ok.mp here).2.1
  have expects' := (Transcript.sessionTranscript_eq_ok.mp there).2.1
  exact ⟨sessions, sequences, expects.trans expects'.symm⟩

/-- Equal transcripts are of one operation, and of the same value in each of its fields. -/
theorem transcript_injective {operation other : Operation} {bytes : Bytes}
    (here : operation.transcript = .ok bytes) (there : other.transcript = .ok bytes) :
    operation = other := by
  have kinds := kind_unique here there
  cases operation with
  | clientProof hello challenge =>
      cases other with
      | clientProof hello' challenge' =>
          obtain ⟨rfl, rfl⟩ := Transcript.clientProof_inj here there
          rfl
      | _ => cases kinds
  | sessionInfo hello challenge =>
      cases other with
      | sessionInfo hello' challenge' =>
          obtain ⟨rfl, rfl⟩ := sessionInfo_inj here there
          rfl
      | _ => cases kinds
  | serverFinished hello challenge sessionID =>
      cases other with
      | serverFinished hello' challenge' sessionID' =>
          obtain ⟨rfl, rfl, rfl⟩ := Transcript.serverFinished_inj here there
          rfl
      | _ => cases kinds
  | clientHeartbeat sessionID sequence status =>
      cases other with
      | clientHeartbeat sessionID' sequence' status' =>
          obtain ⟨rfl, rfl, rfl⟩ := session_fields_inj (by decide) (by decide) here there
          rfl
      | _ => cases kinds
  | serverAck sessionID sequence status =>
      cases other with
      | serverAck sessionID' sequence' status' =>
          obtain ⟨rfl, rfl, rfl⟩ := session_fields_inj (by decide) (by decide) here there
          rfl
      | _ => cases kinds

/-- A heartbeat computed twice, its number written in two ways. -/
theorem transcript_injective_heartbeat :
    clientHeartbeat (List.replicate 16 7) 9 "alive".toList =
      clientHeartbeat (List.replicate 16 7) (4 + 5) "alive".toList := by
  have made : (clientHeartbeat (List.replicate 16 7) 9 "alive".toList).transcript =
      .ok (Transcript.canonicalHeartbeat "client-heartbeat".toList (List.replicate 16 7) 9
        (encode "alive".toList)) := by
    decide +kernel
  have again : (clientHeartbeat (List.replicate 16 7) (4 + 5) "alive".toList).transcript =
      .ok (Transcript.canonicalHeartbeat "client-heartbeat".toList (List.replicate 16 7) 9
        (encode "alive".toList)) := by
    decide +kernel
  exact transcript_injective made again

end Operation

end Transcript

end QuadControl.Apple.Diagnostic
