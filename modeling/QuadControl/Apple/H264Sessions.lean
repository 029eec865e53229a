import QuadControl.Apple.H264Decoder
import QuadControl.Lib.Machine

/-! # Sessions and their parameter sets

Whatever units a decoder is fed, and however the frameworks answer, a picture goes to a session
that was built from the latest parameter sets. A setup that fails halfway leaves nothing behind
that a later picture would take for a session.
-/

namespace QuadControl.Apple.AndroidVideo

open Lib Lib.Utf8 Lib.Framing

/-! ### What was fed -/

/-- A unit that a decoder is fed, and how the frameworks answer. -/
structure Fed where
  unit : NalUnit
  answers : Answers
  nonempty : unit.payload ≠ []
  short : Fits unit.payload

/-- The payload of the last unit of a kind. -/
def latest (kind : Kind) (fed : List Fed) : Option Bytes :=
  (fed.reverse.find? fun one => one.unit.kind = kind).map fun one => one.unit.payload

theorem latest_concat (kind : Kind) (fed : List Fed) (one : Fed) :
    latest kind (fed ++ [one]) =
      if one.unit.kind = kind then some one.unit.payload else latest kind fed := by
  rw [latest, List.reverse_concat, List.find?_cons]
  by_cases same : one.unit.kind = kind
  · rw [if_pos same, decide_eq_true same]
    rfl
  · rw [if_neg same, decide_eq_false same]
    rfl

theorem latest_ne_nil {kind : Kind} {fed : List Fed} {payload : Bytes}
    (found : latest kind fed = some payload) : payload ≠ [] := by
  rw [latest, Option.map_eq_some_iff] at found
  obtain ⟨one, -, rfl⟩ := found
  exact one.nonempty

namespace H264Decoder

variable {decoder : H264Decoder} {fed : List Fed} {s p : Bytes}

def step (decoder : H264Decoder) (one : Fed) : Option H264Decoder :=
  (decoder.decode one.unit one.answers).map Ended.decoder

/-- The decoder follows what it was fed: it has the latest parameter sets, and whatever was
    built is built from them. -/
structure Follows (fed : List Fed) (decoder : H264Decoder) : Prop where
  sps : decoder.sps = latest .sps fed
  pps : decoder.pps = latest .pps fed
  described : ∀ description, decoder.formatDescription = some description →
    decoder.sps = some description.sps ∧ decoder.pps = some description.pps
  built : ∀ session, decoder.session = some session →
    decoder.formatDescription = some session.description

theorem follows_new : new.Follows [] := ⟨rfl, rfl, nofun, nofun⟩

theorem avccSample_eq {payload : Bytes} (short : Fits payload) :
    avccSample payload = some (prefixed payload) :=
  if_pos short

theorem decode_picture {unit : NalUnit} (picture : unit.kind.isPicture) (answers : Answers) :
    decoder.decode unit answers =
      if decoder.sps.isSome && decoder.pps.isSome then
        decoder.decodePicture unit.payload answers
      else some ⟨none, decoder, []⟩ := by
  rw [decode]
  cases kind : unit.kind <;> rw [kind] at picture <;> first | rfl | cases picture

/-- What becomes of a unit that is no picture. -/
inductive Configured (decoder : H264Decoder) (unit : NalUnit) : Ended → Prop where
  | stays (sps : unit.kind = .sps → decoder.sps = some unit.payload)
      (pps : unit.kind = .pps → decoder.pps = some unit.payload) :
      Configured decoder unit ⟨none, decoder, []⟩
  | sps (kind : unit.kind = .sps) (changed : decoder.sps ≠ some unit.payload) :
      Configured decoder unit (invalidateSession { decoder with sps := some unit.payload })
  | pps (kind : unit.kind = .pps) (changed : decoder.pps ≠ some unit.payload) :
      Configured decoder unit (invalidateSession { decoder with pps := some unit.payload })

theorem configured (decoder : H264Decoder) {unit : NalUnit} (other : ¬ unit.kind.isPicture)
    (answers : Answers) :
    ∃ ended, decoder.decode unit answers = some ended ∧ Configured decoder unit ended := by
  rw [decode]
  cases kind : unit.kind with
  | sps =>
      by_cases same : decoder.sps = some unit.payload
      · exact ⟨_, if_pos same, .stays (fun _ => same) fun pps => by cases kind.symm.trans pps⟩
      · exact ⟨_, if_neg same, .sps kind same⟩
  | pps =>
      by_cases same : decoder.pps = some unit.payload
      · exact ⟨_, if_pos same, .stays (fun sps => by cases kind.symm.trans sps) fun _ => same⟩
      · exact ⟨_, if_neg same, .pps kind same⟩
  | accessUnitDelimiter | other =>
      exact ⟨_, rfl, .stays (fun sps => by cases kind.symm.trans sps)
        fun pps => by cases kind.symm.trans pps⟩
  | idrSlice | nonIDRSlice =>
      rw [kind] at other
      exact absurd rfl other

theorem Configured.thrown {unit : NalUnit} {ended : Ended}
    (configured : Configured decoder unit ended) : ended.thrown = none := by
  cases configured <;> rfl

/-- Nothing is submitted: at most a session is invalidated. -/
theorem Configured.notSubmitted {unit : NalUnit} {ended : Ended}
    (configured : Configured decoder unit ended) (session : DecompressionSession)
    (sample : SampleBuffer) : .decodeFrame session sample ∉ ended.calls := by
  cases configured with
  | stays => exact List.not_mem_nil
  | sps | pps => simp [invalidateSession]

/-- With a session, a picture goes to it with the format description it was created with. -/
theorem decodePicture_of_session (follows : decoder.Follows fed) {session : DecompressionSession}
    (here : decoder.session = some session) {payload : Bytes} (short : Fits payload)
    (answers : Answers) :
    decoder.decodePicture payload answers =
      some ⟨(submit session session.description (prefixed payload) answers).1, decoder,
        (submit session session.description (prefixed payload) answers).2⟩ := by
  have ensured : decoder.ensureSession answers = some ⟨none, decoder, []⟩ := by
    rw [ensureSession, here, follows.built session here]
  rw [decodePicture, ensured]
  simp only [Option.bind_eq_bind, Option.bind_some, here, follows.built session here,
    avccSample_eq short]
  rfl

/-- Without one, the session is built first, from the parameter sets there are. -/
theorem decodePicture_of_none (hs : decoder.sps = some s) (hp : decoder.pps = some p)
    (some_sps : s ≠ []) (some_pps : p ≠ []) (idle : decoder.session = none) {payload : Bytes}
    (short : Fits payload) (answers : Answers) :
    decoder.decodePicture payload answers =
      let built := decoder.buildSession ⟨s, p⟩ answers
      if built.thrown.isSome then some built
      else some ⟨(submit ⟨⟨s, p⟩⟩ ⟨s, p⟩ (prefixed payload) answers).1, built.decoder,
        built.calls ++ (submit ⟨⟨s, p⟩⟩ ⟨s, p⟩ (prefixed payload) answers).2⟩ := by
  have ensured : decoder.ensureSession answers = some (decoder.buildSession ⟨s, p⟩ answers) := by
    rw [ensureSession, idle, hs, hp]
    simp only [baseAddress, if_neg some_sps, if_neg some_pps]
    rfl
  rw [decodePicture, ensured]
  obtain ⟨description, session, memory, block, sample, frame⟩ := answers
  cases description with
  | false => rfl
  | true =>
      cases session with
      | false => rfl
      | true =>
          simp only [Option.bind_eq_bind, Option.bind_some, avccSample_eq short]
          rfl

/-! ### The decoder after any units -/

theorem Follows.concat (follows : decoder.Follows fed) {one : Fed}
    (sps : one.unit.kind = .sps → decoder.sps = some one.unit.payload)
    (pps : one.unit.kind = .pps → decoder.pps = some one.unit.payload) :
    decoder.Follows (fed ++ [one]) := by
  refine ⟨?_, ?_, follows.described, follows.built⟩
  · rw [latest_concat]
    split
    · exact sps ‹_›
    · exact follows.sps
  · rw [latest_concat]
    split
    · exact pps ‹_›
    · exact follows.pps

theorem Configured.follows {one : Fed} {ended : Ended}
    (configured : Configured decoder one.unit ended) (follows : decoder.Follows fed) :
    ended.decoder.Follows (fed ++ [one]) := by
  cases configured with
  | stays sps pps => exact follows.concat sps pps
  | sps kind =>
      have other : one.unit.kind ≠ .pps := by rw [kind]; rintro ⟨⟩
      refine ⟨?_, ?_, nofun, nofun⟩
      · rw [latest_concat, if_pos kind]
        rfl
      · rw [latest_concat, if_neg other]
        exact follows.pps
  | pps kind =>
      have other : one.unit.kind ≠ .sps := by rw [kind]; rintro ⟨⟩
      refine ⟨?_, ?_, nofun, nofun⟩
      · rw [latest_concat, if_neg other]
        exact follows.sps
      · rw [latest_concat, if_pos kind]
        rfl

/-- A parameter set that is the latest already changes nothing. -/
theorem Configured.keeps {one : Fed} {ended : Ended}
    (configured : Configured decoder one.unit ended) (follows : decoder.Follows fed)
    (same : latest one.unit.kind fed = some one.unit.payload) : ended = ⟨none, decoder, []⟩ := by
  cases configured with
  | stays => rfl
  | sps kind changed =>
      rw [kind, ← follows.sps] at same
      exact absurd same changed
  | pps kind changed =>
      rw [kind, ← follows.pps] at same
      exact absurd same changed

theorem Follows.buildSession (follows : decoder.Follows fed) (hs : decoder.sps = some s)
    (hp : decoder.pps = some p) (idle : decoder.session = none) (answers : Answers) :
    (decoder.buildSession ⟨s, p⟩ answers).decoder.Follows fed := by
  have described : ∀ description : FormatDescription, some ⟨s, p⟩ = some description →
      decoder.sps = some description.sps ∧ decoder.pps = some description.pps := by
    rintro description ⟨⟩
    exact ⟨hs, hp⟩
  rw [H264Decoder.buildSession]
  split
  · split
    · refine ⟨follows.sps, follows.pps, described, ?_⟩
      rintro session ⟨⟩
      rfl
    · refine ⟨follows.sps, follows.pps, described, ?_⟩
      intro session here
      cases idle.symm.trans here
  · exact follows

/-- What becomes of a picture. -/
inductive Shown (decoder : H264Decoder) (fed : List Fed) (one : Fed) : Ended → Prop where
  | waits (missing : latest .sps fed = none ∨ latest .pps fed = none) :
      Shown decoder fed one ⟨none, decoder, []⟩
  | submitted (s p : Bytes) (sps : latest .sps fed = some s) (pps : latest .pps fed = some p)
      (session : decoder.session = some ⟨⟨s, p⟩⟩) :
      Shown decoder fed one
        ⟨(submit ⟨⟨s, p⟩⟩ ⟨s, p⟩ (prefixed one.unit.payload) one.answers).1, decoder,
          (submit ⟨⟨s, p⟩⟩ ⟨s, p⟩ (prefixed one.unit.payload) one.answers).2⟩
  | failed (s p : Bytes) (sps : latest .sps fed = some s) (pps : latest .pps fed = some p)
      (idle : decoder.session = none)
      (thrown : (decoder.buildSession ⟨s, p⟩ one.answers).thrown.isSome) :
      Shown decoder fed one (decoder.buildSession ⟨s, p⟩ one.answers)
  | built (s p : Bytes) (sps : latest .sps fed = some s) (pps : latest .pps fed = some p)
      (idle : decoder.session = none) :
      Shown decoder fed one
        ⟨(submit ⟨⟨s, p⟩⟩ ⟨s, p⟩ (prefixed one.unit.payload) one.answers).1,
          (decoder.buildSession ⟨s, p⟩ one.answers).decoder,
          (decoder.buildSession ⟨s, p⟩ one.answers).calls ++
            (submit ⟨⟨s, p⟩⟩ ⟨s, p⟩ (prefixed one.unit.payload) one.answers).2⟩

theorem Follows.shown (follows : decoder.Follows fed) {one : Fed}
    (picture : one.unit.kind.isPicture) :
    ∃ ended, decoder.decode one.unit one.answers = some ended ∧ Shown decoder fed one ended := by
  rw [decode_picture picture]
  cases hs : decoder.sps with
  | none => exact ⟨_, rfl, .waits (.inl (follows.sps.symm.trans hs))⟩
  | some s =>
      cases hp : decoder.pps with
      | none => exact ⟨_, rfl, .waits (.inr (follows.pps.symm.trans hp))⟩
      | some p =>
          have sps := follows.sps.symm.trans hs
          have pps := follows.pps.symm.trans hp
          cases session : decoder.session with
          | some session' =>
              obtain ⟨description⟩ := session'
              have own := follows.described _ (follows.built _ session)
              rw [hs, hp] at own
              obtain ⟨⟨rfl⟩, ⟨rfl⟩⟩ := own
              exact ⟨_, decodePicture_of_session follows session one.short one.answers,
                .submitted _ _ sps pps session⟩
          | none =>
              have done := decodePicture_of_none hs hp (latest_ne_nil sps) (latest_ne_nil pps)
                session one.short one.answers
              dsimp only at done
              split at done
              · rename_i thrown
                exact ⟨_, done, .failed s p sps pps session thrown⟩
              · exact ⟨_, done, .built s p sps pps session⟩

theorem Shown.follows {one : Fed} {ended : Ended} (shown : Shown decoder fed one ended)
    (follows : decoder.Follows fed) : ended.decoder.Follows fed := by
  cases shown with
  | waits | submitted => exact follows
  | failed s p sps pps idle | built s p sps pps idle =>
      exact follows.buildSession (follows.sps.trans sps) (follows.pps.trans pps) idle one.answers

theorem Follows.decode (follows : decoder.Follows fed) (one : Fed) :
    ∃ ended, decoder.decode one.unit one.answers = some ended ∧
      ended.decoder.Follows (fed ++ [one]) := by
  by_cases picture : one.unit.kind.isPicture
  · obtain ⟨ended, decoded, shown⟩ := follows.shown picture
    refine ⟨ended, decoded, (shown.follows follows).concat ?_ ?_⟩
    · intro kind
      rw [kind] at picture
      cases picture
    · intro kind
      rw [kind] at picture
      cases picture
  · obtain ⟨ended, decoded, configured⟩ := decoder.configured picture one.answers
    exact ⟨ended, decoded, configured.follows follows⟩

/-- However the frameworks answer, no unit makes the decoder trap, and it follows them all. -/
theorem follows_run (fed : List Fed) :
    ∃ decoder, Machine.run step new fed = some decoder ∧ decoder.Follows fed := by
  induction fed using List.reverseRecOn with
  | nil => exact ⟨new, rfl, follows_new⟩
  | append_singleton fed one ih =>
      obtain ⟨decoder, ran, follows⟩ := ih
      obtain ⟨ended, decoded, follows'⟩ := follows.decode one
      have stepped : step decoder one = some ended.decoder := by rw [step, decoded]; rfl
      exact ⟨ended.decoder, Machine.run_snoc ran stepped, follows'⟩

/-! ### What is submitted -/

theorem mem_submit {session used : DecompressionSession} {description : FormatDescription}
    {data : Bytes} {answers : Answers} {sample : SampleBuffer}
    (submitted : .decodeFrame used sample ∈ (submit session description data answers).2) :
    used = session ∧ sample = ⟨data, description⟩ := by
  unfold submit at submitted
  split at submitted
  · cases submitted
  · split at submitted
    · simp at submitted
    · split at submitted
      · simp at submitted
      · simpa using submitted

theorem thrown_submit (session : DecompressionSession) (description : FormatDescription)
    (data : Bytes) (answers : Answers) :
    (submit session description data answers).1 ≠ some .formatDescription ∧
      (submit session description data answers).1 ≠ some .sessionCreation := by
  unfold submit
  split
  · exact ⟨nofun, nofun⟩
  · split
    · exact ⟨nofun, nofun⟩
    · split
      · exact ⟨nofun, nofun⟩
      · cases answers.frame <;> exact ⟨nofun, nofun⟩

theorem calls_buildSession (description : FormatDescription) (answers : Answers) :
    (decoder.buildSession description answers).calls =
      .createDescription description.sps description.pps ::
        if answers.description then [.createSession description] else [] := by
  rw [buildSession]
  split
  · cases answers.session <;> rfl
  · rfl

/-- A picture is submitted as what a decoder needs that was given the parameter sets. -/
structure Submitted (s p payload : Bytes) (session : DecompressionSession)
    (sample : SampleBuffer) : Prop where
  session : session.description = ⟨s, p⟩
  description : sample.description = ⟨s, p⟩
  length : ofBigEndian (sample.data.take 4) = payload.length
  payload : sample.data.drop 4 = payload

theorem submitted_prefixed {payload : Bytes} (short : Fits payload) (s p : Bytes) :
    Submitted s p payload ⟨⟨s, p⟩⟩ ⟨prefixed payload, ⟨s, p⟩⟩ := by
  have length : (bigEndian 4 payload.length).length = 4 := length_bigEndian _ _
  refine ⟨rfl, rfl, ?_, ?_⟩
  · rw [prefixed, List.take_left' length, ofBigEndian_bigEndian short]
  · rw [prefixed, List.drop_left' length]

theorem Shown.submission {one : Fed} {ended : Ended} (shown : Shown decoder fed one ended)
    {session : DecompressionSession} {sample : SampleBuffer}
    (submitted : .decodeFrame session sample ∈ ended.calls) :
    ∃ s p, latest .sps fed = some s ∧ latest .pps fed = some p ∧
      Submitted s p one.unit.payload session sample := by
  have setup : ∀ s p, .decodeFrame session sample ∉
      (decoder.buildSession ⟨s, p⟩ one.answers).calls := by
    intro s p
    rw [calls_buildSession]
    split <;> simp
  cases shown with
  | waits => cases submitted
  | submitted s p sps pps =>
      obtain ⟨rfl, rfl⟩ := mem_submit submitted
      exact ⟨s, p, sps, pps, submitted_prefixed one.short s p⟩
  | failed s p => exact absurd submitted (setup s p)
  | built s p sps pps =>
      rcases List.mem_append.mp submitted with before | behind
      · exact absurd before (setup s p)
      · obtain ⟨rfl, rfl⟩ := mem_submit behind
        exact ⟨s, p, sps, pps, submitted_prefixed one.short s p⟩

theorem Follows.submission (follows : decoder.Follows fed) {one : Fed} {ended : Ended}
    (decoded : decoder.decode one.unit one.answers = some ended) {session : DecompressionSession}
    {sample : SampleBuffer} (submitted : .decodeFrame session sample ∈ ended.calls) :
    ∃ s p, latest .sps fed = some s ∧ latest .pps fed = some p ∧
      Submitted s p one.unit.payload session sample := by
  by_cases picture : one.unit.kind.isPicture
  · obtain ⟨ended', decoded', shown⟩ := follows.shown picture
    obtain rfl := Option.some.inj (decoded'.symm.trans decoded)
    exact shown.submission submitted
  · obtain ⟨ended', decoded', configured⟩ := decoder.configured picture one.answers
    obtain rfl := Option.some.inj (decoded'.symm.trans decoded)
    exact absurd submitted (configured.notSubmitted session sample)

/-! ### A setup that failed -/

/-- The parameter sets are there, but no session. -/
structure Waiting (decoder : H264Decoder) : Prop where
  idle : decoder.session = none
  sps : decoder.sps ≠ none
  pps : decoder.pps ≠ none

theorem Shown.waiting {one : Fed} {ended : Ended} (shown : Shown decoder fed one ended)
    (follows : decoder.Follows fed)
    (failed : ended.thrown = some .formatDescription ∨ ended.thrown = some .sessionCreation) :
    ended.decoder.Waiting := by
  cases shown with
  | waits => rcases failed with failed | failed <;> cases failed
  | submitted | built =>
      rcases failed with failed | failed
      · exact absurd failed (thrown_submit _ _ _ _).1
      · exact absurd failed (thrown_submit _ _ _ _).2
  | failed s p sps pps idle thrown =>
      have hs : decoder.sps ≠ none := by rw [follows.sps, sps]; nofun
      have hp : decoder.pps ≠ none := by rw [follows.pps, pps]; nofun
      rw [H264Decoder.buildSession] at thrown ⊢
      split
      · split
        · rename_i described created
          rw [if_pos described, if_pos created] at thrown
          cases thrown
        · exact ⟨idle, hs, hp⟩
      · exact ⟨idle, hs, hp⟩

theorem Configured.waiting {unit : NalUnit} {ended : Ended}
    (configured : Configured decoder unit ended) (waiting : decoder.Waiting) :
    ended.decoder.Waiting := by
  cases configured with
  | stays => exact waiting
  | sps => exact ⟨rfl, Option.some_ne_none _, waiting.pps⟩
  | pps => exact ⟨rfl, waiting.sps, Option.some_ne_none _⟩

theorem Waiting.step (waiting : decoder.Waiting) {one : Fed} (other : ¬ one.unit.kind.isPicture)
    {next : H264Decoder} (stepped : decoder.step one = some next) : next.Waiting := by
  obtain ⟨ended, decoded, configured⟩ := decoder.configured other one.answers
  rw [H264Decoder.step, decoded] at stepped
  obtain rfl := Option.some.inj stepped
  exact configured.waiting waiting

/-- The setup is tried once more, with the parameter sets that are the latest by then. -/
theorem Shown.retries {one : Fed} {ended : Ended} (shown : Shown decoder fed one ended)
    (follows : decoder.Follows fed) (waiting : decoder.Waiting) :
    ∃ s p rest, latest .sps fed = some s ∧ latest .pps fed = some p ∧
      ended.calls = .createDescription s p :: rest ∧
      (one.answers.description → rest.head? = some (.createSession ⟨s, p⟩)) := by
  cases shown with
  | waits missing =>
      rw [← follows.sps, ← follows.pps] at missing
      rcases missing with missing | missing
      · exact absurd missing waiting.sps
      · exact absurd missing waiting.pps
  | submitted s p sps pps session => cases waiting.idle.symm.trans session
  | failed s p sps pps =>
      refine ⟨s, p, _, sps, pps, calls_buildSession _ _, fun described => ?_⟩
      rw [if_pos described]
      rfl
  | built s p sps pps =>
      refine ⟨s, p, _, sps, pps, congrArg (· ++ _) (calls_buildSession _ _), fun described => ?_⟩
      rw [if_pos described]
      rfl

/-! ### Every unit -/

/-- A unit after others fails while the format description or the session is built. -/
def SetupFails (before : List Fed) (failed : Fed) : Prop :=
  ∃ decoder ended, Machine.run step new before = some decoder ∧
    decoder.decode failed.unit failed.answers = some ended ∧
    (ended.thrown = some .formatDescription ∨ ended.thrown = some .sessionCreation)

theorem waiting_of_setupFails {before between : List Fed} {failed : Fed}
    (fails : SetupFails before failed) (others : ∀ other ∈ between, ¬ other.unit.kind.isPicture)
    (ran : Machine.run step new (before ++ failed :: between) = some decoder) :
    decoder.Waiting := by
  obtain ⟨reached, ended, ran', decoded, thrown⟩ := fails
  have follows : reached.Follows before := by
    obtain ⟨reached', again, follows⟩ := follows_run before
    obtain rfl := Option.some.inj (again.symm.trans ran')
    exact follows
  have waiting : ended.decoder.Waiting := by
    by_cases picture : failed.unit.kind.isPicture
    · obtain ⟨ended', decoded', shown⟩ := follows.shown picture
      obtain rfl := Option.some.inj (decoded'.symm.trans decoded)
      exact shown.waiting follows thrown
    · obtain ⟨ended', decoded', configured⟩ := reached.configured picture failed.answers
      obtain rfl := Option.some.inj (decoded'.symm.trans decoded)
      rw [configured.thrown] at thrown
      rcases thrown with thrown | thrown <;> cases thrown
  have stepped : step reached failed = some ended.decoder := by rw [step, decoded]; rfl
  rw [Machine.run_append, ran', Option.bind_some, Machine.run, stepped, Option.bind_some] at ran
  exact Machine.run_invariant
    (fun _ _ _ waiting other stepped => waiting.step other stepped) waiting
    (Machine.meets_of_forall (fun other inside _ => others other inside) _) ran

/-- What a decoder that was fed some units makes of one more. -/
structure Decodes (fed : List Fed) (one : Fed) (decoder : H264Decoder) (ended : Ended) : Prop where
  submission : ∀ session sample, .decodeFrame session sample ∈ ended.calls →
    ∃ s p, latest .sps fed = some s ∧ latest .pps fed = some p ∧
      Submitted s p one.unit.payload session sample
  waits : one.unit.kind.isPicture → latest .sps fed = none ∨ latest .pps fed = none →
    ended = ⟨none, decoder, []⟩
  retries : ∀ before failed between, fed = before ++ failed :: between →
    SetupFails before failed → (∀ other ∈ between, ¬ other.unit.kind.isPicture) →
    one.unit.kind.isPicture →
    ∃ s p rest, latest .sps fed = some s ∧ latest .pps fed = some p ∧
      ended.calls = .createDescription s p :: rest ∧
      (one.answers.description → rest.head? = some (.createSession ⟨s, p⟩))
  keeps : one.unit.kind = .sps ∨ one.unit.kind = .pps →
    latest one.unit.kind fed = some one.unit.payload → ended = ⟨none, decoder, []⟩

/-- After any units, one more is decoded with the latest parameter sets. -/
theorem decodes (fed : List Fed) (one : Fed) :
    ∃ decoder ended, Machine.run step new fed = some decoder ∧
      decoder.decode one.unit one.answers = some ended ∧ Decodes fed one decoder ended := by
  obtain ⟨decoder, ran, follows⟩ := follows_run fed
  obtain ⟨ended, decoded, -⟩ := follows.decode one
  refine ⟨decoder, ended, ran, decoded, fun _ _ => follows.submission decoded, ?_, ?_, ?_⟩
  · intro picture missing
    rw [decode_picture picture, follows.sps, follows.pps] at decoded
    rcases missing with missing | missing
    · rw [missing] at decoded
      exact (Option.some.inj decoded).symm
    · rw [missing, Option.isSome_none, Bool.and_false] at decoded
      exact (Option.some.inj decoded).symm
  · rintro before failed between rfl fails others picture
    have waiting := waiting_of_setupFails fails others ran
    obtain ⟨ended', decoded', shown⟩ := follows.shown picture
    obtain rfl := Option.some.inj (decoded'.symm.trans decoded)
    exact shown.retries follows waiting
  · intro kind same
    have other : ¬ one.unit.kind.isPicture := by
      intro picture
      rcases kind with kind | kind <;> rw [kind] at picture <;> cases picture
    obtain ⟨ended', decoded', configured⟩ := decoder.configured other one.answers
    obtain rfl := Option.some.inj (decoded'.symm.trans decoded)
    exact configured.keeps follows same

end H264Decoder

end QuadControl.Apple.AndroidVideo
