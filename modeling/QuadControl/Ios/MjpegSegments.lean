import QuadControl.Ios.MjpegPump

/-! # Where the reads fall

The pump reads the stream in pieces, and a piece may end anywhere: within a line, a
frame, a character. What it publishes and how it ends are those of `pumpUpstream` for the
stream as a whole.
-/

namespace QuadControl.Ios.Mjpeg

open Lib Lib.Utf8
open Lib.Text (dashes)

/-! ### The functions, one line at a time -/

theorem readHeaders_eq (name : Text) (found : Option Text) (reader : Reader) :
    readHeaders name found reader =
      match readLineOpt reader with
      | .error reason => .error reason
      | .ok (none, rest) => .ok (none, rest)
      | .ok (some line, rest) =>
          if Text.trim line = [] then .ok (some found, rest)
          else readHeaders name ((headerValue name line).or found) rest := by
  rw [readHeaders]
  split <;> simp_all

theorem skipToDelimiter_eq (boundary : Text) (reader : Reader) :
    skipToDelimiter boundary reader =
      match readLineOpt reader with
      | .error reason => .error reason
      | .ok (none, rest) => .ok (false, rest)
      | .ok (some line, rest) =>
          if isDelimiter boundary line then .ok (true, rest)
          else skipToDelimiter boundary rest := by
  rw [skipToDelimiter]
  split <;> simp_all

/-- What is behind a piece of a line that ends, or does not. -/
theorem readLineOpt_append {piece line rest : Bytes} (bytes : Bytes) (failure : Option String)
    (fresh : lineFeed ∉ piece) (split : splitLine bytes = some (line, rest)) (more : Bytes) :
    readLineOpt ⟨piece ++ bytes ++ more, failure⟩ =
      (decodeLine (piece ++ line)).map fun text => (some text, ⟨rest ++ more, failure⟩) := by
  obtain ⟨body, rfl, rfl, plain⟩ := splitLine_eq_some split
  have shape : piece ++ (body ++ lineFeed :: rest) ++ more =
      piece ++ body ++ lineFeed :: (rest ++ more) := by simp
  have whole : lineFeed ∉ piece ++ body := by simp [fresh, plain]
  unfold readLineOpt
  dsimp only
  rw [shape, splitLine_append _ whole]
  simp

/-- A line the socket breaks off. -/
theorem readLineOpt_lost {piece : Bytes} (fresh : lineFeed ∉ piece) (error : String) :
    readLineOpt ⟨piece, some error⟩ = .error (upstreamReadFailed error) := by
  simp [readLineOpt, splitLine_eq_none.mpr fresh]

theorem readLineOpt_last {piece : Bytes} (fresh : lineFeed ∉ piece) :
    readLineOpt ⟨piece, none⟩ =
      if piece = [] then .ok (none, ⟨[], none⟩)
      else (decodeLine piece).map fun text => (some text, ⟨[], none⟩) := by
  simp only [readLineOpt, splitLine_eq_none.mpr fresh]
  split
  · rename_i empty
    simp only [empty]
  · rfl

/-- The loop behind a call of `read_frame`. -/
def afterFrame (boundary : Text) (stop : Nat → Bool) (looks : Nat) :
    Except String (Option Bytes × Reader) → Outcome
  | .ok (some frame, rest) => (pumpLoop boundary stop looks rest).publish frame
  | .ok (none, _) => ⟨[], none, true⟩
  | .error reason => ⟨[], some reason, true⟩

/-- `read_frame` behind the header of the part. -/
def afterHeader (boundary : Text) :
    Except String (Option (Option Text) × Reader) → Except String (Option Bytes × Reader)
  | .error reason => .error reason
  | .ok (none, rest) => .ok (none, rest)
  | .ok (some value, rest) => readBody boundary (value.bind Text.parseUsize) rest

/-- `pump_upstream` behind the header of the response. -/
def afterHead (stop : Nat → Bool) (looks : Nat) :
    Except String (Option (Option Text) × Reader) → Outcome
  | .error reason => ⟨[], some reason, true⟩
  | .ok (none, _) => ⟨[], some "MJPEG upstream closed while reading headers", true⟩
  | .ok (some none, _) => ⟨[], some "MJPEG upstream sent no Content-Type", true⟩
  | .ok (some (some contentType), rest) =>
      match boundaryParameter contentType with
      | none => ⟨[], some
          ("MJPEG upstream Content-Type has no boundary: " ++ String.ofList contentType), true⟩
      | some boundary => pumpLoop (Text.trimStartDashes boundary) stop looks rest

theorem pumpLoop_eq (boundary : Text) (stop : Nat → Bool) (looks : Nat) (reader : Reader) :
    pumpLoop boundary stop looks reader =
      if stop looks then ⟨[], none, true⟩
      else afterFrame boundary stop (looks + 1) (readFrame boundary reader) := by
  rw [pumpLoop]
  split
  · rfl
  · split <;> simp_all [afterFrame]

theorem readFrame_eq (boundary : Text) (reader : Reader) :
    readFrame boundary reader =
      match skipToDelimiter boundary reader with
      | .error reason => .error reason
      | .ok (false, rest) => .ok (none, rest)
      | .ok (true, rest) => afterHeader boundary (readHeaders contentLengthName none rest) := by
  unfold readFrame
  cases skipToDelimiter boundary reader with
  | error reason => rfl
  | ok skipped =>
      obtain ⟨found, rest⟩ := skipped
      cases found with
      | false => rfl
      | true =>
          dsimp only
          cases readHeaders contentLengthName none rest with
          | error reason => rfl
          | ok header =>
              obtain ⟨value, body⟩ := header
              cases value <;> rfl

theorem pumpUpstream_eq (stop : Nat → Bool) (upstream : Reader) :
    pumpUpstream (.ok ()) stop upstream =
      afterHead stop 0 (readHeaders contentTypeName none upstream) := by
  unfold pumpUpstream readUpstreamBoundary
  cases readHeaders contentTypeName none upstream with
  | error reason => rfl
  | ok header =>
      obtain ⟨value, rest⟩ := header
      match value with
      | none | some none => rfl
      | some (some contentType) =>
          dsimp only [afterHead]
          cases boundaryParameter contentType <;> rfl

/-! ### What is still to come -/

/-- The outcome behind what was published before. -/
def Outcome.behind (earlier : List Bytes) (outcome : Outcome) : Outcome :=
  { outcome with published := earlier ++ outcome.published }

/-- What the pump is connected to: how its request is received, what the stop flag is each
    time, the number of times it was looked at, and what the upstream has not sent yet. -/
structure Feed where
  request : Except String Unit
  stop : Nat → Bool
  looks : Nat
  upstream : Reader

namespace Feed

/-- The answers a feed gives. A read gives as many bytes as the socket has. -/
inductive Gives (feed : Feed) : PumpInput → Feed → Prop
  | request (outcome) (same : feed.request = outcome) :
      Gives feed (.requested outcome) feed
  | look (stop) (same : feed.stop feed.looks = stop) :
      Gives feed (.looked stop) { feed with looks := feed.looks + 1 }
  | send (bytes more failure) (more_to_come : bytes ≠ [])
      (upstream : feed.upstream = ⟨bytes ++ more, failure⟩) :
      Gives feed (.read (.ok bytes)) { feed with upstream := ⟨more, failure⟩ }
  | finish (upstream : feed.upstream = ⟨[], none⟩) : Gives feed (.read (.ok [])) feed
  | lose (error) (upstream : feed.upstream = ⟨[], some error⟩) :
      Gives feed (.read (.error error)) feed
  | go : Gives feed .go feed

/-- The feed gives all these answers, in their order. -/
def Serves (feed : Feed) : List PumpInput → Prop
  | [] => True
  | input :: inputs => ∃ next, feed.Gives input next ∧ next.Serves inputs

variable (feed : Feed)

/-- What comes of a stage whose functions see the stream from `reader` on. -/
def rest (failure : Option String) (stage : PumpStage) (reader : Reader) : Outcome :=
  match stage with
  | .requesting =>
      match feed.request with
      | .error reason => ⟨[], some reason, true⟩
      | .ok () =>
          afterHead feed.stop feed.looks (readHeaders contentTypeName none reader)
  | .head contentType =>
      afterHead feed.stop feed.looks (readHeaders contentTypeName contentType reader)
  | .checking boundary => pumpLoop boundary feed.stop feed.looks reader
  | .delimiter boundary =>
      afterFrame boundary feed.stop feed.looks (readFrame boundary reader)
  | .header boundary value =>
      afterFrame boundary feed.stop feed.looks
        (afterHeader boundary (readHeaders contentLengthName value reader))
  | .body boundary length frame =>
      afterFrame boundary feed.stop feed.looks
        (readExact length { reader with bytes := frame ++ reader.bytes })
  | .scanning boundary frame =>
      afterFrame boundary feed.stop feed.looks
        (scanFrom (encode (dashes ++ boundary)) reader.failure frame reader.bytes)
  | .ended => ⟨[], failure, true⟩

/-- The stream behind the line that is read. -/
def ahead (pump : Pump) : Reader :=
  { feed.upstream with bytes := pump.buffered ++ feed.upstream.bytes }

/-- The stream as the pump's functions have not seen it yet. -/
def unread (pump : Pump) : Reader :=
  { feed.upstream with bytes := pump.line ++ (feed.ahead pump).bytes }

/-- What is published already, and what comes of the rest. -/
def total (pump : Pump) : Outcome :=
  (feed.rest pump.outcome.failure pump.stage (feed.unread pump)).behind
    pump.outcome.published

end Feed

namespace Pump

section

variable {pump next : Pump} {input : PumpInput} {feed after : Feed}

@[simp] theorem total_fail (pump : Pump) (reason : String) :
    feed.total (pump.fail reason) = ⟨pump.outcome.published, some reason, true⟩ := by
  simp [Feed.total, Feed.rest, Outcome.behind, fail, goTo]

theorem total_close (pump : Pump) (running : pump.outcome.failure = none) :
    feed.total pump.close = ⟨pump.outcome.published, none, true⟩ := by
  simp [Feed.total, Feed.rest, Outcome.behind, close, goTo, running]

theorem total_goTo (pump : Pump) (stage : PumpStage) :
    feed.total (pump.goTo stage) =
      (feed.rest pump.outcome.failure stage (feed.ahead pump)).behind
        pump.outcome.published := by
  simp [Feed.total, Feed.unread, Feed.ahead, goTo]

/-- A frame that is published is the first of what was still to come. -/
theorem total_publish (pump : Pump) (boundary : Text) (frame : Bytes) :
    feed.total (pump.publish boundary frame) =
      (afterFrame boundary feed.stop feed.looks
        (.ok (some frame, feed.ahead pump))).behind pump.outcome.published := by
  simp [Feed.total, Feed.rest, Feed.unread, Feed.ahead, publish, goTo,
    afterFrame, Outcome.publish, Outcome.behind]

theorem total_endHead (pump : Pump) (contentType : Option Text) :
    feed.total (pump.endHead contentType) =
      (afterHead feed.stop feed.looks
        (.ok (some contentType, feed.ahead pump))).behind pump.outcome.published := by
  unfold endHead
  cases contentType with
  | none => simp [afterHead, Outcome.behind]
  | some contentType =>
      cases parameter : boundaryParameter contentType with
      | none => simp [afterHead, parameter, Outcome.behind]
      | some boundary => simp [afterHead, parameter, total_goTo, Feed.rest]

theorem total_endHeader (pump : Pump) (boundary : Text) (length : Option Nat) :
    feed.total (pump.endHeader boundary length) =
      (afterFrame boundary feed.stop feed.looks
        (readBody boundary length (feed.ahead pump))).behind pump.outcome.published := by
  unfold endHeader readBody
  cases length with
  | none => simp [total_goTo, Feed.rest, scanToBoundary]
  | some length =>
      dsimp only
      split
      · simp [afterFrame, Outcome.behind]
      · simp [total_goTo, Feed.rest]

/-- A line the stream begins with is what the stage makes of the stream. -/
theorem total_takeLine (pump : Pump) (lines : pump.stage.readsLines = true)
    (bytes : Bytes) (reader : Reader)
    (read : readLineOpt reader =
      (decodeLine bytes).map fun text => (some text, feed.ahead pump)) :
    feed.total (pump.takeLine bytes) =
      (feed.rest pump.outcome.failure pump.stage reader).behind
        pump.outcome.published := by
  unfold takeLine
  cases decoded : decodeLine bytes with
  | error reason =>
      rw [decoded, Except.map] at read
      cases stage : pump.stage with
      | head => simp [Feed.rest, readHeaders_eq, read, afterHead, Outcome.behind]
      | delimiter =>
          simp [Feed.rest, readFrame_eq, skipToDelimiter_eq, read, afterFrame,
            Outcome.behind]
      | header =>
          simp [Feed.rest, readHeaders_eq, read, afterHeader, afterFrame, Outcome.behind]
      | _ => simp [stage, PumpStage.readsLines] at lines
  | ok text =>
      rw [decoded, Except.map] at read
      dsimp only
      unfold onLine
      cases stage : pump.stage with
      | head contentType =>
          dsimp only
          rw [Feed.rest, readHeaders_eq, read]
          dsimp only
          split
          · exact total_endHead pump contentType
          · exact total_goTo pump _
      | delimiter boundary =>
          dsimp only
          rw [total_goTo, Feed.rest, readFrame_eq, skipToDelimiter_eq, read]
          dsimp only
          split
          · rfl
          · rw [Feed.rest, readFrame_eq]
      | header boundary value =>
          dsimp only
          rw [Feed.rest, readHeaders_eq, read]
          dsimp only
          split
          · exact total_endHeader pump boundary _
          · exact total_goTo pump _
      | _ => simp [stage, PumpStage.readsLines] at lines

/-- The end of the stream is what the stage makes of what is left. -/
theorem total_finish (sound : pump.Sound) (wants : pump.wants = true)
    (empty : pump.buffered = []) (upstream : feed.upstream = ⟨[], none⟩) :
    feed.total pump.finish = feed.total pump := by
  have ahead : feed.ahead pump = ⟨[], none⟩ := by
    simp [Feed.ahead, upstream, empty]
  have unread : feed.unread pump = ⟨pump.line, none⟩ := by
    simp [Feed.unread, ahead, upstream]
  have last := readLineOpt_last sound.line
  have whole : feed.total pump = (feed.rest pump.outcome.failure pump.stage
      ⟨pump.line, none⟩).behind pump.outcome.published := by
    rw [← unread]
    rfl
  rw [whole]
  unfold finish
  cases stage : pump.stage with
  | requesting | checking | ended => simp [Pump.wants, stage] at wants
  | body boundary length frame =>
      have running := sound.running (by simp [stage])
      have idle := sound.idle (by simp [stage, PumpStage.readsLines])
      have part : frame.length < length := by simpa [Pump.wants, stage] using wants
      have cut : ¬ length ≤ frame.length := by omega
      simp [total_close _ running, Feed.rest, idle, readExact, cut, afterFrame,
        Outcome.behind]
  | scanning boundary frame =>
      have running := sound.running (by simp [stage])
      have idle := sound.idle (by simp [stage, PumpStage.readsLines])
      dsimp only
      split
      · rename_i nothing
        simp [total_close _ running, Feed.rest, idle, scanFrom, nothing, afterFrame,
          Outcome.behind]
      · rename_i some
        simp [total_publish, Feed.rest, idle, scanFrom, some, ahead]
  | head | delimiter | header =>
      have running := sound.running (by simp [stage])
      have lines : pump.stage.readsLines = true := by simp [stage, PumpStage.readsLines]
      dsimp only
      rw [← stage]
      split
      · rename_i nothing
        rw [if_pos nothing, nothing] at last
        simp [noLine, stage, total_close _ running, Feed.rest, nothing, readHeaders_eq,
          readFrame_eq, skipToDelimiter_eq, last, afterHead, afterHeader, afterFrame,
          Outcome.behind]
      · rename_i some
        rw [if_neg some] at last
        exact total_takeLine pump lines _ _ (ahead ▸ last)

/-- An error of the socket is met by whichever function reads. -/
theorem total_lose (sound : pump.Sound) (wants : pump.wants = true)
    (empty : pump.buffered = []) {error : String}
    (upstream : feed.upstream = ⟨[], some error⟩) :
    feed.total (pump.fail (upstreamReadFailed error)) = feed.total pump := by
  have unread : feed.unread pump = ⟨pump.line, some error⟩ := by
    simp [Feed.unread, Feed.ahead, upstream, empty]
  have lost := readLineOpt_lost sound.line error
  rw [total_fail, Feed.total, unread]
  cases stage : pump.stage with
  | requesting | checking | ended => simp [Pump.wants, stage] at wants
  | head | delimiter | header =>
      simp [Feed.rest, readHeaders_eq, readFrame_eq, skipToDelimiter_eq, lost, afterHead,
        afterHeader, afterFrame, Outcome.behind]
  | body boundary length frame =>
      have idle := sound.idle (by simp [stage, PumpStage.readsLines])
      have part : frame.length < length := by simpa [Pump.wants, stage] using wants
      have cut : ¬ length ≤ frame.length := by omega
      simp [Feed.rest, idle, readExact, cut, afterFrame, Outcome.behind]
  | scanning boundary frame =>
      have idle := sound.idle (by simp [stage, PumpStage.readsLines])
      simp [Feed.rest, idle, scanFrom, afterFrame, Outcome.behind]

theorem total_gather (sound : pump.Sound) (lines : pump.stage.readsLines = true) :
    feed.total pump.gather = feed.total pump := by
  rcases pump.gather_cases with ⟨line, rest, split, same⟩ | ⟨-, same⟩
  · rw [same]
    have read := readLineOpt_append pump.buffered feed.upstream.failure sound.line split
      feed.upstream.bytes
    rw [List.append_assoc] at read
    exact total_takeLine { pump with buffered := rest } lines _ _ read
  · rw [same]
    simp [Feed.total, Feed.unread, Feed.ahead]

theorem total_copy (sound : pump.Sound) {boundary : Text} {length : Nat} {frame : Bytes}
    (stage : pump.stage = .body boundary length frame) (missing : Nat) :
    feed.total { pump with
      buffered := pump.buffered.drop missing
      stage := .body boundary length (frame ++ pump.buffered.take missing) } =
      feed.total pump := by
  have idle := sound.idle (by simp [stage, PumpStage.readsLines])
  have shape : frame ++ pump.buffered.take missing ++
      (pump.buffered.drop missing ++ feed.upstream.bytes) =
        frame ++ (pump.buffered ++ feed.upstream.bytes) := by
    rw [List.append_assoc, ← List.append_assoc (pump.buffered.take missing),
      List.take_append_drop]
  simp [Feed.total, Feed.rest, Feed.unread, Feed.ahead, stage, idle,
    ← shape]

theorem total_scan (sound : pump.Sound) {boundary : Text} {frame rest : Bytes} {b : UInt8}
    (stage : pump.stage = .scanning boundary frame) (full : pump.buffered = b :: rest) :
    feed.total ({ pump with buffered := rest }.scan boundary (frame ++ [b])) =
      feed.total pump := by
  have idle := sound.idle (by simp [stage, PumpStage.readsLines])
  have whole : feed.total pump = (afterFrame boundary feed.stop feed.looks
      (scanFrom (encode (dashes ++ boundary)) feed.upstream.failure frame
        (b :: (rest ++ feed.upstream.bytes)))).behind pump.outcome.published := by
    simp [Feed.total, Feed.rest, Feed.unread, Feed.ahead, stage, idle,
      full]
  rw [whole, scanFrom]
  unfold scan
  dsimp only
  split
  · simp [afterFrame, Outcome.behind]
  · split
    · rw [total_publish]
      rfl
    · simp [Feed.total, Feed.rest, Feed.unread, Feed.ahead, idle]

/-- A step does not change what the pump publishes of the whole stream, nor how it ends. -/
theorem Sound.total (sound : pump.Sound) (step : Step pump input next)
    (gives : feed.Gives input after) : after.total next = feed.total pump := by
  cases step with
  | refuse reason stage =>
      cases gives with
      | request outcome same =>
          rw [total_fail]
          simp [Feed.total, Feed.rest, stage, same, Outcome.behind]
  | accept stage =>
      cases gives with
      | request outcome same =>
          have idle := sound.idle (by simp [stage, PumpStage.readsLines])
          rw [total_goTo]
          simp [Feed.total, Feed.rest, Feed.unread, Feed.ahead, stage,
            same, idle]
  | stop boundary stage =>
      cases gives with
      | look stop same =>
          rw [total_close pump (sound.running (by simp [stage]))]
          simp [Feed.total, Feed.rest, stage, pumpLoop_eq, same, Outcome.behind]
  | proceed boundary stage =>
      cases gives with
      | look stop same =>
          have idle := sound.idle (by simp [stage, PumpStage.readsLines])
          rw [total_goTo]
          simp [Feed.total, Feed.rest, Feed.unread, Feed.ahead, stage,
            pumpLoop_eq, same, idle]
  | fill bytes wants empty more isOpen =>
      cases gives with
      | send _ later failure _ upstream =>
          simp [Feed.total, Feed.unread, Feed.ahead, upstream, empty,
            Feed.rest]
      | finish => exact absurd rfl more
  | lose error wants empty =>
      cases gives with
      | lose _ upstream => exact total_lose sound wants empty upstream
  | finish wants empty =>
      cases gives with
      | send _ _ _ more => exact absurd rfl more
      | finish upstream =>
          have closed : { pump with closed := true }.Sound :=
            { sound with closed := fun _ => empty }
          exact total_finish closed wants empty upstream
  | gather lines full =>
      cases gives with
      | go => exact total_gather sound lines
  | publish boundary length frame stage whole =>
      cases gives with
      | go =>
          have idle := sound.idle (by simp [stage, PumpStage.readsLines])
          obtain ⟨part, -⟩ := sound.body boundary length frame stage
          obtain rfl : length = frame.length := Nat.le_antisymm whole part
          rw [total_publish]
          simp [Feed.total, Feed.rest, Feed.unread, Feed.ahead, stage,
            idle, readExact]
  | copy boundary length frame stage part full =>
      cases gives with
      | go => exact total_copy sound stage _
  | scan boundary frame b rest stage full =>
      cases gives with
      | go => exact total_scan sound stage full

end

theorem Sound.total_of_run {pump final : Pump} {feed : Feed} {inputs : List PumpInput}
    (sound : pump.Sound) (serves : feed.Serves inputs)
    (ran : Machine.run Pump.step pump inputs = some final) :
    ∃ after : Feed, after.total final = feed.total pump := by
  induction inputs generalizing pump feed with
  | nil =>
      obtain rfl := Option.some.inj ran
      exact ⟨feed, rfl⟩
  | cons input inputs ih =>
      simp only [Machine.run, Option.bind_eq_some_iff] at ran
      obtain ⟨next, stepped, ran⟩ := ran
      obtain ⟨later, gives, serves⟩ := serves
      have step := Step.of_step stepped
      obtain ⟨after, same⟩ := ih (sound.step step) serves ran
      exact ⟨after, same.trans (sound.total step gives)⟩

/-- Wherever the reads fall, the pump ends with the outcome of the stream as a whole. -/
theorem outcome_eq_pumpUpstream {inputs : List PumpInput} {final : Pump}
    (ran : Machine.run Pump.step start inputs = some final) (ended : final.stage = .ended)
    (request : Except String Unit) (stop : Nat → Bool) (upstream : Reader)
    (serves : (⟨request, stop, 0, upstream⟩ : Feed).Serves inputs) :
    final.outcome = pumpUpstream request stop upstream := by
  obtain ⟨after, same⟩ := sound_start.total_of_run serves ran
  have sound := sound_of_run ran
  have whole : after.total final = final.outcome := by
    have stopping := sound.ended ended
    simp [Feed.total, Feed.rest, Outcome.behind, ended, ← stopping]
  have begun : (⟨request, stop, 0, upstream⟩ : Feed).total start =
      pumpUpstream request stop upstream := by
    cases request with
    | error reason => rfl
    | ok =>
        rw [pumpUpstream_eq]
        rfl
  rw [← whole, same, begun]

end Pump

end QuadControl.Ios.Mjpeg
