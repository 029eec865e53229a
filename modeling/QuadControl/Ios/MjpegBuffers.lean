import QuadControl.Ios.MjpegSegments
import QuadControl.Ios.MjpegEnd

/-! # What the pump holds

The frames the pump gathers are limited, by what a part announces and while a part is
scanned. The lines in between are not: what comes without a line feed is gathered for as
long as it comes. So it depends on the stream what the pump holds: on how far line feeds are
apart where the pump reads lines of it.
-/

namespace QuadControl.Ios.Mjpeg

open Lib Lib.Utf8
open Lib.Text (dashes)

/-! ### Lines of the stream -/

/-- The bytes up to the next line feed, it included, or up to the end of the stream. -/
def Reader.nextLine (reader : Reader) : Bytes :=
  match splitLine reader.bytes with
  | some (line, _) => line
  | none => reader.bytes

/-- The lines of a header stay within a bound, the response's or a part's. -/
def headersFit (bound : Nat) (reader : Reader) : Prop :=
  reader.nextLine.length ≤ bound ∧
    match _ : readLineOpt reader with
    | .ok (some line, rest) => if Text.trim line = [] then True else headersFit bound rest
    | .ok (none, _) | .error _ => True
termination_by reader.bytes.length
decreasing_by exact readLineOpt_lt ‹_›

/-- The lines up to a delimiter do, and those of the header behind it. -/
def partFits (bound : Nat) (boundary : Text) (reader : Reader) : Prop :=
  reader.nextLine.length ≤ bound ∧
    match _ : readLineOpt reader with
    | .ok (some line, rest) =>
        if isDelimiter boundary line then headersFit bound rest else partFits bound boundary rest
    | .ok (none, _) | .error _ => True
termination_by reader.bytes.length
decreasing_by exact readLineOpt_lt ‹_›

/-- Those of all parts do, until the pump is stopped. -/
def partsFit (bound : Nat) (boundary : Text) (stop : Nat → Bool) (looks : Nat) (reader : Reader) :
    Prop :=
  if stop looks then True
  else
    partFits bound boundary reader ∧
      match _ : readFrame boundary reader with
      | .ok (some _, rest) => partsFit bound boundary stop (looks + 1) rest
      | .ok (none, _) | .error _ => True
termination_by reader.bytes.length
decreasing_by exact (readFrame_suffix ‹_›).2

/-- The lines that the pump reads of a stream stay within a bound. -/
def linesFit (bound : Nat) (request : Except String Unit) (stop : Nat → Bool) (upstream : Reader) :
    Prop :=
  match request with
  | .error _ => True
  | .ok () =>
      headersFit bound upstream ∧
        match readUpstreamBoundary upstream with
        | .ok (boundary, rest) => partsFit bound boundary stop 0 rest
        | .error _ => True

theorem headersFit_iff (bound : Nat) (reader : Reader) :
    headersFit bound reader ↔ reader.nextLine.length ≤ bound ∧
      ∀ line rest, readLineOpt reader = .ok (some line, rest) → Text.trim line ≠ [] →
        headersFit bound rest := by
  rw [headersFit]
  refine and_congr_right fun _ => ?_
  split
  · rename_i line rest read
    simp [read]
  · simp_all
  · simp_all

theorem partFits_iff (bound : Nat) (boundary : Text) (reader : Reader) :
    partFits bound boundary reader ↔ reader.nextLine.length ≤ bound ∧
      ∀ line rest, readLineOpt reader = .ok (some line, rest) →
        if isDelimiter boundary line then headersFit bound rest else partFits bound boundary rest := by
  rw [partFits]
  refine and_congr_right fun _ => ?_
  split
  · rename_i line rest read
    simp only [read, Except.ok.injEq, Prod.mk.injEq, Option.some.injEq, and_imp]
    exact ⟨fun later _ _ same same' => same ▸ same' ▸ later, fun later => later _ _ rfl rfl⟩
  · simp_all
  · simp_all

/-- What is behind a call of `read_frame`. -/
def behindFrame (bound : Nat) (boundary : Text) (stop : Nat → Bool) (looks : Nat) :
    Except String (Option Bytes × Reader) → Prop
  | .ok (some _, rest) => partsFit bound boundary stop looks rest
  | .ok (none, _) | .error _ => True

/-- What is behind the header of the response. -/
def behindHead (bound : Nat) (stop : Nat → Bool) (looks : Nat) :
    Except String (Option (Option Text) × Reader) → Prop
  | .ok (some (some contentType), rest) =>
      match boundaryParameter contentType with
      | none => True
      | some boundary => partsFit bound (Text.trimStartDashes boundary) stop looks rest
  | .ok (some none, _) | .ok (none, _) | .error _ => True

theorem partsFit_iff (bound : Nat) (boundary : Text) (stop : Nat → Bool) (looks : Nat)
    (reader : Reader) :
    partsFit bound boundary stop looks reader ↔ (stop looks = false →
      partFits bound boundary reader ∧
        behindFrame bound boundary stop (looks + 1) (readFrame boundary reader)) := by
  rw [partsFit]
  cases stop looks with
  | true => simp
  | false =>
      simp only [Bool.false_eq_true, if_false, true_imp_iff]
      refine and_congr_right fun _ => ?_
      split <;> simp_all [behindFrame]

theorem linesFit_ok (bound : Nat) (stop : Nat → Bool) (upstream : Reader) :
    linesFit bound (.ok ()) stop upstream ↔
      headersFit bound upstream ∧
        behindHead bound stop 0 (readHeaders contentTypeName none upstream) := by
  unfold linesFit readUpstreamBoundary
  refine and_congr_right fun _ => ?_
  cases readHeaders contentTypeName none upstream with
  | error reason => rfl
  | ok header =>
      obtain ⟨value, rest⟩ := header
      match value with
      | none | some none => rfl
      | some (some contentType) =>
          dsimp only [behindHead]
          cases boundaryParameter contentType <;> rfl

theorem nextLine_le (reader : Reader) : reader.nextLine.length ≤ reader.bytes.length := by
  unfold Reader.nextLine
  split
  · rename_i line rest split
    obtain ⟨body, rfl, whole, -⟩ := splitLine_eq_some split
    simp [whole]
  · exact le_rfl

theorem headersFit_of_length_le {bound : Nat} {reader : Reader}
    (short : reader.bytes.length ≤ bound) : headersFit bound reader := by
  induction size : reader.bytes.length using Nat.strong_induction_on generalizing reader with
  | h size ih =>
      refine (headersFit_iff ..).mpr ⟨(nextLine_le reader).trans short, fun line rest read _ => ?_⟩
      have shorter := readLineOpt_lt read
      exact ih _ (size ▸ shorter) (shorter.le.trans short) rfl

theorem partFits_of_length_le {bound : Nat} {boundary : Text} {reader : Reader}
    (short : reader.bytes.length ≤ bound) : partFits bound boundary reader := by
  induction size : reader.bytes.length using Nat.strong_induction_on generalizing reader with
  | h size ih =>
      refine (partFits_iff ..).mpr ⟨(nextLine_le reader).trans short, fun line rest read => ?_⟩
      have shorter := readLineOpt_lt read
      split
      · exact headersFit_of_length_le (shorter.le.trans short)
      · exact ih _ (size ▸ shorter) (shorter.le.trans short) rfl

theorem partsFit_of_length_le {bound : Nat} {boundary : Text} {stop : Nat → Bool} {looks : Nat}
    {reader : Reader} (short : reader.bytes.length ≤ bound) :
    partsFit bound boundary stop looks reader := by
  induction size : reader.bytes.length using Nat.strong_induction_on generalizing reader looks with
  | h size ih =>
      refine (partsFit_iff ..).mpr fun _ => ⟨partFits_of_length_le short, ?_⟩
      unfold behindFrame
      split
      · rename_i frame rest read
        have shorter := (readFrame_suffix read).2
        exact ih _ (size ▸ shorter) (shorter.le.trans short) rfl
      · trivial
      · trivial

/-- A stream that is not longer than the bound has no such line. -/
theorem linesFit_of_length_le {bound : Nat} (request : Except String Unit) (stop : Nat → Bool)
    {upstream : Reader} (short : upstream.bytes.length ≤ bound) :
    linesFit bound request stop upstream := by
  unfold linesFit readUpstreamBoundary
  cases request with
  | error reason => trivial
  | ok =>
      refine ⟨headersFit_of_length_le short, ?_⟩
      split
      · rename_i boundary rest read
        refine partsFit_of_length_le ?_
        split at read
        case h_4 contentType behind headers =>
          split at read <;> cases read
          exact (readHeaders_suffix headers).length_le.trans short
        all_goals cases read
      · trivial

/-! ### The lines still to come -/

namespace Feed

variable (feed : Feed)

/-- The lines that a stage reads of the stream from `reader` on stay within a bound. -/
def fits (bound : Nat) (stage : PumpStage) (reader : Reader) : Prop :=
  match stage with
  | .requesting =>
      match feed.request with
      | .error _ => True
      | .ok () =>
          headersFit bound reader ∧
            behindHead bound feed.stop feed.looks (readHeaders contentTypeName none reader)
  | .head contentType =>
      headersFit bound reader ∧
        behindHead bound feed.stop feed.looks (readHeaders contentTypeName contentType reader)
  | .checking boundary => partsFit bound boundary feed.stop feed.looks reader
  | .delimiter boundary =>
      partFits bound boundary reader ∧
        behindFrame bound boundary feed.stop feed.looks (readFrame boundary reader)
  | .header boundary value =>
      headersFit bound reader ∧
        behindFrame bound boundary feed.stop feed.looks
          (afterHeader boundary (readHeaders contentLengthName value reader))
  | .body boundary length frame =>
      behindFrame bound boundary feed.stop feed.looks
        (readExact length { reader with bytes := frame ++ reader.bytes })
  | .scanning boundary frame =>
      behindFrame bound boundary feed.stop feed.looks
        (scanFrom (encode (dashes ++ boundary)) reader.failure frame reader.bytes)
  | .ended => True

/-- The lines that the pump has not read to the end yet do. -/
def fitsRest (bound : Nat) (pump : Pump) : Prop := feed.fits bound pump.stage (feed.unread pump)

end Feed

namespace Pump

section

variable {bound : Nat} {feed after : Feed} {pump next : Pump} {input : PumpInput}

@[simp] theorem fitsRest_fail (pump : Pump) (reason : String) :
    feed.fitsRest bound (pump.fail reason) :=
  trivial

@[simp] theorem fitsRest_close (pump : Pump) : feed.fitsRest bound pump.close := trivial

theorem fitsRest_goTo (pump : Pump) (stage : PumpStage) :
    feed.fitsRest bound (pump.goTo stage) ↔ feed.fits bound stage (feed.ahead pump) := by
  simp [Feed.fitsRest, Feed.unread, Feed.ahead, goTo]

theorem fitsRest_publish (pump : Pump) (boundary : Text) (frame : Bytes) :
    feed.fitsRest bound (pump.publish boundary frame) ↔
      partsFit bound boundary feed.stop feed.looks (feed.ahead pump) := by
  simp [Feed.fitsRest, Feed.fits, Feed.unread, Feed.ahead, publish, goTo]

theorem fitsRest_endHead (pump : Pump) (contentType : Option Text) :
    feed.fitsRest bound (pump.endHead contentType) ↔
      behindHead bound feed.stop feed.looks (.ok (some contentType, feed.ahead pump)) := by
  unfold endHead
  cases contentType with
  | none => simp [behindHead]
  | some contentType =>
      cases parameter : boundaryParameter contentType with
      | none => simp [behindHead, parameter]
      | some boundary => simp [behindHead, parameter, fitsRest_goTo, Feed.fits]

theorem fitsRest_endHeader (pump : Pump) (boundary : Text) (length : Option Nat) :
    feed.fitsRest bound (pump.endHeader boundary length) ↔
      behindFrame bound boundary feed.stop feed.looks
        (readBody boundary length (feed.ahead pump)) := by
  unfold endHeader readBody
  cases length with
  | none => simp [fitsRest_goTo, Feed.fits, scanToBoundary]
  | some length =>
      dsimp only
      split
      · simp [behindFrame]
      · simp [fitsRest_goTo, Feed.fits]

/-- A stage that reads lines has the next one within the bound. -/
theorem nextLine_le_of_fits (lines : pump.stage.readsLines = true) {reader : Reader}
    (fits : feed.fits bound pump.stage reader) : reader.nextLine.length ≤ bound := by
  cases stage : pump.stage with
  | head | header =>
      rw [stage] at fits
      exact ((headersFit_iff ..).mp fits.1).1
  | delimiter boundary =>
      rw [stage] at fits
      exact ((partFits_iff ..).mp fits.1).1
  | _ => simp [stage, PumpStage.readsLines] at lines

/-- A stage that reads no whole line any more has just that to keep. -/
theorem fits_of_no_line (lines : pump.stage.readsLines = true) {reader : Reader}
    (read : (∃ reason, readLineOpt reader = .error reason) ∨
      ∃ rest, readLineOpt reader = .ok (none, rest)) :
    feed.fits bound pump.stage reader ↔ reader.nextLine.length ≤ bound := by
  have none : ∀ line rest, readLineOpt reader ≠ .ok (some line, rest) := by
    intro line rest same
    rcases read with ⟨reason, read⟩ | ⟨rest', read⟩ <;> cases read.symm.trans same
  refine ⟨nextLine_le_of_fits lines, fun short => ?_⟩
  cases stage : pump.stage with
  | head contentType =>
      refine ⟨(headersFit_iff ..).mpr ⟨short, fun _ _ same => absurd same (none _ _)⟩, ?_⟩
      rw [readHeaders_eq]
      rcases read with ⟨reason, read⟩ | ⟨rest', read⟩ <;> rw [read] <;> trivial
  | header boundary value =>
      refine ⟨(headersFit_iff ..).mpr ⟨short, fun _ _ same => absurd same (none _ _)⟩, ?_⟩
      rw [readHeaders_eq]
      rcases read with ⟨reason, read⟩ | ⟨rest', read⟩ <;> rw [read] <;> trivial
  | delimiter boundary =>
      refine ⟨(partFits_iff ..).mpr ⟨short, fun _ _ same => absurd same (none _ _)⟩, ?_⟩
      rw [readFrame_eq, skipToDelimiter_eq]
      rcases read with ⟨reason, read⟩ | ⟨rest', read⟩ <;> rw [read] <;> trivial
  | _ => simp [stage, PumpStage.readsLines] at lines

theorem headersFit_read {reader rest : Reader} {line : Text}
    (read : readLineOpt reader = .ok (some line, rest)) :
    headersFit bound reader ↔
      reader.nextLine.length ≤ bound ∧ (Text.trim line ≠ [] → headersFit bound rest) := by
  rw [headersFit_iff, read]
  simp

theorem partFits_read {boundary : Text} {reader rest : Reader} {line : Text}
    (read : readLineOpt reader = .ok (some line, rest)) :
    partFits bound boundary reader ↔ reader.nextLine.length ≤ bound ∧
      if isDelimiter boundary line then headersFit bound rest else partFits bound boundary rest := by
  rw [partFits_iff, read]
  refine and_congr_right fun _ => ⟨fun later => later _ _ rfl, fun later line' rest' same => ?_⟩
  cases same
  exact later

/-- A line the stream begins with is within the bound, and so is what it leads to. -/
theorem fits_takeLine (lines : pump.stage.readsLines = true) (bytes : Bytes) (reader : Reader)
    (read : readLineOpt reader =
      (decodeLine bytes).map fun text => (some text, feed.ahead pump)) :
    feed.fits bound pump.stage reader ↔
      reader.nextLine.length ≤ bound ∧ feed.fitsRest bound (pump.takeLine bytes) := by
  unfold takeLine
  cases decoded : decodeLine bytes with
  | error reason =>
      rw [decoded, Except.map] at read
      exact (fits_of_no_line lines (.inl ⟨_, read⟩)).trans (and_iff_left trivial).symm
  | ok text =>
      rw [decoded, Except.map] at read
      dsimp only
      unfold onLine
      cases stage : pump.stage with
      | head contentType =>
          dsimp only
          rw [Feed.fits, headersFit_read read, readHeaders_eq, read]
          dsimp only
          split
          · rename_i blank
            rw [fitsRest_endHead]
            simp [blank]
          · rename_i more
            rw [fitsRest_goTo, Feed.fits]
            simp [more, and_assoc]
      | delimiter boundary =>
          dsimp only
          rw [Feed.fits, partFits_read read, readFrame_eq, skipToDelimiter_eq, read, fitsRest_goTo]
          dsimp only
          split
          · rw [Feed.fits, and_assoc]
          · rw [Feed.fits, readFrame_eq, and_assoc]
      | header boundary value =>
          dsimp only
          rw [Feed.fits, headersFit_read read, readHeaders_eq, read]
          dsimp only
          split
          · rename_i blank
            rw [fitsRest_endHeader]
            simp [blank, afterHeader]
          · rename_i more
            rw [fitsRest_goTo, Feed.fits]
            simp [more, and_assoc]
      | _ => simp [stage, PumpStage.readsLines] at lines

end

/-! ### What is held -/

/-- What `read_line` takes of the buffer: up to the line feed, or all of it. -/
def lineTaken (pump : Pump) : Bytes :=
  match splitLine pump.buffered with
  | some (line, _) => line
  | none => pump.buffered

/-- The most bytes a line or a frame has while the pump takes an answer in. The memory of a
    body is taken when its length is known. -/
def held (pump : Pump) (input : PumpInput) : Nat :=
  match pump.stage, input with
  | .head _, .go | .delimiter _, .go | .header _ _, .go => (pump.line ++ pump.lineTaken).length
  | .head _, _ | .delimiter _, _ | .header _ _, _ => pump.line.length
  | .body _ length _, _ => length
  | .scanning _ frame, .go => (frame ++ pump.buffered.take 1).length
  | .scanning _ frame, _ => frame.length
  | .requesting, _ | .checking _, _ | .ended, _ => 0

section

variable {bound : Nat} {feed after : Feed} {pump next : Pump} {input : PumpInput}

/-- Beyond the limit of a frame no frame is held. -/
theorem Sound.held_le (sound : pump.Sound) (room : maxFrameBytes < bound)
    (other : pump.stage.readsLines = false) (input : PumpInput) : pump.held input ≤ bound := by
  unfold held
  cases stage : pump.stage with
  | head | delimiter | header => simp [stage, PumpStage.readsLines] at other
  | body boundary length frame =>
      obtain ⟨-, small⟩ := sound.body boundary length frame stage
      dsimp only
      omega
  | scanning boundary frame =>
      have small := sound.scanning boundary frame stage
      cases input <;> simp only [List.length_append, List.length_take] <;> omega
  | requesting | checking | ended => exact Nat.zero_le _

theorem held_go (lines : pump.stage.readsLines = true) :
    pump.held .go = (pump.line ++ pump.lineTaken).length := by
  unfold held
  cases stage : pump.stage <;> simp [stage, PumpStage.readsLines] at lines ⊢

theorem held_read (lines : pump.stage.readsLines = true) (answer : Except String Bytes) :
    pump.held (.read answer) = pump.line.length := by
  unfold held
  cases stage : pump.stage <;> simp [stage, PumpStage.readsLines] at lines ⊢

theorem nextLine_of_fresh {piece : Bytes} (fresh : lineFeed ∉ piece) (failure : Option String) :
    (⟨piece, failure⟩ : Reader).nextLine = piece := by
  simp [Reader.nextLine, splitLine_eq_none.mpr fresh]

/-- Whatever is behind it, a piece of a line is not longer than the line. -/
theorem length_le_nextLine {piece : Bytes} (fresh : lineFeed ∉ piece) (more : Bytes)
    (failure : Option String) :
    piece.length ≤ (⟨piece ++ more, failure⟩ : Reader).nextLine.length := by
  unfold Reader.nextLine
  split
  · rename_i line rest split
    obtain ⟨body, rfl, whole, -⟩ := splitLine_eq_some split
    dsimp only at whole
    rw [← List.singleton_append, ← List.append_assoc] at whole
    by_contra short
    have prefixed : body ++ [lineFeed] <+: piece :=
      List.prefix_of_prefix_length_le ⟨rest, whole.symm⟩ ⟨more, rfl⟩ (Nat.le_of_not_le short)
    exact fresh (prefixed.subset (by simp))
  · simp

theorem nextLine_of_split {piece bytes line rest : Bytes} (fresh : lineFeed ∉ piece)
    (split : splitLine bytes = some (line, rest)) (more : Bytes) (failure : Option String) :
    (⟨piece ++ (bytes ++ more), failure⟩ : Reader).nextLine = piece ++ line := by
  obtain ⟨body, rfl, rfl, plain⟩ := splitLine_eq_some split
  have shape : piece ++ (body ++ lineFeed :: rest ++ more) =
      piece ++ body ++ lineFeed :: (rest ++ more) := by simp
  have whole : lineFeed ∉ piece ++ body := by simp [fresh, plain]
  unfold Reader.nextLine
  dsimp only
  rw [shape, splitLine_append _ whole]
  simp

theorem unread_of_idle (idle : pump.line = []) : feed.unread pump = feed.ahead pump := by
  simp [Feed.unread, Feed.ahead, idle]

theorem Sound.line_le (sound : pump.Sound) (lines : pump.stage.readsLines = true)
    (fits : feed.fitsRest bound pump) : pump.line.length ≤ bound :=
  (length_le_nextLine sound.line _ _).trans (nextLine_le_of_fits lines fits)

/-- The last line, at the end of the stream. -/
theorem fitsRest_finish (sound : pump.Sound) (room : maxFrameBytes < bound)
    (wants : pump.wants = true) (empty : pump.buffered = [])
    (upstream : feed.upstream = ⟨[], none⟩) :
    feed.fitsRest bound pump ↔
      pump.held (.read (.ok [])) ≤ bound ∧ feed.fitsRest bound { pump with closed := true }.finish := by
  have ahead : feed.ahead { pump with closed := true } = ⟨[], none⟩ := by
    simp [Feed.ahead, upstream, empty]
  have unread : feed.unread pump = ⟨pump.line, none⟩ := by
    simp [Feed.unread, Feed.ahead, upstream, empty]
  have last := readLineOpt_last sound.line
  have nextLine := nextLine_of_fresh sound.line none
  have finished := ({ pump with closed := true } : Pump).finish_cases
  generalize ({ pump with closed := true } : Pump).finish = next at finished ⊢
  rw [Feed.fitsRest, unread]
  cases finished with
  | noLine lines nothing =>
      have short : pump.held (.read (.ok [])) = pump.line.length := held_read lines _
      rw [if_pos nothing] at last
      rw [fits_of_no_line lines (.inr ⟨_, last⟩), nextLine, short]
      refine (and_iff_left ?_).symm
      rcases ({ pump with closed := true } : Pump).noLine_cases with ⟨reason, same⟩ | same
      · rw [same]
        exact fitsRest_fail _ reason
      · rw [same]
        exact fitsRest_close _
  | line lines some =>
      have short : pump.held (.read (.ok [])) = pump.line.length := held_read lines _
      rw [if_neg some, ← ahead] at last
      have taken := @fits_takeLine bound feed { pump with closed := true } lines pump.line _ last
      rw [nextLine] at taken
      rw [short]
      exact taken
  | frame boundary frame stage some =>
      have other : pump.stage.readsLines = false := by
        rw [show pump.stage = _ from stage]
        rfl
      have idle := sound.idle other
      rw [fitsRest_publish, ahead, show pump.stage = _ from stage]
      refine Iff.trans ?_ (and_iff_right (sound.held_le room other _)).symm
      simp [Feed.fits, idle, scanFrom, some, behindFrame]
  | close other nothing =>
      refine iff_of_true ?_ ⟨sound.held_le room other _, fitsRest_close _⟩
      have idle := sound.idle other
      cases stage : pump.stage with
      | requesting | checking | ended => simp [Pump.wants, stage] at wants
      | head | delimiter | header => simp [stage, PumpStage.readsLines] at other
      | body boundary length frame =>
          have part : frame.length < length := by simpa [Pump.wants, stage] using wants
          have cut : ¬ length ≤ frame.length := by omega
          simp [Feed.fits, idle, readExact, cut, behindFrame]
      | scanning boundary frame =>
          obtain rfl := nothing boundary frame stage
          simp [Feed.fits, idle, scanFrom, behindFrame]

/-- More bytes come in. -/
theorem fitsRest_fill (sound : pump.Sound) (room : maxFrameBytes < bound) {bytes later : Bytes}
    {failure : Option String} (empty : pump.buffered = [])
    (upstream : feed.upstream = ⟨bytes ++ later, failure⟩) :
    feed.fitsRest bound pump ↔ pump.held (.read (.ok bytes)) ≤ bound ∧
      Feed.fitsRest { feed with upstream := ⟨later, failure⟩ } bound
        { pump with buffered := bytes } := by
  have unread : Feed.unread { feed with upstream := ⟨later, failure⟩ }
      { pump with buffered := bytes } = feed.unread pump := by
    simp [Feed.unread, Feed.ahead, upstream, empty]
  have same : Feed.fitsRest { feed with upstream := ⟨later, failure⟩ } bound
      { pump with buffered := bytes } ↔ feed.fitsRest bound pump := by
    rw [Feed.fitsRest, unread]
    rfl
  rw [same]
  refine (and_iff_right_of_imp fun fits => ?_).symm
  cases lines : pump.stage.readsLines with
  | false => exact sound.held_le room lines _
  | true =>
      rw [held_read lines]
      exact sound.line_le lines fits

/-- A read fails. -/
theorem fitsRest_lose (sound : pump.Sound) (room : maxFrameBytes < bound) {error : String}
    (wants : pump.wants = true) (empty : pump.buffered = [])
    (upstream : feed.upstream = ⟨[], some error⟩) :
    feed.fitsRest bound pump ↔ pump.held (.read (.error error)) ≤ bound := by
  have unread : feed.unread pump = ⟨pump.line, some error⟩ := by
    simp [Feed.unread, Feed.ahead, upstream, empty]
  cases lines : pump.stage.readsLines with
  | true =>
      have lost := readLineOpt_lost sound.line error
      rw [held_read lines, Feed.fitsRest, unread, fits_of_no_line lines (.inl ⟨_, lost⟩),
        nextLine_of_fresh sound.line]
  | false =>
      refine iff_of_true ?_ (sound.held_le room lines _)
      have idle := sound.idle lines
      rw [Feed.fitsRest, unread]
      cases stage : pump.stage with
      | requesting | checking | ended => simp [Pump.wants, stage] at wants
      | head | delimiter | header => simp [stage, PumpStage.readsLines] at lines
      | body boundary length frame =>
          have part : frame.length < length := by simpa [Pump.wants, stage] using wants
          have cut : ¬ length ≤ frame.length := by omega
          simp [Feed.fits, idle, readExact, cut, behindFrame]
      | scanning boundary frame => simp [Feed.fits, idle, scanFrom, behindFrame]

/-- What is buffered goes to the line. -/
theorem fitsRest_gather (sound : pump.Sound) (lines : pump.stage.readsLines = true) :
    feed.fitsRest bound pump ↔ pump.held .go ≤ bound ∧ feed.fitsRest bound pump.gather := by
  rw [held_go lines]
  rcases pump.gather_cases with ⟨line, rest, split, same⟩ | ⟨unsplit, same⟩
  · have taken : pump.lineTaken = line := by simp [lineTaken, split]
    have read := readLineOpt_append pump.buffered feed.upstream.failure sound.line split
      feed.upstream.bytes
    rw [List.append_assoc] at read
    have through := @fits_takeLine bound feed { pump with buffered := rest } lines _ _ read
    rw [nextLine_of_split sound.line split] at through
    rw [same, taken]
    exact through
  · have taken : pump.lineTaken = pump.buffered := by simp [lineTaken, unsplit]
    have unread : feed.unread { pump with
        buffered := []
        line := pump.line ++ pump.buffered } = feed.unread pump := by
      simp [Feed.unread, Feed.ahead]
    have fresh : lineFeed ∉ pump.line ++ pump.buffered := by
      simp [sound.line, splitLine_eq_none.mp unsplit]
    rw [same, taken]
    have onward : feed.fitsRest bound { pump with
        buffered := []
        line := pump.line ++ pump.buffered } ↔ feed.fitsRest bound pump := by
      rw [Feed.fitsRest, unread]
      rfl
    rw [onward]
    refine (and_iff_right_of_imp fun fits => ?_).symm
    refine le_trans ?_ (nextLine_le_of_fits lines fits)
    have piece := length_le_nextLine fresh feed.upstream.bytes feed.upstream.failure
    rwa [List.append_assoc] at piece

/-- A byte of a frame without a length. -/
theorem fitsRest_scan (idle : pump.line = []) {boundary : Text} {frame rest : Bytes} {b : UInt8}
    (stage : pump.stage = .scanning boundary frame) (full : pump.buffered = b :: rest) :
    feed.fitsRest bound pump ↔
      feed.fitsRest bound ({ pump with buffered := rest }.scan boundary (frame ++ [b])) := by
  have whole : feed.fitsRest bound pump ↔ behindFrame bound boundary feed.stop feed.looks
      (scanFrom (encode (dashes ++ boundary)) feed.upstream.failure frame
        (b :: (rest ++ feed.upstream.bytes))) := by
    simp [Feed.fitsRest, Feed.fits, Feed.unread, Feed.ahead, stage, idle, full]
  rw [whole, scanFrom]
  unfold Pump.scan
  dsimp only
  split
  · exact iff_of_true trivial (fitsRest_fail _ _)
  · split
    · rw [fitsRest_publish]
      rfl
    · simp [Feed.fitsRest, Feed.fits, Feed.unread, Feed.ahead, idle]

/-- A step holds no more than the bound just when the lines that were to come stay within it,
    if those behind the step do. -/
theorem Sound.fitsRest_iff (sound : pump.Sound) (room : maxFrameBytes < bound)
    (step : Step pump input next) (gives : feed.Gives input after) :
    feed.fitsRest bound pump ↔ pump.held input ≤ bound ∧ after.fitsRest bound next := by
  cases step with
  | refuse reason stage =>
      cases gives with
      | request outcome same =>
          refine iff_of_true ?_ ⟨sound.held_le room (by rw [stage]; rfl) _, fitsRest_fail _ reason⟩
          simp [Feed.fitsRest, Feed.fits, stage, same]
  | accept stage =>
      cases gives with
      | request outcome same =>
          have other : pump.stage.readsLines = false := by rw [stage]; rfl
          rw [and_iff_right (sound.held_le room other _), fitsRest_goTo, Feed.fitsRest,
            unread_of_idle (sound.idle other), stage]
          simp [Feed.fits, same]
  | stop boundary stage =>
      cases gives with
      | look stop same =>
          refine iff_of_true ?_ ⟨sound.held_le room (by rw [stage]; rfl) _, fitsRest_close _⟩
          rw [Feed.fitsRest, stage, Feed.fits, partsFit_iff, same]
          exact nofun
  | proceed boundary stage =>
      cases gives with
      | look stop same =>
          have other : pump.stage.readsLines = false := by rw [stage]; rfl
          rw [and_iff_right (sound.held_le room other _), fitsRest_goTo, Feed.fitsRest,
            unread_of_idle (sound.idle other), stage, Feed.fits, partsFit_iff]
          exact forall_prop_of_true same
  | fill bytes wants empty more isOpen =>
      cases gives with
      | finish => exact absurd rfl more
      | send _ later failure _ upstream => exact fitsRest_fill sound room empty upstream
  | lose error wants empty =>
      cases gives with
      | lose _ upstream =>
          rw [and_iff_left (fitsRest_fail _ _)]
          exact fitsRest_lose sound room wants empty upstream
  | finish wants empty =>
      cases gives with
      | send _ _ _ more => exact absurd rfl more
      | finish upstream => exact fitsRest_finish sound room wants empty upstream
  | gather lines full =>
      cases gives with
      | go => exact fitsRest_gather sound lines
  | publish boundary length frame stage whole =>
      cases gives with
      | go =>
          have other : pump.stage.readsLines = false := by rw [stage]; rfl
          obtain ⟨part, -⟩ := sound.body boundary length frame stage
          obtain rfl : length = frame.length := Nat.le_antisymm whole part
          rw [and_iff_right (sound.held_le room other _), fitsRest_publish, Feed.fitsRest,
            unread_of_idle (sound.idle other), stage]
          simp [Feed.fits, readExact, behindFrame]
  | copy boundary length frame stage part full =>
      cases gives with
      | go =>
          have other : pump.stage.readsLines = false := by rw [stage]; rfl
          have idle := sound.idle other
          have shape : frame ++ pump.buffered.take (length - frame.length) ++
              (pump.buffered.drop (length - frame.length) ++ feed.upstream.bytes) =
                frame ++ (pump.buffered ++ feed.upstream.bytes) := by
            rw [List.append_assoc, ← List.append_assoc (pump.buffered.take _),
              List.take_append_drop]
          rw [and_iff_right (sound.held_le room other _)]
          simp [Feed.fitsRest, Feed.fits, Feed.unread, Feed.ahead, stage, idle, ← shape]
  | scan boundary frame b rest stage full =>
      cases gives with
      | go =>
          have other : pump.stage.readsLines = false := by rw [stage]; rfl
          rw [and_iff_right (sound.held_le room other _)]
          exact fitsRest_scan (sound.idle other) stage full

/-! ### Runs -/

/-- What has ended sends nothing more. -/
def Agrees (feed : Feed) (pump : Pump) : Prop := pump.closed = true → feed.upstream = ⟨[], none⟩

theorem Agrees.step (agrees : Agrees feed pump) (step : Step pump input next)
    (gives : feed.Gives input after) : Agrees after next := by
  cases gives with
  | send bytes more failure some upstream =>
      intro closed
      cases step with
      | fill _ _ _ _ isOpen => cases isOpen.symm.trans closed
      | finish => exact absurd rfl some
  | finish upstream => exact fun _ => upstream
  | lose error upstream =>
      cases step with
      | lose => exact agrees
  | request | look => cases step <;> exact agrees
  | go =>
      cases step with
      | gather lines =>
          rcases pump.gather_cases with ⟨line, rest, -, same⟩ | ⟨-, same⟩
          · rcases @takeLine_cases { pump with buffered := rest } lines (pump.line ++ line) with
              ⟨reason, taken⟩ | ⟨stage, taken, -⟩ <;> rw [same, taken] <;> exact agrees
          · rw [same]
            exact agrees
      | publish | copy => exact agrees
      | scan boundary frame b rest =>
          unfold Pump.scan
          dsimp only
          split
          · exact agrees
          · split <;> exact agrees

/-- What is left to do, with all that is still to come. -/
def left (feed : Feed) (pump : Pump) : Nat := 16 * feed.upstream.bytes.length + pump.work

theorem left_step (step : Step pump input next) (gives : feed.Gives input after) :
    left after next < left feed pump := by
  cases gives with
  | send bytes more failure some upstream =>
      have sent := List.length_pos_iff.mpr some
      cases step with
      | finish => exact absurd rfl some
      | fill _ _ empty =>
          simp only [left, work, leftover, upstream, empty, List.length_append, List.length_nil]
          omega
  | finish => exact Nat.add_lt_add_left (step.work_step fun _ same => by cases same; rfl) _
  | request | look | lose | go =>
      exact Nat.add_lt_add_left (step.work_step fun _ same => by cases same) _

/-- As long as it runs, its feed has an answer for the pump. -/
theorem step_of_running (agrees : Agrees feed pump) (running : pump.stage ≠ .ended) :
    ∃ input after next, feed.Gives input after ∧ pump.step input = some next := by
  have takes : ∀ {input after}, feed.Gives input after → (pump.step input).isSome = true →
      ∃ input after next, feed.Gives input after ∧ pump.step input = some next := by
    intro input after gives some
    obtain ⟨next, stepped⟩ := Option.isSome_iff_exists.mp some
    exact ⟨input, after, next, gives, stepped⟩
  rcases answered running with requested | looked | ⟨last, reads⟩ | goes
  · exact takes (.request _ rfl) (requested _)
  · exact takes (.look _ rfl) (looked _)
  · obtain ⟨bytes, failure, upstream⟩ : ∃ bytes failure, feed.upstream = ⟨bytes, failure⟩ :=
      ⟨_, _, rfl⟩
    have isOpen : ⟨bytes, failure⟩ ≠ (⟨[], none⟩ : Reader) → pump.closed = false := fun more =>
      Bool.not_eq_true _ ▸ fun closed => more (upstream.symm.trans (agrees closed))
    cases bytes with
    | cons b bytes =>
        have whole : feed.upstream = ⟨b :: bytes ++ [], failure⟩ := by simpa using upstream
        exact takes (.send (b :: bytes) [] failure nofun whole) (reads (isOpen (by simp)) _)
    | nil =>
        cases failure with
        | none => exact takes (.finish upstream) last
        | some error => exact takes (.lose error upstream) (reads (isOpen (by simp)) _)
  · exact takes .go goes

/-- Over a run, the lines that are read keep what is held within the bound. -/
theorem Sound.meets_of_fits (sound : pump.Sound) (room : maxFrameBytes < bound)
    {inputs : List PumpInput} {final : Pump} (serves : feed.Serves inputs)
    (ran : Machine.run Pump.step pump inputs = some final) (fits : feed.fitsRest bound pump) :
    Machine.Meets Pump.step (fun pump input => pump.held input ≤ bound) pump inputs := by
  induction inputs generalizing pump feed with
  | nil => trivial
  | cons input inputs ih =>
      simp only [Machine.run, Option.bind_eq_some_iff] at ran
      obtain ⟨next, stepped, ran⟩ := ran
      obtain ⟨later, gives, serves⟩ := serves
      have step := Step.of_step stepped
      obtain ⟨within, rest⟩ := (sound.fitsRest_iff room step gives).mp fits
      refine ⟨within, fun next' stepped' => ?_⟩
      obtain rfl := Option.some.inj (stepped.symm.trans stepped')
      exact ih (sound.step step) serves ran rest

/-- What all runs hold tells what the lines are, as there is one that reads all of them. -/
theorem Sound.fits_of_meets (room : maxFrameBytes < bound) {measure : Nat} (sound : pump.Sound)
    (agrees : Agrees feed pump) (bounded : left feed pump < measure)
    (meets : ∀ inputs final, feed.Serves inputs → Machine.run Pump.step pump inputs = some final →
      Machine.Meets Pump.step (fun pump input => pump.held input ≤ bound) pump inputs) :
    feed.fitsRest bound pump := by
  induction measure generalizing pump feed with
  | zero => cases bounded
  | succ measure ih =>
      by_cases running : pump.stage = .ended
      · rw [Feed.fitsRest, running]
        trivial
      · obtain ⟨input, after, next, gives, stepped⟩ := step_of_running agrees running
        have step := Step.of_step stepped
        refine (sound.fitsRest_iff room step gives).mpr ⟨?_, ?_⟩
        · exact (meets [input] next ⟨after, gives, trivial⟩ (by simp [Machine.run, stepped])).1
        · have fewer := left_step step gives
          refine ih (sound.step step) (agrees.step step gives) (by omega) ?_
          intro inputs final serves ran
          have whole := meets (input :: inputs) final ⟨after, gives, serves⟩
            (by simp [Machine.run, stepped, ran])
          exact whole.2 next stepped

end

/-- Whatever the reads of a stream are, a bound beyond the limit of a frame is kept by what the
    pump holds just when it is kept by the lines of the stream where the pump reads lines. -/
theorem held_throughout_iff (bound : Nat) (room : maxFrameBytes < bound)
    (request : Except String Unit) (stop : Nat → Bool) (upstream : Reader) :
    (∀ inputs final, (⟨request, stop, 0, upstream⟩ : Feed).Serves inputs →
      Machine.run Pump.step start inputs = some final →
      Machine.Meets Pump.step (fun pump input => pump.held input ≤ bound) start inputs) ↔
      linesFit bound request stop upstream := by
  have begun : (⟨request, stop, 0, upstream⟩ : Feed).fitsRest bound start ↔
      linesFit bound request stop upstream := by
    cases request with
    | error reason => rfl
    | ok => exact (linesFit_ok bound stop upstream).symm
  rw [← begun]
  constructor
  · exact fun meets => sound_start.fits_of_meets room nofun (Nat.lt_succ_self _) meets
  · exact fun fits inputs final serves ran => sound_start.meets_of_fits room serves ran fits

/-- A header of two lines, and bytes that never come to an end of their line. -/
theorem held_throughout_iff_twoLines :
    (∀ inputs final,
      (⟨.ok (), fun _ => false, 0, ⟨encode "a: b\nc\n".toList, none⟩⟩ : Feed).Serves inputs →
      Machine.run Pump.step start inputs = some final →
      Machine.Meets Pump.step (fun pump input => pump.held input ≤ maxFrameBytes + 1) start
        inputs) ∧
    ¬ ∀ inputs final,
      (⟨.ok (), fun _ => false, 0, ⟨List.replicate (maxFrameBytes + 2) 120, none⟩⟩ : Feed).Serves
        inputs →
      Machine.run Pump.step start inputs = some final →
      Machine.Meets Pump.step (fun pump input => pump.held input ≤ maxFrameBytes + 1) start
        inputs := by
  constructor
  · refine (held_throughout_iff _ (Nat.lt_succ_self _) _ _ _).mpr ?_
    exact linesFit_of_length_le _ _ (by decide)
  · refine fun meets => ?_
    have fits := (held_throughout_iff _ (Nat.lt_succ_self _) _ _ _).mp meets
    have short := ((headersFit_iff ..).mp fits.1).1
    have fresh : lineFeed ∉ List.replicate (maxFrameBytes + 2) (120 : UInt8) := by
      rw [List.mem_replicate]
      exact fun same => absurd same.2 (by decide)
    rw [nextLine_of_fresh fresh, List.length_replicate] at short
    omega

/-- An upstream that sends one byte after another, and no line feed. -/
def flood : Nat → List PumpInput
  | 0 => []
  | n + 1 => .read (.ok [120]) :: .go :: flood n

def flooded (n : Nat) : Pump := ⟨.head none, [], List.replicate n 120, false, ⟨[], none, false⟩⟩

theorem run_flood (n k : Nat) :
    Machine.run Pump.step (flooded k) (flood n) = some (flooded (k + n)) := by
  induction n generalizing k with
  | zero => rfl
  | succ n ih =>
      have first : (flooded k).step (.read (.ok [120])) =
          some { flooded k with buffered := [120] } := rfl
      have second : ({ flooded k with buffered := [120] } : Pump).step .go =
          some (flooded (k + 1)) := by
        have gathered : List.replicate k (120 : UInt8) ++ [120] = List.replicate (k + 1) 120 :=
          (List.replicate_succ' ..).symm
        rw [flooded, flooded, ← gathered]
        rfl
      simp only [flood, Machine.run, first, Option.bind_some, second, ih]
      congr 2
      omega

/-- No bound holds: the pump gathers the line as long as it comes, and does not fail. -/
theorem line_unbounded : ¬ ∃ bound, ∀ inputs pump,
    Machine.run Pump.step start inputs = some pump → pump.outcome.failure = none →
      pump.line.length ≤ bound := by
  rintro ⟨bound, bounded⟩
  have ran : Machine.run Pump.step start (.requested (.ok ()) :: flood (bound + 1)) =
      some (flooded (0 + (bound + 1))) := run_flood (bound + 1) 0
  have within := bounded _ _ ran rfl
  simp only [flooded, List.length_replicate] at within
  omega

end Pump

end QuadControl.Ios.Mjpeg
