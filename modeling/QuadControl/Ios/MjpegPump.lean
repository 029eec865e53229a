import QuadControl.Ios.Mjpeg
import QuadControl.Lib.Machine

/-! # The pump, read by read

The reader of the upstream keeps a buffer and asks the socket for more once it is empty.
The pump is a machine over what the socket answers: it gathers lines and frames out of
that buffer, until the stream ends, breaks off, or is not what the pump takes it for.
-/

namespace QuadControl.Ios.Mjpeg

open Lib Lib.Utf8
open Lib.Text (dashes)

/-- Where the pump stands, with the variables of the function it is in. -/
inductive PumpStage where
  | requesting
  /-- `read_upstream_boundary`, with the content type so far. -/
  | head (contentType : Option Text)
  /-- The top of the loop. -/
  | checking (boundary : Text)
  /-- The first loop of `read_frame`. -/
  | delimiter (boundary : Text)
  /-- The second one, with the last value given for the length. -/
  | header (boundary : Text) (value : Option Text)
  /-- `read_exact`, with the part of the frame that is filled. -/
  | body (boundary : Text) (length : Nat) (frame : Bytes)
  /-- `scan_to_boundary`. -/
  | scanning (boundary : Text) (frame : Bytes)
  | ended
  deriving Repr, DecidableEq

/-- The loops that read lines. -/
def PumpStage.readsLines : PumpStage → Bool
  | .head _ | .delimiter _ | .header _ _ => true
  | _ => false

/-- The pump with its reader: the buffer of the reader, the line that `read_line` fills,
    and whether the socket has come to its end. -/
structure Pump where
  stage : PumpStage
  buffered : Bytes
  line : Bytes
  closed : Bool
  outcome : Outcome
  deriving Repr, DecidableEq

inductive PumpInput where
  /-- What becomes of `request_stream`. -/
  | requested (outcome : Except String Unit)
  /-- What the stop flag is at the top of the loop. -/
  | looked (stop : Bool)
  /-- A read of the socket, of no bytes at the end of the stream. -/
  | read (answer : Except String Bytes)
  /-- The pump goes on with what is buffered. -/
  | go

namespace Pump

def start : Pump := ⟨.requesting, [], [], false, ⟨[], none, false⟩⟩

variable (pump : Pump)

def goTo (stage : PumpStage) : Pump := { pump with stage := stage, line := [] }

/-- The returns of `pump_upstream`. -/
def close : Pump := { pump.goTo .ended with outcome := { pump.outcome with stopping := true } }

def fail (reason : String) : Pump :=
  { pump.goTo .ended with
    outcome := { pump.outcome with failure := some reason, stopping := true } }

/-- A frame is published, and the loop begins again. -/
def publish (boundary : Text) (frame : Bytes) : Pump :=
  { pump.goTo (.checking boundary) with
    outcome := { pump.outcome with published := pump.outcome.published ++ [frame] } }

/-- What follows the response head. -/
def endHead (contentType : Option Text) : Pump :=
  match contentType with
  | none => pump.fail "MJPEG upstream sent no Content-Type"
  | some contentType =>
      match boundaryParameter contentType with
      | none => pump.fail
          ("MJPEG upstream Content-Type has no boundary: " ++ String.ofList contentType)
      | some boundary => pump.goTo (.checking (Text.trimStartDashes boundary))

/-- What follows the header of a part. -/
def endHeader (boundary : Text) (length : Option Nat) : Pump :=
  match length with
  | some length =>
      if length > maxFrameBytes then
        pump.fail s!"MJPEG frame of {length} bytes exceeds the {maxFrameBytes} byte limit"
      else pump.goTo (.body boundary length [])
  | none => pump.goTo (.scanning boundary [])

/-- A line has been read. -/
def onLine (line : Text) : Pump :=
  match pump.stage with
  | .head contentType =>
      if Text.trim line = [] then pump.endHead contentType
      else pump.goTo (.head ((headerValue contentTypeName line).or contentType))
  | .delimiter boundary =>
      pump.goTo (if isDelimiter boundary line then .header boundary none else .delimiter boundary)
  | .header boundary value =>
      if Text.trim line = [] then pump.endHeader boundary (value.bind Text.parseUsize)
      else pump.goTo (.header boundary ((headerValue contentLengthName line).or value))
  | _ => pump

/-- `read_line` has come to a line feed, or to the end of the stream with something read. -/
def takeLine (bytes : Bytes) : Pump :=
  match decodeLine bytes with
  | .error reason => pump.fail reason
  | .ok line => pump.onLine line

/-- `read_line` has come to the end of the stream with nothing read. -/
def noLine : Pump :=
  match pump.stage with
  | .head _ => pump.fail "MJPEG upstream closed while reading headers"
  | _ => pump.close

/-- The loop of `scan_to_boundary` with one more byte. -/
def scan (boundary : Text) (frame : Bytes) : Pump :=
  let needle := encode (dashes ++ boundary)
  if frame.length > maxFrameBytes then
    pump.fail s!"MJPEG frame exceeded the {maxFrameBytes} byte limit with no boundary in sight"
  else if needle <:+ frame then
    pump.publish boundary ((frame.take (frame.length - needle.length)).rdropWhile isLineEnd)
  else { pump with stage := .scanning boundary frame }

/-- The end of the stream, as the functions that read see it. -/
def finish : Pump :=
  match pump.stage with
  | .head _ | .delimiter _ | .header _ _ =>
      if pump.line = [] then pump.noLine else pump.takeLine pump.line
  | .scanning boundary frame => if frame = [] then pump.close else pump.publish boundary frame
  | _ => pump.close

/-- Whether the functions that read want another byte. -/
def wants : Bool :=
  match pump.stage with
  | .head _ | .delimiter _ | .header _ _ | .scanning _ _ => true
  | .body _ length frame => frame.length < length
  | _ => false

/-- The answer to a read. A stream that has ended stays at its end. -/
def receive : Except String Bytes → Option Pump
  | .ok [] => some { pump with closed := true }.finish
  | .ok bytes => if pump.closed then none else some { pump with buffered := bytes }
  | .error error => if pump.closed then none else some (pump.fail (upstreamReadFailed error))

/-- `read_line` with what is buffered. -/
def gather : Pump :=
  match splitLine pump.buffered with
  | some (line, rest) => { pump with buffered := rest }.takeLine (pump.line ++ line)
  | none => { pump with buffered := [], line := pump.line ++ pump.buffered }

/-- One step of the pump. -/
def step (pump : Pump) (input : PumpInput) : Option Pump :=
  match pump.stage, input with
  | .requesting, .requested (.error reason) => some (pump.fail reason)
  | .requesting, .requested (.ok ()) => some (pump.goTo (.head none))
  | .checking boundary, .looked stop =>
      some (if stop then pump.close else pump.goTo (.delimiter boundary))
  | _, .read answer =>
      if pump.wants = true ∧ pump.buffered = [] then pump.receive answer else none
  | .head _, .go | .delimiter _, .go | .header _ _, .go =>
      if pump.buffered = [] then none else some pump.gather
  | .body boundary length frame, .go =>
      if length ≤ frame.length then some (pump.publish boundary frame)
      else if pump.buffered = [] then none
      else
        let missing := length - frame.length
        some { pump with
          buffered := pump.buffered.drop missing
          stage := .body boundary length (frame ++ pump.buffered.take missing) }
  | .scanning boundary frame, .go =>
      match pump.buffered with
      | [] => none
      | b :: rest => some ({ pump with buffered := rest }.scan boundary (frame ++ [b]))
  | _, _ => none

/-- What a step can do, one constructor a kind of step. -/
inductive Step (pump : Pump) : PumpInput → Pump → Prop
  | refuse (reason) (stage : pump.stage = .requesting) :
      Step pump (.requested (.error reason)) (pump.fail reason)
  | accept (stage : pump.stage = .requesting) :
      Step pump (.requested (.ok ())) (pump.goTo (.head none))
  | stop (boundary) (stage : pump.stage = .checking boundary) :
      Step pump (.looked true) pump.close
  | proceed (boundary) (stage : pump.stage = .checking boundary) :
      Step pump (.looked false) (pump.goTo (.delimiter boundary))
  | fill (bytes) (wants : pump.wants = true) (empty : pump.buffered = []) (more : bytes ≠ [])
      (isOpen : pump.closed = false) :
      Step pump (.read (.ok bytes)) { pump with buffered := bytes }
  | lose (error) (wants : pump.wants = true) (empty : pump.buffered = [])
      (isOpen : pump.closed = false) :
      Step pump (.read (.error error)) (pump.fail (upstreamReadFailed error))
  | finish (wants : pump.wants = true) (empty : pump.buffered = []) :
      Step pump (.read (.ok [])) { pump with closed := true }.finish
  | gather (lines : pump.stage.readsLines = true) (full : pump.buffered ≠ []) :
      Step pump .go pump.gather
  | publish (boundary length frame) (stage : pump.stage = .body boundary length frame)
      (whole : length ≤ frame.length) : Step pump .go (pump.publish boundary frame)
  | copy (boundary length frame) (stage : pump.stage = .body boundary length frame)
      (part : frame.length < length) (full : pump.buffered ≠ []) :
      Step pump .go { pump with
        buffered := pump.buffered.drop (length - frame.length)
        stage := .body boundary length (frame ++ pump.buffered.take (length - frame.length)) }
  | scan (boundary frame b rest) (stage : pump.stage = .scanning boundary frame)
      (full : pump.buffered = b :: rest) :
      Step pump .go ({ pump with buffered := rest }.scan boundary (frame ++ [b]))

theorem Step.of_receive {pump next : Pump} {answer : Except String Bytes}
    (wants : pump.wants = true) (empty : pump.buffered = [])
    (h : pump.receive answer = some next) : Step pump (.read answer) next := by
  unfold receive at h
  split at h
  · cases h
    exact .finish wants empty
  · rename_i bytes more
    split at h
    · cases h
    · rename_i isOpen
      cases h
      exact .fill bytes wants empty more (Bool.not_eq_true _ ▸ isOpen)
  · rename_i error
    split at h
    · cases h
    · rename_i isOpen
      cases h
      exact .lose error wants empty (Bool.not_eq_true _ ▸ isOpen)

theorem Step.of_step {pump next : Pump} {input : PumpInput} (h : pump.step input = some next) :
    Step pump input next := by
  unfold step at h
  split at h
  · rename_i stage
    cases h
    exact .refuse _ stage
  · rename_i stage
    cases h
    exact .accept stage
  · rename_i boundary stop stage
    cases h
    cases stop with
    | true => exact .stop boundary stage
    | false => exact .proceed boundary stage
  · split at h
    · rename_i reads
      exact .of_receive reads.1 reads.2 h
    · cases h
  · rename_i stage
    split at h
    · cases h
    · cases h
      exact .gather (by simp [stage, PumpStage.readsLines]) ‹_›
  · rename_i stage
    split at h
    · cases h
    · cases h
      exact .gather (by simp [stage, PumpStage.readsLines]) ‹_›
  · rename_i stage
    split at h
    · cases h
    · cases h
      exact .gather (by simp [stage, PumpStage.readsLines]) ‹_›
  · rename_i boundary length frame stage
    split at h
    · rename_i whole
      cases h
      exact .publish boundary length frame stage whole
    · rename_i part
      split at h
      · cases h
      · rename_i full
        cases h
        exact .copy boundary length frame stage (Nat.lt_of_not_le part) full
  · rename_i boundary frame stage
    split at h
    · cases h
    · rename_i b rest full
      cases h
      exact .scan boundary frame b rest stage full
  · cases h

/-! ### What a line leads to -/

end Pump

/-- A stage as a line leads to it: no byte of a frame is there yet. -/
def PumpStage.Fresh : PumpStage → Prop
  | .requesting | .ended => False
  | .body _ length frame => length ≤ maxFrameBytes ∧ frame = []
  | .scanning _ frame => frame = []
  | .head _ | .checking _ | .delimiter _ | .header _ _ => True

namespace Pump

theorem onLine_cases {pump : Pump} (lines : pump.stage.readsLines = true) (line : Text) :
    (∃ reason, pump.onLine line = pump.fail reason) ∨
      ∃ stage, pump.onLine line = pump.goTo stage ∧ stage.Fresh := by
  unfold onLine
  cases stage : pump.stage with
  | head contentType =>
      dsimp only
      split
      · unfold endHead
        split
        · exact .inl ⟨_, rfl⟩
        · split
          · exact .inl ⟨_, rfl⟩
          · exact .inr ⟨_, rfl, trivial⟩
      · exact .inr ⟨_, rfl, trivial⟩
  | delimiter boundary =>
      refine .inr ⟨_, rfl, ?_⟩
      split <;> trivial
  | header boundary value =>
      dsimp only
      split
      · unfold endHeader
        split
        · split
          · exact .inl ⟨_, rfl⟩
          · rename_i within
            exact .inr ⟨_, rfl, Nat.not_lt.mp within, rfl⟩
        · exact .inr ⟨_, rfl, rfl⟩
      · exact .inr ⟨_, rfl, trivial⟩
  | _ => simp [stage, PumpStage.readsLines] at lines

theorem takeLine_cases {pump : Pump} (lines : pump.stage.readsLines = true) (bytes : Bytes) :
    (∃ reason, pump.takeLine bytes = pump.fail reason) ∨
      ∃ stage, pump.takeLine bytes = pump.goTo stage ∧ stage.Fresh := by
  unfold takeLine
  split
  · exact .inl ⟨_, rfl⟩
  · exact onLine_cases lines _

theorem noLine_cases (pump : Pump) :
    (∃ reason, pump.noLine = pump.fail reason) ∨ pump.noLine = pump.close := by
  unfold noLine
  split
  · exact .inl ⟨_, rfl⟩
  · exact .inr rfl

/-- What the end of the stream leads to. -/
inductive Finish (pump : Pump) : Pump → Prop
  | noLine (lines : pump.stage.readsLines = true) (nothing : pump.line = []) :
      Finish pump pump.noLine
  | line (lines : pump.stage.readsLines = true) (some : pump.line ≠ []) :
      Finish pump (pump.takeLine pump.line)
  | frame (boundary frame) (stage : pump.stage = .scanning boundary frame) (some : frame ≠ []) :
      Finish pump (pump.publish boundary frame)
  | close (other : pump.stage.readsLines = false)
      (nothing : ∀ boundary frame, pump.stage = .scanning boundary frame → frame = []) :
      Finish pump pump.close

theorem finish_cases (pump : Pump) : Finish pump pump.finish := by
  unfold finish
  cases stage : pump.stage with
  | head | delimiter | header =>
      have lines : pump.stage.readsLines = true := by simp [stage, PumpStage.readsLines]
      dsimp only
      split
      · exact .noLine lines ‹_›
      · exact .line lines ‹_›
  | scanning boundary frame =>
      dsimp only
      split
      · rename_i nothing
        refine .close (by simp [stage, PumpStage.readsLines]) fun _ _ same => ?_
        cases stage.symm.trans same
        exact nothing
      · exact .frame boundary frame stage ‹_›
  | requesting | checking | body | ended =>
      exact .close (by simp [stage, PumpStage.readsLines]) (by simp [stage])

/-- The buffer is read up to a line feed, or all of it. -/
theorem gather_cases (pump : Pump) :
    (∃ line rest, splitLine pump.buffered = some (line, rest) ∧
      pump.gather = { pump with buffered := rest }.takeLine (pump.line ++ line)) ∨
    splitLine pump.buffered = none ∧
      pump.gather = { pump with buffered := [], line := pump.line ++ pump.buffered } := by
  unfold gather
  split
  · rename_i line rest split
    exact .inl ⟨line, rest, split, rfl⟩
  · rename_i unsplit
    exact .inr ⟨unsplit, rfl⟩

/-! ### What the pump keeps -/

/-- No line is gathered past its line feed and no frame past the limit, and the pump has
    not failed as long as it runs. -/
structure Sound (pump : Pump) : Prop where
  line : lineFeed ∉ pump.line
  idle : pump.stage.readsLines = false → pump.line = []
  running : pump.stage ≠ .ended → pump.outcome.failure = none
  ended : pump.stage = .ended → pump.outcome.stopping = true
  closed : pump.closed = true → pump.buffered = []
  body : ∀ boundary length frame, pump.stage = .body boundary length frame →
    frame.length ≤ length ∧ length ≤ maxFrameBytes
  scanning : ∀ boundary frame, pump.stage = .scanning boundary frame →
    frame.length ≤ maxFrameBytes
  published : ∀ frame ∈ pump.outcome.published, frame.length ≤ maxFrameBytes

theorem sound_start : start.Sound := by
  constructor <;> simp [start]

section

variable {pump next : Pump} {input : PumpInput}

theorem Sound.fail (sound : pump.Sound) (reason : String) : (pump.fail reason).Sound := by
  refine ⟨by simp [Pump.fail, goTo], fun _ => rfl, fun running => absurd rfl running,
    fun _ => rfl, sound.closed, nofun, nofun, sound.published⟩

theorem Sound.close (sound : pump.Sound) : pump.close.Sound := by
  refine ⟨by simp [Pump.close, goTo], fun _ => rfl, fun running => absurd rfl running,
    fun _ => rfl, sound.closed, nofun, nofun, sound.published⟩

theorem Sound.goTo (sound : pump.Sound) {stage : PumpStage} (running : pump.stage ≠ .ended)
    (fresh : stage.Fresh) : (pump.goTo stage).Sound where
  line := by simp [Pump.goTo]
  idle _ := rfl
  running _ := sound.running running
  ended same := by
    obtain rfl : stage = .ended := same
    exact fresh.elim
  closed := sound.closed
  body boundary length frame same := by
    obtain rfl : stage = .body boundary length frame := same
    obtain ⟨small, rfl⟩ := fresh
    exact ⟨Nat.zero_le _, small⟩
  scanning boundary frame same := by
    obtain rfl : stage = .scanning boundary frame := same
    obtain rfl : frame = [] := fresh
    exact Nat.zero_le _
  published := sound.published

theorem Sound.publish (sound : pump.Sound) (running : pump.stage ≠ .ended) (boundary : Text)
    {frame : Bytes} (small : frame.length ≤ maxFrameBytes) :
    (pump.publish boundary frame).Sound where
  line := by simp [Pump.publish, Pump.goTo]
  idle _ := rfl
  running _ := sound.running running
  ended := nofun
  closed := sound.closed
  body := nofun
  scanning := nofun
  published other member := by
    rcases List.mem_append.mp member with earlier | latest
    · exact sound.published other earlier
    · obtain rfl := List.mem_singleton.mp latest
      exact small

/-- Only an open socket has bytes for the buffer. -/
theorem Sound.isOpen (sound : pump.Sound) (full : pump.buffered ≠ []) : pump.closed = false :=
  Bool.not_eq_true _ ▸ fun closed => full (sound.closed closed)

theorem Sound.buffer (sound : pump.Sound) (isOpen : pump.closed = false) (bytes : Bytes) :
    { pump with buffered := bytes }.Sound :=
  { sound with
    closed closed := by
      rw [isOpen] at closed
      cases closed }

theorem running_of_lines (lines : pump.stage.readsLines = true) : pump.stage ≠ .ended := by
  intro ended
  rw [ended] at lines
  cases lines

theorem Sound.takeLine (sound : pump.Sound) (lines : pump.stage.readsLines = true)
    (bytes : Bytes) : (pump.takeLine bytes).Sound := by
  rcases takeLine_cases lines bytes with ⟨reason, same⟩ | ⟨stage, same, fresh⟩
  · rw [same]
    exact sound.fail reason
  · rw [same]
    exact sound.goTo (running_of_lines lines) fresh

theorem Sound.gather (sound : pump.Sound) (lines : pump.stage.readsLines = true)
    (full : pump.buffered ≠ []) : pump.gather.Sound := by
  have isOpen := sound.isOpen full
  rcases pump.gather_cases with ⟨line, rest, split, same⟩ | ⟨unsplit, same⟩
  · rw [same]
    exact (sound.buffer isOpen rest).takeLine lines _
  · rw [same]
    refine { sound with
      line := ?_
      idle := fun other => ?_
      closed := fun _ => rfl }
    · simp [sound.line, splitLine_eq_none.mp unsplit]
    · rw [lines] at other
      cases other

theorem Sound.finish (sound : pump.Sound) : pump.finish.Sound := by
  have finished := pump.finish_cases
  generalize pump.finish = next at finished ⊢
  cases finished with
  | noLine =>
      rcases pump.noLine_cases with ⟨reason, same⟩ | same
      · rw [same]
        exact sound.fail reason
      · rw [same]
        exact sound.close
  | line lines => exact sound.takeLine lines pump.line
  | frame boundary frame stage =>
      exact sound.publish (by simp [stage]) boundary (sound.scanning boundary frame stage)
  | close => exact sound.close

theorem Sound.scan (sound : pump.Sound) {boundary : Text} {frame : Bytes}
    (stage : pump.stage = .scanning boundary frame) (b : UInt8) :
    (pump.scan boundary (frame ++ [b])).Sound := by
  have running : pump.stage ≠ .ended := by simp [stage]
  unfold Pump.scan
  dsimp only
  split
  · exact sound.fail _
  · rename_i within
    split
    · refine sound.publish running boundary ?_
      have cut := (List.rdropWhile_prefix isLineEnd ((frame ++ [b]).take
        ((frame ++ [b]).length - (encode (dashes ++ boundary)).length))).length_le
      have short := List.length_take_le ((frame ++ [b]).length -
        (encode (dashes ++ boundary)).length) (frame ++ [b])
      omega
    · refine { sound with
        idle := fun _ => sound.idle (by simp [stage, PumpStage.readsLines])
        running := fun _ => sound.running running
        ended := nofun
        body := nofun
        scanning := ?_ }
      rintro boundary' frame' same
      cases same
      exact Nat.not_lt.mp within

theorem Sound.step (sound : pump.Sound) (step : Step pump input next) : next.Sound := by
  cases step with
  | refuse reason => exact sound.fail reason
  | accept stage => exact sound.goTo (by simp [stage]) trivial
  | stop => exact sound.close
  | proceed boundary stage => exact sound.goTo (by simp [stage]) trivial
  | fill bytes wants empty more isOpen => exact sound.buffer isOpen bytes
  | lose error => exact sound.fail _
  | finish wants empty =>
      have closed : { pump with closed := true }.Sound := { sound with closed := fun _ => empty }
      exact closed.finish
  | gather lines full => exact sound.gather lines full
  | publish boundary length frame stage whole =>
      obtain ⟨part, small⟩ := sound.body boundary length frame stage
      exact sound.publish (by simp [stage]) boundary (part.trans small)
  | copy boundary length frame stage part full =>
      obtain ⟨-, small⟩ := sound.body boundary length frame stage
      have read := sound.buffer (sound.isOpen full) (pump.buffered.drop (length - frame.length))
      refine { read with
        idle := fun _ => sound.idle (by simp [stage, PumpStage.readsLines])
        running := fun _ => sound.running (by simp [stage])
        ended := nofun
        body := ?_
        scanning := nofun }
      rintro boundary' length' frame' same
      cases same
      have taken := List.length_take_le (length - frame.length) pump.buffered
      simp only [List.length_append]
      omega
  | scan boundary frame b rest stage full =>
      have read := sound.buffer (sound.isOpen (by simp [full])) rest
      exact read.scan stage b

end

theorem sound_of_run {inputs : List PumpInput} {pump : Pump}
    (ran : Machine.run Pump.step start inputs = some pump) : pump.Sound :=
  Machine.run_preserves (fun _ _ _ sound stepped => sound.step (.of_step stepped)) sound_start ran

end Pump

end QuadControl.Ios.Mjpeg
