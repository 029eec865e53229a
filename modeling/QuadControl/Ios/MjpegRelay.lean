import QuadControl.Ios.MjpegCut
import QuadControl.Ios.MjpegEnd
import QuadControl.Ios.MjpegScan
import QuadControl.Ios.MjpegSegments
import QuadControl.Ios.MjpegSlotRuns

/-! # From the device to a client

The pump, the slot and the writers together: the pump reads the upstream and publishes frame
after frame, and each writer sends a header and, as parts, the frames it takes. A socket can fail
in the middle of what is written, and the stream of a client can be cut anywhere.
-/

namespace QuadControl.Ios.Mjpeg

open Lib Lib.Utf8 Lib.Interleaving
open Lib.Text (dashes)

/-! ### What is sent downstream -/

/-- `DOWNSTREAM_BOUNDARY`. -/
def downstreamBoundary : Text := "quadcontrolframe".toList

/-- The head that `write_downstream` sends. -/
def writtenHead : Bytes :=
  ["HTTP/1.1 200 OK".toList, "Access-Control-Allow-Origin: *".toList,
    contentTypeLine downstreamBoundary,
    "Cache-Control: no-store".toList, "Connection: close".toList, []].flatMap line

/-- What it sends of a frame. -/
def writtenPart (frame : Bytes) : Bytes :=
  line (dashes ++ downstreamBoundary) ++ line imageTypeLine ++
    line (contentLengthLine frame.length) ++ line [] ++ frame ++ line []

def writtenStream (frames : List Bytes) : Bytes := writtenHead ++ frames.flatMap writtenPart

theorem writtenStream_append (frames : List Bytes) (frame : Bytes) :
    writtenStream (frames ++ [frame]) = writtenStream frames ++ writtenPart frame := by
  simp [writtenStream]

/-- A header line whose name, if it has one, is another. -/
def isOther (name text : Text) : Bool :=
  !text.contains '\n' && text.any (fun c => !Text.isWhitespace c) &&
    (Text.splitOnce ':' text).all fun named => !Text.eqIgnoreAsciiCase (Text.trim named.1) name

theorem isOther_iff {name text : Text} : isOther name text = true ↔
    '\n' ∉ text ∧ (∃ c ∈ text, ¬ Text.isWhitespace c) ∧
      ∀ key value, Text.splitOnce ':' text = some (key, value) →
        Text.eqIgnoreAsciiCase (Text.trim key) name = false := by
  simp [isOther, Option.all_eq_true, and_assoc]

def otherHeader {name text : Text} (isOther : isOther name text = true) : OtherHeader name where
  text := text
  oneLine := (isOther_iff.mp isOther).1
  notBlank := (isOther_iff.mp isOther).2.1
  other key value shape colon :=
    (isOther_iff.mp isOther).2.2 key value (Text.splitOnce_eq_some.mpr ⟨shape, colon⟩)

def downstreamResponse : Response where
  boundary :=
    { text := downstreamBoundary
      nonempty := by decide
      oneLine := by decide
      unquoted := by decide
      solidEnd := by
        rintro c ⟨rfl⟩
        decide
      openEnd := by decide }
  dashed := false
  before := [@otherHeader _ "HTTP/1.1 200 OK".toList (by decide),
    @otherHeader _ "Access-Control-Allow-Origin: *".toList (by decide)]
  after := [@otherHeader _ "Cache-Control: no-store".toList (by decide),
    @otherHeader _ "Connection: close".toList (by decide)]

theorem writtenHead_eq : writtenHead = downstreamResponse.bytes := by
  simp only [writtenHead, Response.bytes, downstreamResponse, headerLines, Response.announced,
    otherHeader, List.flatMap_cons, List.flatMap_nil, List.append_nil, List.append_assoc,
    Bool.false_eq_true, if_false]

/-- A frame, as a part of the stream downstream. -/
def downstreamPart (frame : Bytes) (small : frame.length ≤ maxFrameBytes) : Part :=
  ⟨frame, small, [imageType], []⟩

theorem writtenPart_eq (frame : Bytes) (small : frame.length ≤ maxFrameBytes) :
    writtenPart frame = (downstreamPart frame small).bytes downstreamResponse.boundary := by
  simp only [writtenPart, Part.bytes, Part.head, Boundary.delimiter, downstreamResponse,
    downstreamPart, headerLines, imageType, List.flatMap_cons, List.flatMap_nil, List.append_nil,
    List.append_assoc]

/-- What is written is a rendered stream. -/
theorem writtenStream_eq (frames : List Bytes)
    (small : ∀ frame ∈ frames, frame.length ≤ maxFrameBytes) :
    ∃ parts : List Part, parts.map Part.frame = frames ∧ ∀ n, writtenStream (frames.take n) =
      downstreamResponse.bytes ++
        (parts.take n).flatMap (Part.bytes downstreamResponse.boundary) := by
  have same : (frames.pmap downstreamPart small).map Part.frame = frames := by
    rw [List.map_pmap]
    exact List.pmap_eq_self.mpr fun _ _ => rfl
  have each : ∀ part ∈ frames.pmap downstreamPart small,
      writtenPart part.frame = part.bytes downstreamResponse.boundary := by
    intro part inside
    obtain ⟨frame, member, rfl⟩ := List.mem_pmap.mp inside
    exact writtenPart_eq frame (small frame member)
  refine ⟨_, same, fun n => ?_⟩
  have split : writtenStream (((frames.pmap downstreamPart small).map Part.frame).take n) =
      downstreamResponse.bytes ++
        ((frames.pmap downstreamPart small).take n).flatMap fun part => writtenPart part.frame := by
    rw [writtenStream, writtenHead_eq, ← List.map_take, List.flatMap_map]
  rw [same] at split
  rw [split, List.flatMap_congr fun part inside => each part (List.take_subset n _ inside)]

/-! ### The whole -/

structure Relay where
  pump : Pump
  pool : Pool (Slot × History) Point
  /-- What a writer has in hand, and what it has handed to its socket. -/
  owed : Nat → Bytes
  written : Nat → Bytes

inductive RelayInput where
  | pump (input : PumpInput)
  /-- `publish` is called with the frame that was read. -/
  | publish
  | go (thread : Nat)
  | stop (thread : Nat)
  | leave (writer : Nat)
  /-- The request cannot be read, or a write fails when so many of its bytes are on their way. -/
  | fails (writer count : Nat)

namespace Relay

def start : Relay := ⟨.start, initialNoted, fun _ => [], fun _ => []⟩

section

variable (relay : Relay)

def slot : Slot := relay.pool.shared.1

def history : History := relay.pool.shared.2

/-- The frame that was read and is not published yet. -/
def pending : Option Bytes := relay.pump.outcome.published[relay.history.published.length]?

def act (event : Event Action) : Option Relay :=
  (Interleaving.step advanceNoted relay.pool event).map fun pool => { relay with pool := pool }

/-- The flag the pump looks at is the slot's. -/
def looks : PumpInput → Bool
  | .looked stop => stop = relay.slot.stopping
  | _ => true

def write (i : Nat) (output : Bytes × Bytes) : Relay :=
  { relay with
    written := Function.update relay.written i output.1
    owed := Function.update relay.owed i output.2 }

end

/-- What a writer has written and has in hand behind a step from the given point. -/
def output (slot : Slot) (written owed : Bytes) : Point → Bytes × Bytes
  | .outside => (written, writtenHead)
  | .serving _ => (written ++ owed, [])
  | .looking lastSeq =>
      (written, if lastSeq < slot.seq then writtenPart (slot.frame.getD []) else [])
  | _ => (written, owed)

/-- A step of the pump's thread in its own code, of `publish` and `next_frame`, or of a writer. -/
def step (relay : Relay) : RelayInput → Option Relay
  | .pump input =>
      if relay.pool.threads 0 = .pumping ∧ relay.pending = none ∧ relay.looks input = true then
        (relay.pump.step input).bind fun pump =>
          let next : Relay := { relay with pump := pump }
          if pump.outcome.stopping then next.act (0, .stop) else some next
      else none
  | .publish => relay.pending.bind fun frame => relay.act (0, .publish frame)
  | .go i => (relay.act (i, .go)).map fun next =>
      next.write i (output relay.slot (relay.written i) (relay.owed i) (relay.pool.threads i))
  | .stop i => if i = 0 then none else relay.act (i, .stop)
  | .leave i => if relay.pool.threads i = .leaving then relay.act (i, .leave) else none
  | .fails i count =>
      match relay.pool.threads i with
      | .serving _ => (relay.act (i, .leave)).map fun next =>
          next.write i (relay.written i ++ (relay.owed i).take count, [])
      | _ => none

end Relay

/-- The frames that a writer took. -/
def History.frames (history : History) (writer : Nat) : List Bytes :=
  (history.received writer).map fun take => take.frame.getD []

/-! ### What a writer has written -/

/-- What a writer has written, and has in hand, is what is sent of the frames it took. -/
def Written (frames : List Bytes) (written owed : Bytes) : Point → Prop
  | .outside => frames = [] ∧ written = []
  | .serving _ => written ++ owed = writtenStream frames
  | .waiting _ | .locked _ | .looking _ | .leaving => written = writtenStream frames
  | .gone => written <+: writtenStream frames
  | .pumping | .publishing _ | .counting _ | .storing _ => written = []

section

variable {me : Nat} {slot slot' : Slot} {history history' : History} {point point' : Point}
  {frames : List Bytes} {written owed : Bytes}

theorem Written.inStream (h : Written frames written owed point) :
    written <+: writtenStream frames := by
  cases point with
  | outside =>
      obtain ⟨-, rfl⟩ := h
      exact List.nil_prefix
  | pumping | publishing | counting | storing =>
      obtain rfl : written = [] := h
      exact List.nil_prefix
  | serving =>
      obtain h : written ++ owed = _ := h
      exact ⟨owed, h⟩
  | waiting | locked | looking | leaving =>
      obtain rfl : written = _ := h
      exact List.prefix_rfl
  | gone => exact h

theorem History.frames_congr (takes : history'.takes = history.takes) (writer : Nat) :
    history'.frames writer = history.frames writer := by
  simp only [frames, received, takes]

/-- Who looks takes the frame there is, if it is newer. -/
theorem History.frames_take {take : Take} {writer : Nat} :
    ({ history with takes := history.takes ++ [take] } : History).frames writer =
      history.frames writer ++ if take.writer = writer then [take.frame.getD []] else [] := by
  rw [frames, received_append, List.map_append, frames]
  split <;> rfl

theorem Move.frames_other (move : Move me slot history point slot' history' point') {j : Nat}
    (apart : j ≠ me) : history'.frames j = history.frames j := by
  obtain ⟨takes, -⟩ | ⟨lastSeq, newer, rfl, rfl, rfl⟩ := move.lastSeq
  · exact History.frames_congr takes j
  · rw [History.frames_take, if_neg apart.symm, List.append_nil]

theorem Written.go (h : Written (history.frames me) written owed point)
    (acted : advance me slot point .go = some (slot', point')) :
    Written ((note me slot point .go history).frames me) (Relay.output slot written owed point).1
      (Relay.output slot written owed point).2 point' := by
  cases point with
  | outside =>
      obtain ⟨none, rfl⟩ := h
      cases acted
      have untaken : (note me slot .outside .go history).frames me = [] := none
      rw [untaken]
      simp [Written, Relay.output, writtenStream]
  | pumping | leaving | gone => cases acted
  | publishing frame =>
      simp only [advance] at acted
      split at acted
      · cases acted
        exact h
      · cases acted
        exact h
  | counting | storing =>
      cases acted
      exact h
  | serving lastSeq =>
      cases acted
      exact h
  | waiting lastSeq =>
      simp only [advance, Option.map_eq_some_iff, Prod.mk.injEq] at acted
      obtain ⟨_, -, -, rfl⟩ := acted
      exact h
  | locked lastSeq =>
      simp only [advance] at acted
      split at acted
      · cases acted
        exact h
      · cases acted
        exact h
  | looking lastSeq =>
      obtain rfl : written = writtenStream (history.frames me) := h
      simp only [advance, look, Option.some.injEq] at acted
      simp only [note, Relay.output]
      split at acted
      · rename_i newer
        cases acted
        simp only [if_pos newer, History.frames_take, if_true]
        exact (writtenStream_append _ _).symm
      · rename_i old
        cases acted
        simp only [if_neg old]
        rfl

/-! ### What the pump has handed on -/

/-- What is published was read, and so was what is being published. -/
def Handed (pumped published : List Bytes) : Point → Prop
  | .publishing frame | .counting frame | .storing frame => published ++ [frame] <+: pumped
  | _ => published <+: pumped

theorem Handed.read {pumped published : List Bytes} (h : Handed pumped published point) :
    published <+: pumped := by
  cases point with
  | publishing frame | counting frame | storing frame =>
      exact (List.prefix_append published [frame]).trans h
  | _ => exact h

theorem Handed.go {pumped : List Bytes} (h : Handed pumped history.published point)
    (acted : advance me slot point .go = some (slot', point')) :
    Handed pumped (note me slot point .go history).published point' := by
  cases point with
  | publishing frame =>
      have same : (note me slot (.publishing frame) .go history).published = history.published := by
        simp only [note]
        split <;> rfl
      rw [same]
      simp only [advance] at acted
      split at acted
      · cases acted
        exact h
      · cases acted
        exact h
  | counting frame | storing frame =>
      cases acted
      exact h
  | pumping | leaving | gone => cases acted
  | outside | serving =>
      cases acted
      exact h
  | waiting =>
      simp only [advance, Option.map_eq_some_iff, Prod.mk.injEq] at acted
      obtain ⟨_, -, -, rfl⟩ := acted
      exact h
  | locked =>
      simp only [advance] at acted
      split at acted
      · cases acted
        exact h
      · cases acted
        exact h
  | looking lastSeq =>
      have same : (note me slot (.looking lastSeq) .go history).published = history.published := by
        simp only [note]
        split <;> rfl
      rw [same]
      simp only [advance, look, Option.some.injEq] at acted
      split at acted
      · cases acted
        exact h
      · cases acted
        exact h

/-- Only the pump's thread publishes. -/
theorem Move.published (move : Move me slot history point slot' history' point')
    (writer : point.pumps = false) : history'.published = history.published := by
  cases move with
  | publish | count | drop | store => cases writer
  | stop | register | call | lock | stopped | running | take | wait | leave => rfl

end

/-! ### Every run -/

structure Relayed (relay : Relay) : Prop where
  sound : relay.pump.Sound
  pool : Exclusive relay.pool ∧ Counted relay.pool ∧ Kept relay.pool
  handed : Handed relay.pump.outcome.published relay.history.published (relay.pool.threads 0)
  written : ∀ i, Written (relay.history.frames i) (relay.written i) (relay.owed i)
    (relay.pool.threads i)

theorem relayed_start : Relayed .start where
  sound := Pump.sound_start
  pool := initial_invariant
  handed := List.prefix_rfl
  written i := by
    show Written [] [] [] (if i = 0 then Point.pumping else .outside)
    split
    · exact rfl
    · exact ⟨rfl, rfl⟩

namespace Relay

variable {relay next : Relay}

theorem act_some {event : Event Action} (h : relay.act event = some next) :
    ∃ slot point,
      advance event.1 relay.slot (relay.pool.threads event.1) event.2 = some (slot, point) ∧
      next = { relay with pool := ⟨(slot, note event.1 relay.slot (relay.pool.threads event.1)
        event.2 relay.history), Function.update relay.pool.threads event.1 point⟩ } ∧
      Interleaving.step advanceNoted relay.pool event = some next.pool := by
  simp only [act, Option.map_eq_some_iff] at h
  obtain ⟨pool, stepped, rfl⟩ := h
  obtain ⟨shared, point, acted, rfl⟩ := step_some stepped
  obtain ⟨slot, point, acted, same⟩ := noted_some acted
  cases same
  exact ⟨slot, point, acted, rfl, stepped⟩

theorem write_self (relay : Relay) (i : Nat) :
    relay.write i (relay.written i, relay.owed i) = relay := by
  simp only [write, Function.update_eq_self]

end Relay

variable {relay next : Relay}

/-- What a thread does in the slot, and writes. -/
theorem Relayed.act (relayed : Relayed relay) {event : Event Action} (output : Bytes × Bytes)
    (handed : ∀ slot point, event.1 = 0 →
      advance 0 relay.slot (relay.pool.threads 0) event.2 = some (slot, point) →
        Handed relay.pump.outcome.published
          (note 0 relay.slot (relay.pool.threads 0) event.2 relay.history).published point)
    (written : ∀ slot point,
      advance event.1 relay.slot (relay.pool.threads event.1) event.2 = some (slot, point) →
        Written ((note event.1 relay.slot (relay.pool.threads event.1) event.2
          relay.history).frames event.1) output.1 output.2 point)
    (h : relay.act event = some next) : Relayed (next.write event.1 output) := by
  obtain ⟨slot, point, acted, rfl, stepped⟩ := Relay.act_some h
  have move : Move event.1 relay.slot relay.history (relay.pool.threads event.1) _ _ _ :=
    .of_advance acted
  refine ⟨relayed.sound, Kept.step _ _ _ relayed.pool stepped, ?_, fun j => ?_⟩
  · by_cases pumps : event.1 = 0
    case pos =>
        simp only [Relay.write, Relay.history, pumps, Function.update_self] at acted handed ⊢
        exact handed slot point trivial acted
    case neg =>
        have writer : (relay.pool.threads event.1).pumps = false := by
          have kept := (relayed.pool.2.2.2 event.1).1
          simpa using mt kept.mp pumps
        have same := move.published writer
        simp only [Relay.write, Relay.history, Function.update_of_ne (Ne.symm pumps)] at same ⊢
        rw [same]
        exact relayed.handed
  · by_cases own : j = event.1
    case pos =>
        subst own
        simpa only [Relay.write, Relay.history, Function.update_self] using written slot point acted
    case neg =>
        have same := move.frames_other own
        simp only [Relay.write, Relay.history, Function.update_of_ne own] at same ⊢
        rw [same]
        exact relayed.written j

/-- A thread that writes nothing. -/
theorem Relayed.quiet (relayed : Relayed relay) {event : Event Action}
    (handed : ∀ slot point, event.1 = 0 →
      advance 0 relay.slot (relay.pool.threads 0) event.2 = some (slot, point) →
        Handed relay.pump.outcome.published
          (note 0 relay.slot (relay.pool.threads 0) event.2 relay.history).published point)
    (written : ∀ slot point,
      advance event.1 relay.slot (relay.pool.threads event.1) event.2 = some (slot, point) →
        Written ((note event.1 relay.slot (relay.pool.threads event.1) event.2
          relay.history).frames event.1) (relay.written event.1) (relay.owed event.1) point)
    (h : relay.act event = some next) : Relayed next := by
  have acted := relayed.act (relay.written event.1, relay.owed event.1) handed written h
  obtain ⟨slot, point, -, rfl, -⟩ := Relay.act_some h
  have same := fun next : Relay => next.write_self event.1
  rwa [same] at acted

theorem Relayed.stop (relayed : Relayed relay) {i : Nat} (h : relay.act (i, .stop) = some next) :
    Relayed next := by
  have still : ∀ slot point,
      advance i relay.slot (relay.pool.threads i) .stop = some (slot, point) → point = relay.pool.threads i ∧
        note i relay.slot (relay.pool.threads i) .stop relay.history = relay.history := by
    intro slot point acted
    cases here : relay.pool.threads i with
    | outside | pumping =>
        rw [here] at acted
        cases acted
        exact ⟨rfl, rfl⟩
    | _ =>
        rw [here] at acted
        cases acted
  refine relayed.quiet (fun slot point pumps acted => ?_) (fun slot point acted => ?_) h
  · obtain rfl : i = 0 := pumps
    obtain ⟨rfl, same⟩ := still slot point acted
    rw [same]
    exact relayed.handed
  · obtain ⟨rfl, same⟩ := still slot point acted
    rw [same]
    exact relayed.written i

theorem Relayed.publish (relayed : Relayed relay) {frame : Bytes}
    (pending : relay.pending = some frame) (h : relay.act (0, .publish frame) = some next) : Relayed next := by
  have published : ∀ slot point,
      advance 0 relay.slot (relay.pool.threads 0) (.publish frame) = some (slot, point) →
        relay.pool.threads 0 = .pumping ∧ point = .publishing frame := by
    intro slot point acted
    cases here : relay.pool.threads 0 with
    | pumping =>
        rw [here] at acted
        simp only [advance, Option.map_eq_some_iff, Prod.mk.injEq] at acted
        obtain ⟨_, -, -, rfl⟩ := acted
        exact ⟨rfl, rfl⟩
    | _ =>
        rw [here] at acted
        cases acted
  refine relayed.quiet (fun slot point _ acted => ?_) (fun slot point acted => ?_) h
  · obtain ⟨here, rfl⟩ := published slot point acted
    rw [here]
    obtain ⟨more, whole⟩ := relayed.handed.read
    have next : more[0]? = some frame := by
      rwa [Relay.pending, ← whole, List.getElem?_append_right (Nat.le_refl _), Nat.sub_self]
        at pending
    obtain ⟨rest, rfl⟩ : ∃ rest, more = frame :: rest := by
      cases more with
      | nil => cases next
      | cons first rest => exact ⟨rest, by rw [Option.some.inj next]⟩
    exact ⟨rest, by rw [← whole]; exact (List.append_cons ..).symm⟩
  · obtain ⟨here, rfl⟩ := published slot point acted
    have before := relayed.written 0
    rw [here] at before ⊢
    exact before

/-- A writer that is done, or whose socket has failed. -/
theorem Relayed.leave (relayed : Relayed relay) {i : Nat} (output : Bytes × Bytes)
    (part : output.1 <+: writtenStream (relay.history.frames i))
    (h : relay.act (i, .leave) = some next) : Relayed (next.write i output) := by
  have left : ∀ slot point,
      advance i relay.slot (relay.pool.threads i) .leave = some (slot, point) → (relay.pool.threads i).pumps = false ∧ point = .gone := by
    intro slot point acted
    cases here : relay.pool.threads i with
    | serving | leaving =>
        rw [here] at acted
        cases acted
        exact ⟨rfl, rfl⟩
    | _ =>
        rw [here] at acted
        cases acted
  have takes : (note i relay.slot (relay.pool.threads i) .leave relay.history).takes =
      relay.history.takes := by
    cases relay.pool.threads i <;> rfl
  refine relayed.act output (fun slot point pumps acted => ?_) (fun slot point acted => ?_) h
  · obtain rfl : i = 0 := pumps
    have pumps := (relayed.pool.2.2.2 0).1.mpr rfl
    rw [(left slot point acted).1] at pumps
    cases pumps
  · obtain ⟨-, rfl⟩ := left slot point acted
    rw [History.frames_congr takes]
    exact part

theorem Relayed.step {input : RelayInput} (relayed : Relayed relay)
    (stepped : relay.step input = some next) : Relayed next := by
  cases input with
  | pump input =>
      simp only [Relay.step, Option.ite_none_right_eq_some, Option.bind_eq_some_iff] at stepped
      obtain ⟨⟨here, -, -⟩, pump, pumped, stepped⟩ := stepped
      have step := Pump.Step.of_step pumped
      have read : Relayed { relay with pump := pump } :=
        { relayed with
          sound := relayed.sound.step step
          handed := by
            have before := relayed.handed
            rw [here] at before
            show Handed _ _ (relay.pool.threads 0)
            rw [here]
            exact List.IsPrefix.trans before step.grows }
      split at stepped
      · exact read.stop stepped
      · cases stepped
        exact read
  | publish =>
      simp only [Relay.step, Option.bind_eq_some_iff] at stepped
      obtain ⟨frame, pending, stepped⟩ := stepped
      exact relayed.publish pending stepped
  | go i =>
      simp only [Relay.step, Option.map_eq_some_iff] at stepped
      obtain ⟨acted, stepped, rfl⟩ := stepped
      refine relayed.act _ (fun slot point pumps acted => ?_) (fun slot point acted => ?_) stepped
      · obtain rfl : i = 0 := pumps
        exact relayed.handed.go acted
      · exact (relayed.written i).go acted
  | stop i =>
      simp only [Relay.step, Option.ite_none_left_eq_some] at stepped
      exact relayed.stop stepped.2
  | leave i =>
      simp only [Relay.step, Option.ite_none_right_eq_some] at stepped
      have same := next.write_self i
      have written := (relayed.written i).inStream
      obtain ⟨slot, point, -, rfl, -⟩ := Relay.act_some stepped.2
      rw [← same]
      exact relayed.leave _ written stepped.2
  | fails i count =>
      simp only [Relay.step] at stepped
      split at stepped
      case h_1 lastSeq here =>
        simp only [Option.map_eq_some_iff] at stepped
        obtain ⟨acted, stepped, rfl⟩ := stepped
        have serving := relayed.written i
        rw [here] at serving
        have whole : relay.written i ++ relay.owed i =
          writtenStream (relay.history.frames i) := serving
        refine relayed.leave _ ?_ stepped
        rw [← whole]
        exact (List.prefix_append_right_inj _).mpr (List.take_prefix ..)
      case h_2 => cases stepped

/-! ### What comes through -/

def pumpInputs : List RelayInput → List PumpInput
  | [] => []
  | .pump input :: inputs => input :: pumpInputs inputs
  | _ :: inputs => pumpInputs inputs

theorem Relay.act_pump {event : Event Action} (h : relay.act event = some next) :
    next.pump = relay.pump := by
  obtain ⟨slot, point, -, rfl, -⟩ := act_some h
  rfl

/-- The pump takes the steps that are its own, and no others. -/
theorem Relay.step_pump {input : RelayInput} (stepped : relay.step input = some next) :
    (∃ read, input = .pump read ∧ relay.pump.step read = some next.pump) ∨
      (∀ inputs, pumpInputs (input :: inputs) = pumpInputs inputs) ∧ next.pump = relay.pump := by
  cases input with
  | pump input =>
      simp only [step, Option.ite_none_right_eq_some, Option.bind_eq_some_iff] at stepped
      obtain ⟨-, pump, pumped, stepped⟩ := stepped
      refine .inl ⟨input, rfl, pumped.trans (congrArg some ?_)⟩
      split at stepped
      · exact (act_pump stepped).symm
      · cases stepped
        rfl
  | publish =>
      simp only [step, Option.bind_eq_some_iff] at stepped
      obtain ⟨frame, -, stepped⟩ := stepped
      exact .inr ⟨fun _ => rfl, act_pump stepped⟩
  | go i =>
      simp only [step, Option.map_eq_some_iff] at stepped
      obtain ⟨acted, stepped, rfl⟩ := stepped
      have same : acted.pump = relay.pump := act_pump stepped
      exact .inr ⟨fun _ => rfl, same⟩
  | stop i =>
      simp only [step, Option.ite_none_left_eq_some] at stepped
      exact .inr ⟨fun _ => rfl, act_pump stepped.2⟩
  | leave i =>
      simp only [step, Option.ite_none_right_eq_some] at stepped
      exact .inr ⟨fun _ => rfl, act_pump stepped.2⟩
  | fails i count =>
      simp only [step] at stepped
      split at stepped
      case h_1 =>
        simp only [Option.map_eq_some_iff] at stepped
        obtain ⟨acted, stepped, rfl⟩ := stepped
        have same : acted.pump = relay.pump := act_pump stepped
        exact .inr ⟨fun _ => rfl, same⟩
      case h_2 => cases stepped

/-- The pump of the whole runs by itself. -/
theorem Relay.run_pump {inputs : List RelayInput} {final : Relay}
    (ran : Machine.run Relay.step relay inputs = some final) :
    Machine.run Pump.step relay.pump (pumpInputs inputs) = some final.pump := by
  induction inputs generalizing relay with
  | nil =>
      obtain rfl := Option.some.inj ran
      rfl
  | cons input inputs ih =>
      simp only [Machine.run, Option.bind_eq_some_iff] at ran
      obtain ⟨next, stepped, ran⟩ := ran
      rcases Relay.step_pump stepped with ⟨read, rfl, pumped⟩ | ⟨skipped, same⟩
      · simp only [pumpInputs, Machine.run, pumped, Option.bind_some]
        exact ih ran
      · rw [skipped, ← same]
        exact ih ran

/-- What a writer took are frames that were published, in their order. -/
theorem Kept.frames_sublist {pool : Pool (Slot × History) Point} (kept : Kept pool) (i : Nat) :
    (pool.shared.2.frames i).Sublist pool.shared.2.published := by
  have genuine : ∀ take ∈ pool.shared.2.received i, Genuine pool.shared.2.published take :=
    fun take inside => kept.1.takes take (List.mem_of_mem_filter inside)
  have known : ∀ take ∈ pool.shared.2.received i,
      take.seq - 1 < pool.shared.2.published.length := by
    intro take inside
    have positive := (genuine take inside).positive
    have known := (genuine take inside).known
    omega
  have rising : ((pool.shared.2.received i).pmap (fun take => Fin.mk (take.seq - 1)) known).Pairwise
      (· < ·) := by
    have sorted := List.pairwise_map.mp (kept.2 i).2.2.sorted
    refine List.Pairwise.pmap (List.Pairwise.and_mem.mp sorted) known ?_
    rintro earlier _ later _ ⟨inside, -, less⟩
    have positive := (genuine earlier inside).positive
    show earlier.seq - 1 < later.seq - 1
    omega
  have same : ((pool.shared.2.received i).pmap (fun take => Fin.mk (take.seq - 1)) known).map
      (fun place => pool.shared.2.published[place]) = pool.shared.2.frames i := by
    rw [List.map_pmap, History.frames, ← List.pmap_eq_map known]
    refine List.pmap_congr_left _ fun take inside _ _ => ?_
    obtain ⟨frame, taken, here⟩ := (genuine take inside).frame
    rw [taken]
    exact (List.getElem?_eq_some_iff.mp here).2
  rw [← same]
  exact List.map_getElem_sublist rising

theorem Feed.total_start (request : Except String Unit) (stop : Nat → Bool) (upstream : Reader) :
    (⟨request, stop, 0, upstream⟩ : Feed).total .start = pumpUpstream request stop upstream := by
  cases request with
  | error reason => rfl
  | ok =>
      rw [pumpUpstream_eq]
      rfl

/-- A stream of frames of the source, in their order and each at most once, that can be cut
    anywhere: who reads it finds the frames that came as a whole, and nothing torn. -/
def Relays (source : List Bytes) (received : Bytes) : Prop :=
  ∃ taken : List Bytes, taken.Sublist source ∧ received <+: writtenStream taken ∧
    ∀ calm : Nat → Bool, (∀ i, calm i = false) →
      ∃ n, (pumpUpstream (.ok ()) calm ⟨received, none⟩).published = taken.take n ∧
        ∀ k ≤ taken.length, writtenStream (taken.take k) <+: received → k ≤ n

/-- However the upstream is read, the threads interleave and sockets fail, a client gets frames
    of the upstream. -/
theorem relay_faithful (request : Except String Unit) (stop : Nat → Bool) (upstream : Reader)
    (inputs : List RelayInput) (final : Relay)
    (serves : (⟨request, stop, 0, upstream⟩ : Feed).Serves (pumpInputs inputs))
    (ran : Machine.run Relay.step .start inputs = some final) (client : Nat) (received : Bytes)
    (arrived : received <+: final.written client) :
    Relays (pumpUpstream request stop upstream).published received := by
  have relayed : Relayed final :=
    Machine.run_preserves (fun _ _ _ relayed stepped => relayed.step stepped) relayed_start ran
  have published := relayed.pool.2.2.frames_sublist client
  have pumped := relayed.handed.read.sublist
  have whole : final.pump.outcome.published <+: (pumpUpstream request stop upstream).published := by
    obtain ⟨after, same⟩ := Pump.sound_start.total_of_run serves (Relay.run_pump ran)
    rw [← Feed.total_start, ← same]
    exact List.prefix_append _ _
  have cut : received <+: writtenStream (final.history.frames client) :=
    arrived.trans (relayed.written client).inStream
  have small : ∀ frame ∈ final.history.frames client, frame.length ≤ maxFrameBytes :=
    fun frame inside => relayed.sound.published frame (pumped.subset (published.subset inside))
  refine ⟨final.history.frames client, (published.trans pumped).trans whole.sublist, cut,
    fun calm still => ?_⟩
  obtain ⟨parts, same, rendered⟩ := writtenStream_eq _ small
  have all := rendered parts.length
  have count : (final.history.frames client).length = parts.length := by
    rw [← same, List.length_map]
  rw [← count, List.take_length, count, List.take_length] at all
  obtain ⟨n, found, arrives⟩ := pumpUpstream_cut downstreamResponse parts still (all ▸ cut)
  refine ⟨n, found.trans (by rw [same]), fun k most within => ?_⟩
  rw [rendered] at within
  exact arrives k (most.trans_eq count) within

/-- One frame of one byte. -/
def oneFrame : Bytes :=
  encode "Content-Type: a; boundary=b\r\n\r\n--b\r\nContent-Length: 1\r\n\r\nX".toList

/-- It is read, published, taken by the first writer, and half of it is written. -/
def oneFrameRun : List RelayInput :=
  [.pump (.requested (.ok ())), .pump (.read (.ok oneFrame)), .pump .go, .go 1, .pump .go,
    .pump (.looked false), .pump .go, .pump .go, .pump .go, .pump .go, .go 1, .pump .go, .publish,
    .go 0, .go 0, .go 1, .go 1, .go 1, .fails 1 7]

theorem relay_faithful_oneFrame : ∃ final,
    Machine.run Relay.step .start oneFrameRun = some final ∧ final.history.frames 1 = [[88]] ∧
    Relays (pumpUpstream (.ok ()) (fun _ => false) ⟨oneFrame, none⟩).published
      (final.written 1) := by
  have seen : (Machine.run Relay.step .start oneFrameRun).map
      (fun final => final.history.frames 1) = some [[88]] := by
    decide +kernel
  obtain ⟨final, ran, frames⟩ := Option.map_eq_some_iff.mp seen
  have some : oneFrame ≠ [] := by decide +kernel
  have serves : (⟨.ok (), fun _ => false, 0, ⟨oneFrame, none⟩⟩ : Feed).Serves
      (pumpInputs oneFrameRun) :=
    ⟨_, .request _ rfl, _, .send oneFrame [] none some (by rw [List.append_nil]), _, .go, _, .go,
      _, .look _ rfl, _, .go, _, .go, _, .go, _, .go, _, .go, trivial⟩
  exact ⟨final, ran, frames, relay_faithful _ _ _ _ final serves ran 1 _ List.prefix_rfl⟩

end QuadControl.Ios.Mjpeg
