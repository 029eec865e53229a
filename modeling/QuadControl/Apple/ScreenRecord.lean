import Mathlib.Logic.Function.Basic
import QuadControl.Apple.AnnexBUnits
import QuadControl.Lib.Machine

/-! # The capture of a screen

`ScreenRecordStream` runs a recording process, parses what comes out of its pipe and has
the units decoded. Calls of its methods, the processes and the callbacks of their pipes
interleave at the granularity of its lock. A restart replaces the parser; the callback of
a pipe appends to whichever parser is there.
-/

namespace QuadControl.Apple.AndroidVideo

open Lib Lib.Utf8

/-- The fields that `lock` guards. Processes and decoders go by number. -/
structure ScreenRecordStream where
  parser : AnnexBParser
  decoder : Option Nat
  process : Option Nat
  deriving Repr, DecidableEq

/-- What a call of `start`, `stop` or `restart` does next. -/
inductive Call where
  | idle
  | takeProcess (restarting : Bool)
  /-- `terminate` and the sweep of the device, whose effect is that processes exit. -/
  | terminate (restarting : Bool)
  | replaceParser
  /-- The sweep before a start, and the decoder. -/
  | makeDecoder
  | runProcess
  | recordProcess (process : Nat)
  deriving Repr, DecidableEq

/-- What the readability callback of a pipe holds. -/
inductive Callback where
  | idle
  /-- `availableData`, before `consume` has taken the lock. -/
  | read (chunk : Bytes)
  /-- The units that are left to decode, and the decoder there was under the lock. -/
  | decode (decoder : Option Nat) (units : List NalUnit)
  deriving Repr, DecidableEq

def Callback.holds : Callback → Bool
  | .read _ => true
  | .idle | .decode _ _ => false

/-- A chunk that was appended, and the process it was read from. -/
structure Feed where
  process : Nat
  chunk : Bytes
  deriving Repr, DecidableEq

structure Capture where
  stream : ScreenRecordStream
  calls : Nat → Call
  callbacks : Nat → Callback
  pipes : Nat → Bytes
  exited : Nat → Bool
  /-- Processes and decoders that were made so far. -/
  launched : Nat
  decoders : Nat
  decoded : List (Nat × NalUnit)
  /-- The processes there were when the parser was made, and what it was given and gave. -/
  since : Nat
  fed : List Feed
  units : List NalUnit

namespace Capture

def initial : Capture where
  stream := ⟨.new, none, none⟩
  calls _ := .idle
  callbacks _ := .idle
  pipes _ := []
  exited _ := false
  launched := 0
  decoders := 0
  decoded := []
  since := 0
  fed := []
  units := []

inductive Input where
  | start (call : Nat)
  | stop (call : Nat)
  | restart (call : Nat)
  /-- A call takes its next step; `ran` tells whether `process.run` succeeds. -/
  | proceed (call : Nat) (ran : Bool)
  | writes (process : Nat) (bytes : Bytes)
  | exits (process : Nat)
  | reads (process count : Nat)
  | consumes (process : Nat)
  | decodes (process : Nat)
  deriving Repr, DecidableEq

variable (capture : Capture)

def goto (call : Nat) (point : Call) : Capture :=
  { capture with calls := Function.update capture.calls call point }

def call (call : Nat) (point : Call) : Option Capture :=
  match capture.calls call with
  | .idle => some (capture.goto call point)
  | _ => none

def hold (process : Nat) (callback : Callback) : Capture :=
  { capture with callbacks := Function.update capture.callbacks process callback }

/-- The middle of `restart`. -/
def replaceParser : Capture :=
  { capture with
    stream := { capture.stream with parser := .new, decoder := none }
    since := capture.launched
    fed := []
    units := [] }

/-- The next step of a call of `start`, `stop` or `restart`. -/
def proceed (call : Nat) (ran : Bool) : Option Capture :=
  match capture.calls call with
  | .idle => none
  | .takeProcess restarting =>
      some { capture.goto call (.terminate restarting) with
        stream := { capture.stream with process := none } }
  | .terminate restarting =>
      some (capture.goto call (if restarting then .replaceParser else .idle))
  | .replaceParser => some (capture.replaceParser.goto call .makeDecoder)
  | .makeDecoder =>
      some { capture.goto call .runProcess with
        stream := { capture.stream with decoder := some capture.decoders }
        decoders := capture.decoders + 1 }
  | .runProcess =>
      if ran then
        some { capture.goto call (.recordProcess capture.launched) with
          launched := capture.launched + 1 }
      else some (capture.goto call .idle)
  | .recordProcess process =>
      some { capture.goto call .idle with
        stream := { capture.stream with process := some process } }

/-- A process that runs writes to its pipe. -/
def writes (process : Nat) (bytes : Bytes) : Option Capture :=
  if process < capture.launched ∧ capture.exited process = false then
    some { capture with
      pipes := Function.update capture.pipes process (capture.pipes process ++ bytes) }
  else none

def exits (process : Nat) : Option Capture :=
  if process < capture.launched ∧ capture.exited process = false then
    some { capture with exited := Function.update capture.exited process true }
  else none

/-- The handler of a pipe is called for one chunk at a time, which is not empty. -/
def reads (process count : Nat) : Option Capture :=
  match capture.callbacks process with
  | .idle =>
      if 0 < count ∧ count ≤ (capture.pipes process).length then
        some { capture.hold process (.read ((capture.pipes process).take count)) with
          pipes := Function.update capture.pipes process ((capture.pipes process).drop count) }
      else none
  | _ => none

/-- `consume`, up to the unlock. -/
def consume (process : Nat) (chunk : Bytes) : Capture :=
  let (units, parser) := capture.stream.parser.append chunk
  { capture.hold process (.decode capture.stream.decoder units) with
    stream := { capture.stream with parser }
    fed := capture.fed ++ [⟨process, chunk⟩]
    units := capture.units ++ units }

def consumes (process : Nat) : Option Capture :=
  match capture.callbacks process with
  | .read chunk => some (capture.consume process chunk)
  | _ => none

/-- The rest of `consume`, a unit at a time. -/
def decodes (process : Nat) : Option Capture :=
  match capture.callbacks process with
  | .decode _ [] => some (capture.hold process .idle)
  | .decode decoder (unit :: units) =>
      some { capture.hold process (.decode decoder units) with
        decoded := capture.decoded ++ decoder.toList.map fun decoder => (decoder, unit) }
  | _ => none

def step : Input → Option Capture
  | .start call => capture.call call .makeDecoder
  | .stop call => capture.call call (.takeProcess false)
  | .restart call => capture.call call (.takeProcess true)
  | .proceed call ran => capture.proceed call ran
  | .writes process bytes => capture.writes process bytes
  | .exits process => capture.exits process
  | .reads process count => capture.reads process count
  | .consumes process => capture.consumes process
  | .decodes process => capture.decodes process

/-- When a parser is replaced no callback of a process holds a chunk, and the pipes of
    the processes before it are not read any more. -/
def Settled (capture : Capture) : Input → Prop
  | .proceed call _ =>
      capture.calls call = .replaceParser →
        ∀ k < capture.launched, (capture.callbacks k).holds = false
  | .reads process _ => capture.since ≤ process
  | _ => True

instance (capture : Capture) (input : Input) : Decidable (Settled capture input) :=
  match input with
  | .proceed call _ =>
      inferInstanceAs (Decidable (capture.calls call = .replaceParser →
        ∀ k < capture.launched, (capture.callbacks k).holds = false))
  | .reads process _ => inferInstanceAs (Decidable (capture.since ≤ process))
  | .start _ | .stop _ | .restart _ | .writes _ _ | .exits _ | .consumes _ | .decodes _ =>
      isTrue trivial

/-! ### What a step can do -/

/-- The steps, by what they do to the parser and to the chunks that are held. -/
inductive Move (capture : Capture) : Input → Capture → Prop where
  | rests {input : Input} {next : Capture} (settled : Settled capture input)
      (parser : next.stream.parser = capture.stream.parser)
      (since : next.since = capture.since) (fed : next.fed = capture.fed)
      (units : next.units = capture.units) (launched : capture.launched ≤ next.launched)
      (pipes : ∀ k, next.pipes k ≠ capture.pipes k → k < capture.launched)
      (callbacks : ∀ k, next.callbacks k = capture.callbacks k ∨
        ∃ decoder units, capture.callbacks k = .decode decoder units ∧
          ∀ chunk, next.callbacks k ≠ .read chunk) :
      Move capture input next
  | replaced {call : Nat} {ran : Bool} (here : capture.calls call = .replaceParser) :
      Move capture (.proceed call ran) (capture.replaceParser.goto call .makeDecoder)
  | read {process count : Nat} (idle : capture.callbacks process = .idle) (some : 0 < count)
      (enough : count ≤ (capture.pipes process).length) :
      Move capture (.reads process count)
        { capture.hold process (.read ((capture.pipes process).take count)) with
          pipes := Function.update capture.pipes process ((capture.pipes process).drop count) }
  | consumed {process : Nat} {chunk : Bytes} (held : capture.callbacks process = .read chunk) :
      Move capture (.consumes process) (capture.consume process chunk)

variable {capture next : Capture}

/-- A step of a call that is not in the middle of `restart`. -/
theorem Move.of_frame {input : Input} (settled : Settled capture input)
    (parser : next.stream.parser = capture.stream.parser)
    (since : next.since = capture.since) (fed : next.fed = capture.fed)
    (units : next.units = capture.units) (launched : capture.launched ≤ next.launched)
    (pipes : next.pipes = capture.pipes) (callbacks : next.callbacks = capture.callbacks) :
    Move capture input next :=
  .rests settled parser since fed units launched
    (fun k changed => absurd (congrFun pipes k) changed) fun k => .inl (congrFun callbacks k)

theorem move_of_call {input : Input} {call : Nat} {point : Call} (settled : Settled capture input)
    (called : capture.call call point = some next) : Move capture input next := by
  unfold Capture.call at called
  split at called
  · cases called
    exact .of_frame settled rfl rfl rfl rfl (Nat.le_refl _) rfl rfl
  · cases called

theorem move_of_proceed {call : Nat} {ran : Bool}
    (stepped : capture.proceed call ran = some next) :
    Move capture (.proceed call ran) next := by
  have settled : capture.calls call ≠ .replaceParser → Settled capture (.proceed call ran) :=
    fun other here => absurd here other
  unfold proceed at stepped
  split at stepped
  case h_1 => cases stepped
  case h_4 here =>
      obtain rfl := Option.some.inj stepped
      exact .replaced here
  case h_6 here =>
      have settled := settled (by rw [here]; nofun)
      split at stepped
      · obtain rfl := Option.some.inj stepped
        exact .of_frame settled rfl rfl rfl rfl (Nat.le_succ _) rfl rfl
      · obtain rfl := Option.some.inj stepped
        exact .of_frame settled rfl rfl rfl rfl (Nat.le_refl _) rfl rfl
  all_goals
    rename_i here
    have settled := settled (by rw [here]; nofun)
    obtain rfl := Option.some.inj stepped
    exact .of_frame settled rfl rfl rfl rfl (Nat.le_refl _) rfl rfl

theorem move_of_writes {process : Nat} {bytes : Bytes}
    (stepped : capture.writes process bytes = some next) :
    Move capture (.writes process bytes) next := by
  unfold writes at stepped
  split at stepped
  · rename_i runs
    obtain rfl := Option.some.inj stepped
    refine .rests trivial rfl rfl rfl rfl (Nat.le_refl _) (fun k changed => ?_) fun k => .inl rfl
    by_contra late
    have other : k ≠ process := by
      rintro rfl
      exact late runs.1
    exact changed (Function.update_of_ne other ..)
  · cases stepped

theorem move_of_exits {process : Nat} (stepped : capture.exits process = some next) :
    Move capture (.exits process) next := by
  unfold exits at stepped
  split at stepped
  · cases stepped
    exact .of_frame trivial rfl rfl rfl rfl (Nat.le_refl _) rfl rfl
  · cases stepped

theorem move_of_reads {process count : Nat} (stepped : capture.reads process count = some next) :
    Move capture (.reads process count) next := by
  unfold reads at stepped
  split at stepped
  · rename_i idle
    split at stepped
    · rename_i some
      obtain rfl := Option.some.inj stepped
      exact .read idle some.1 some.2
    · cases stepped
  · cases stepped

theorem move_of_consumes {process : Nat} (stepped : capture.consumes process = some next) :
    Move capture (.consumes process) next := by
  unfold consumes at stepped
  split at stepped
  · rename_i held
    obtain rfl := Option.some.inj stepped
    exact .consumed held
  · cases stepped

/-- What decoding leaves of the callbacks. -/
theorem decoding_leaves {process : Nat} {decoder : Option Nat} {units : List NalUnit}
    {callback : Callback} (held : capture.callbacks process = .decode decoder units)
    (unread : ∀ chunk, callback ≠ .read chunk) (k : Nat) :
    (capture.hold process callback).callbacks k = capture.callbacks k ∨
      ∃ decoder units, capture.callbacks k = .decode decoder units ∧
        ∀ chunk, (capture.hold process callback).callbacks k ≠ .read chunk := by
  by_cases here : k = process
  · subst here
    refine .inr ⟨decoder, units, held, ?_⟩
    simpa only [hold, Function.update_self] using unread
  · exact .inl (Function.update_of_ne here ..)

theorem move_of_decodes {process : Nat} (stepped : capture.decodes process = some next) :
    Move capture (.decodes process) next := by
  unfold decodes at stepped
  split at stepped
  · rename_i held
    obtain rfl := Option.some.inj stepped
    exact .rests trivial rfl rfl rfl rfl (Nat.le_refl _) (fun k changed => absurd rfl changed)
      (decoding_leaves held nofun)
  · rename_i held
    obtain rfl := Option.some.inj stepped
    exact .rests trivial rfl rfl rfl rfl (Nat.le_refl _) (fun k changed => absurd rfl changed)
      (decoding_leaves held nofun)
  · cases stepped

theorem move_of_step {input : Input} (stepped : capture.step input = some next) :
    Move capture input next := by
  cases input with
  | start call => exact move_of_call trivial stepped
  | stop call => exact move_of_call trivial stepped
  | restart call => exact move_of_call trivial stepped
  | proceed call ran => exact move_of_proceed stepped
  | writes process bytes => exact move_of_writes stepped
  | exits process => exact move_of_exits stepped
  | reads process count => exact move_of_reads stepped
  | consumes process => exact move_of_consumes stepped
  | decodes process => exact move_of_decodes stepped

/-! ### Chunks of earlier processes -/

/-- The parser that is there was given bytes of the processes run since it was made, and
    what came of them is what comes of these bytes alone. -/
structure Isolated (capture : Capture) : Prop where
  own : ∀ feed ∈ capture.fed, capture.since ≤ feed.process
  parsed : AnnexBParser.new.appendAll (capture.fed.map Feed.chunk) =
    (capture.units, capture.stream.parser)

theorem appendAll_concat (parser : AnnexBParser) (chunks : List Bytes) (chunk : Bytes) :
    parser.appendAll (chunks ++ [chunk]) =
      ((parser.appendAll chunks).1 ++ ((parser.appendAll chunks).2.append chunk).1,
        ((parser.appendAll chunks).2.append chunk).2) := by
  induction chunks generalizing parser with
  | nil => simp [AnnexBParser.appendAll]
  | cons first chunks ih => simp [AnnexBParser.appendAll, ih]

/-- What holds of every capture. -/
structure Sound (capture : Capture) : Prop where
  since : capture.since ≤ capture.launched
  pipes : ∀ k, capture.launched ≤ k → capture.pipes k = []
  idle : ∀ k, capture.launched ≤ k → capture.callbacks k = .idle
  parsed : AnnexBParser.new.appendAll (capture.fed.map Feed.chunk) =
    (capture.units, capture.stream.parser)

theorem sound_initial : Sound initial where
  since := Nat.le_refl _
  pipes _ _ := rfl
  idle _ _ := rfl
  parsed := rfl

theorem sound_read {process count : Nat} (sound : Sound capture) (some : 0 < count)
    (enough : count ≤ (capture.pipes process).length) :
    Sound { capture.hold process (.read ((capture.pipes process).take count)) with
      pipes := Function.update capture.pipes process ((capture.pipes process).drop count) } := by
  have launched : process < capture.launched := by
    by_contra late
    rw [sound.pipes process (by omega)] at enough
    simp at enough
    omega
  constructor
  case since => exact sound.since
  case parsed => exact sound.parsed
  case pipes =>
      intro k late
      have other : k ≠ process := by
        rintro rfl
        exact absurd launched (Nat.not_lt.mpr late)
      exact (Function.update_of_ne other ..).trans (sound.pipes k late)
  case idle =>
      intro k late
      have other : k ≠ process := by
        rintro rfl
        exact absurd launched (Nat.not_lt.mpr late)
      exact (Function.update_of_ne other ..).trans (sound.idle k late)

theorem sound_consume {process : Nat} {chunk : Bytes} (sound : Sound capture)
    (held : capture.callbacks process = .read chunk) :
    Sound (capture.consume process chunk) := by
  constructor
  case since => exact sound.since
  case pipes => exact sound.pipes
  case idle =>
      intro k late
      have other : k ≠ process := by
        rintro rfl
        rw [sound.idle k late] at held
        cases held
      exact (Function.update_of_ne other ..).trans (sound.idle k late)
  case parsed =>
      simp only [consume, List.map_append, List.map_cons, List.map_nil, appendAll_concat,
        sound.parsed]

theorem sound_of_move {input : Input} (sound : Sound capture) (move : Move capture input next) :
    Sound next := by
  cases move with
  | rests settled parser since fed units launched pipes callbacks =>
      constructor
      case since => rw [since]; exact sound.since.trans launched
      case parsed => rw [fed, units, parser]; exact sound.parsed
      case pipes =>
          intro k late
          by_contra filled
          have := pipes k fun same => filled (same.trans (sound.pipes k (by omega)))
          omega
      case idle =>
          intro k late
          have idle := sound.idle k (by omega)
          obtain same | ⟨decoder, units, held, -⟩ := callbacks k
          · exact same.trans idle
          · rw [idle] at held
            cases held
  | replaced here =>
      exact ⟨Nat.le_refl _, sound.pipes, sound.idle, rfl⟩
  | read idle some enough => exact sound_read sound some enough
  | consumed held => exact sound_consume sound held

/-- No chunk that was read from an earlier process is still to be appended. -/
def Clear (capture : Capture) : Prop :=
  ∀ k, (capture.callbacks k).holds = true → capture.since ≤ k

theorem holds_of_rests (callbacks : ∀ k, next.callbacks k = capture.callbacks k ∨
    ∃ decoder units, capture.callbacks k = .decode decoder units ∧
      ∀ chunk, next.callbacks k ≠ .read chunk) (k : Nat) :
    (next.callbacks k).holds = (capture.callbacks k).holds := by
  obtain same | ⟨decoder, units, held, unread⟩ := callbacks k
  · rw [same]
  · rw [held]
    cases here : next.callbacks k with
    | read chunk => exact absurd here (unread chunk)
    | idle => rfl
    | decode => rfl

/-- A parser that is new is clear of earlier processes just when none of their callbacks
    holds a chunk. -/
theorem clear_replaceParser {call : Nat} :
    Clear (capture.replaceParser.goto call .makeDecoder) ↔
      ∀ k < capture.launched, (capture.callbacks k).holds = false := by
  constructor
  · intro clear k before
    by_contra held
    exact absurd before (Nat.not_lt.mpr (clear k ((Bool.not_eq_false _).mp held)))
  · intro settled k held
    by_contra before
    have free := settled k (Nat.not_le.mp before)
    exact absurd held (ne_true_of_eq_false free)

theorem clear_hold {process : Nat} {chunk : Bytes} (clear : Clear capture) :
    Clear (capture.hold process (.read chunk)) ↔ capture.since ≤ process := by
  constructor
  · intro clear'
    apply clear' process
    simp only [hold, Function.update_self, Callback.holds]
  · intro own k held
    by_cases here : k = process
    · exact here ▸ own
    · simp only [hold, Function.update_of_ne here] at held
      exact clear k held

/-- A step keeps the chunks of earlier processes away just when it meets the condition. -/
theorem clear_of_move {input : Input} (sound : Sound capture) (isolated : Isolated capture)
    (clear : Clear capture) (move : Move capture input next) :
    (Isolated next ∧ Clear next) ↔ Settled capture input := by
  have kept := sound_of_move sound move
  cases move with
  | rests settled parser since fed units launched pipes callbacks =>
      refine iff_of_true ⟨⟨?_, kept.parsed⟩, ?_⟩ settled
      · rw [fed, since]
        exact isolated.own
      · intro k held
        rw [since]
        exact clear k ((holds_of_rests callbacks k).symm.trans held)
  | replaced here =>
      simp only [Settled, here, forall_const]
      rw [← clear_replaceParser]
      exact and_iff_right ⟨nofun, kept.parsed⟩
  | read idle some enough =>
      refine (and_iff_right ?_).trans (clear_hold clear)
      exact ⟨isolated.own, kept.parsed⟩
  | @consumed process chunk held =>
      have own : capture.since ≤ process := clear process (by rw [held]; rfl)
      refine iff_of_true ⟨⟨?_, kept.parsed⟩, ?_⟩ trivial
      · intro feed inside
        rcases List.mem_append.mp inside with before | last
        · exact isolated.own feed before
        · obtain rfl := List.mem_singleton.mp last
          exact own
      · intro k held'
        by_cases here : k = process
        · exact here ▸ own
        · simp only [consume, hold, Function.update_of_ne here] at held'
          exact clear k held'

/-- A chunk of an earlier process stays, or is appended. -/
theorem clear_of_later (capture : Capture) (input : Input) (next : Capture) (sound : Sound capture)
    (stepped : capture.step input = some next) (isolated : Isolated next) (later : Clear next) :
    Clear capture := by
  have move := move_of_step stepped
  intro k held
  cases move with
  | rests settled parser since fed units launched pipes callbacks =>
      rw [← since]
      exact later k ((holds_of_rests callbacks k).trans held)
  | replaced here => exact sound.since.trans (later k held)
  | @read process count idle some enough =>
      have other : k ≠ process := by
        rintro rfl
        rw [idle] at held
        cases held
      apply later k
      simpa only [hold, Function.update_of_ne other] using held
  | @consumed process chunk held' =>
      by_cases here : k = process
      · subst here
        exact isolated.own ⟨k, chunk⟩ (by simp [consume])
      · apply later k
        simpa only [consume, hold, Function.update_of_ne here] using held

theorem sound_of_step (capture : Capture) (input : Input) (next : Capture)
    (sound : Sound capture) (stepped : capture.step input = some next) : Sound next :=
  sound_of_move sound (move_of_step stepped)

/-! ### Every run -/

open Machine

/-- In every run whose restarts are settled no parser is given bytes of an earlier process.
    A run that leaves no chunk to append is so throughout only if its restarts are. -/
theorem isolated_throughout_iff_settled (inputs : List Input) (final : Capture)
    (ran : run step initial inputs = some final) :
    (Meets step Settled initial inputs → Throughout step Isolated initial inputs) ∧
      ((∀ k, (final.callbacks k).holds = false) →
        Throughout step Isolated initial inputs → Meets step Settled initial inputs) := by
  have isolated : Isolated initial := ⟨nofun, sound_initial.parsed⟩
  have clear : Clear initial := nofun
  have decided := run_throughout_iff sound_of_step
    (fun _ _ _ sound holds stepped =>
      clear_of_move sound holds.1 holds.2 (move_of_step stepped))
    sound_initial ⟨isolated, clear⟩ ran
  constructor
  · intro settled
    exact (decided.mpr settled).mono fun _ holds => holds.1
  · intro appended throughout
    have last : Clear final := by
      intro k held
      simp [appended k] at held
    exact decided.mp (throughout.backwards sound_of_step clear_of_later sound_initial ran last)

/-- A first process, whose callback reads a chunk. -/
def beginning : List Input :=
  [.start 0, .proceed 0 true, .proceed 0 true, .proceed 0 true,
    .writes 0 [0, 0, 0, 1, 0x67, 9], .reads 0 6]

/-- A restart that a second process comes of. -/
def restarting : List Input :=
  [.restart 0, .proceed 0 true, .proceed 0 true, .exits 0, .proceed 0 true, .proceed 0 true,
    .proceed 0 true, .proceed 0 true]

/-- The chunk is appended before the restart. -/
theorem isolated_throughout_settled :
    ∃ final, run step initial (beginning ++ [Input.consumes 0] ++ restarting) = some final ∧
      Throughout step Isolated initial (beginning ++ [Input.consumes 0] ++ restarting) := by
  have ran : (run step initial (beginning ++ [Input.consumes 0] ++ restarting)).isSome := by
    decide +kernel
  obtain ⟨final, ran⟩ := Option.isSome_iff_exists.mp ran
  have settled : Meets step Settled initial (beginning ++ [Input.consumes 0] ++ restarting) := by
    decide +kernel
  exact ⟨final, ran, (isolated_throughout_iff_settled _ final ran).1 settled⟩

/-- The chunk is appended after it, and ends up in a unit of the second process. -/
theorem not_isolated :
    ¬ ∀ inputs final, run step initial inputs = some final → Isolated final := by
  intro isolated
  have mixed : (run step initial (beginning ++ restarting ++ [Input.consumes 0])).map
      (fun capture => (capture.since, capture.fed)) =
        some (1, [⟨0, [0, 0, 0, 1, 0x67, 9]⟩]) := by
    decide +kernel
  obtain ⟨final, ran, seen⟩ := Option.map_eq_some_iff.mp mixed
  obtain ⟨since, fed⟩ := Prod.mk.inj seen
  have own := (isolated _ final ran).own ⟨0, [0, 0, 0, 1, 0x67, 9]⟩ (by simp [fed])
  rw [since] at own
  exact absurd own (by decide)

end Capture

end QuadControl.Apple.AndroidVideo
