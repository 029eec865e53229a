import QuadControl.Gui.ReclaimClock

/-! # Exiting the shell

The event loop holds requests to exit or to close the window back until the sessions have
been reclaimed by a worker in the background, which then asks for the exit itself. The last
event, which cannot be held back, reclaims in the loop's own thread, or waits for the worker
that is at it, for so long.

The two flags are all that the two threads share. A panic of `reclaim_sessions` in the
loop's thread is left out; in the worker it is an answer.
-/

namespace QuadControl.Gui.Shutdown

open Lib

/-- `EXIT_WAIT_BUDGET`. -/
def exitWaitBudget : Nat := 15000

/-- What `run` tells apart. -/
inductive RunEvent where
  | exitRequested
  | closeRequested
  | exit
  | other
  deriving Repr, DecidableEq

/-- Where the event loop stands. -/
inductive Loop where
  | idle
  /-- A request has been held back, and `begin_shutdown` is called. -/
  | held
  /-- In the last event, with the sessions not reclaimed. -/
  | exiting
  /-- A shutdown had been begun. -/
  | behind
  | checking (deadline : Nat)
  | sleeping (deadline wakeAt : Nat)
  | reclaiming (reclaim : Reclaim)
  /-- The process exits; with the deadline of the wait if that is how it ended. -/
  | ended (deadline : Option Nat)
  deriving Repr, DecidableEq

/-- Where the task of `begin_shutdown` stands. -/
inductive Worker where
  | none
  | spawned
  | reclaiming (reclaim : Reclaim)
  | finished
  | stored
  | exited
  deriving Repr, DecidableEq

structure Shell where
  clock : Nat
  /-- `SHUTDOWN_STARTED` and `SHUTDOWN_DONE`. -/
  started : Bool
  done : Bool
  loop : Loop
  worker : Worker
  /-- The request of `exit(0)` is in the loop's queue. -/
  posted : Bool
  -- No step reads what follows.
  /-- When the shutdown was begun, and the last event taken. -/
  startedAt : Nat
  exitAt : Nat
  /-- How often `reclaim_sessions` has been called. -/
  reclaims : Nat
  /-- The time that it took of its own, and its worker around it, and the loop in the last
      event. -/
  late : Nat
  loopLate : Nat
  /-- A request was not held back. -/
  released : Bool
  deriving Repr, DecidableEq

inductive Input where
  | tick
  /-- From the system or the user, or the request of `exit(0)`. -/
  | event (event : RunEvent)
  | posted
  | loop (answer : Answer)
  | worker (answer : Answer)
  /-- The worker's `reclaim_sessions` panics. -/
  | panics
  deriving Repr, DecidableEq

def Worker.isUnderWay : Worker → Bool
  | .none | .stored | .exited => false
  | _ => true

/-- The worker has something to do, or a wait of its is over. -/
def Worker.isBusy (clock : Nat) : Worker → Bool
  | .reclaiming reclaim => !reclaim.waits clock
  | worker => worker.isUnderWay

def Loop.isExiting : Loop → Bool
  | .idle | .held | .ended _ => false
  | _ => true

def Loop.isBusy (clock : Nat) : Loop → Bool
  | .sleeping _ wakeAt => wakeAt ≤ clock
  | .reclaiming reclaim => !reclaim.waits clock
  | loop => loop.isExiting

def Loop.isReclaiming : Loop → Bool
  | .reclaiming _ => true
  | _ => false

namespace Shell

variable (shell : Shell)

def initial (now : Nat) : Shell :=
  { clock := now, started := false, done := false, loop := .idle, worker := .none
    posted := false, startedAt := now, exitAt := now, reclaims := 0, late := 0, loopLate := 0
    released := false }

/-- A request to exit or to close is held back or let go. -/
def request : Shell :=
  if shell.done then { shell with released := true } else { shell with loop := .held }

def tick : Shell :=
  let own := shell.worker.isBusy shell.clock ||
    shell.loop.isReclaiming && shell.loop.isBusy shell.clock
  { shell with
    clock := shell.clock + 1
    late := if own then shell.late + 1 else shell.late
    loopLate := if shell.loop.isBusy shell.clock then shell.loopLate + 1 else shell.loopLate }

/-- The callback of `run`, which the loop calls with one event at a time. -/
def take : RunEvent → Shell
  | .exitRequested | .closeRequested => shell.request
  | .exit =>
      if shell.done then { shell with loop := .ended none, exitAt := shell.clock }
      else { shell with loop := .exiting, exitAt := shell.clock }
  | .other => shell

/-- The loop's next step in an event. -/
def goOn (answer : Answer) : Option Shell :=
  match shell.loop with
  | .held =>
      -- `begin_shutdown`.
      if shell.started then some { shell with loop := .idle }
      else
        some { shell with
          loop := .idle
          started := true
          worker := .spawned
          startedAt := shell.clock }
  | .exiting =>
      if shell.started then some { shell with loop := .behind }
      else
        some { shell with
          loop := .reclaiming .begun
          started := true
          startedAt := shell.clock
          reclaims := shell.reclaims + 1 }
  | .behind => some { shell with loop := .checking (shell.clock + exitWaitBudget) }
  | .checking deadline =>
      if shell.done then some { shell with loop := .ended none }
      else if shell.clock < deadline then
        some { shell with loop := .sleeping deadline (shell.clock + nap) }
      else some { shell with loop := .ended (some deadline) }
  | .sleeping deadline wakeAt =>
      if wakeAt ≤ shell.clock then some { shell with loop := .checking deadline } else none
  | .reclaiming reclaim =>
      if reclaim.isReturned then some { shell with loop := .ended none, done := true }
      else
        (reclaim.step shell.clock answer).map fun next =>
          { shell with loop := .reclaiming next }
  | .idle | .ended _ => none

/-- The next step of the worker, which asks for the exit in the end. -/
def work (answer : Answer) : Option Shell :=
  match shell.worker with
  | .spawned =>
      some { shell with worker := .reclaiming .begun, reclaims := shell.reclaims + 1 }
  | .reclaiming reclaim =>
      if reclaim.isReturned then some { shell with worker := .finished }
      else
        (reclaim.step shell.clock answer).map fun next =>
          { shell with worker := .reclaiming next }
  | .finished => some { shell with worker := .stored, done := true }
  | .stored => some { shell with worker := .exited, posted := true }
  | .none | .exited => none

def step : Input → Option Shell
  | .tick => if shell.loop matches .ended _ then none else some shell.tick
  | .event event => if shell.loop = .idle then some (shell.take event) else none
  | .posted =>
      if shell.loop = .idle ∧ shell.posted = true then
        some { shell.request with posted := false }
      else none
  | .loop answer => shell.goOn answer
  | .worker answer => if shell.loop matches .ended _ then none else shell.work answer
  | .panics =>
      match shell.loop, shell.worker with
      | .ended _, _ => none
      | _, .reclaiming _ => some { shell with worker := .finished }
      | _, _ => none

/-! ### What holds of it -/

/-- The two flags and the counts, where the worker stands. -/
def WorkerSound : Prop :=
  match shell.worker with
  | .none =>
      shell.posted = false ∧
        (shell.started = false ∧ shell.reclaims = 0 ∧ shell.done = false ∧
            shell.loop.isReclaiming = false ∨
          shell.started = true ∧ shell.reclaims = 1 ∧
            (shell.loop.isReclaiming = true ∧ shell.done = false ∨
              shell.loop = .ended none ∧ shell.done = true))
  | .spawned =>
      shell.started = true ∧ shell.reclaims = 0 ∧ shell.done = false ∧ shell.posted = false ∧
        shell.clock ≤ shell.startedAt + shell.late
  | .reclaiming reclaim =>
      shell.started = true ∧ shell.reclaims = 1 ∧ shell.done = false ∧ shell.posted = false ∧
        reclaim.Within (shell.startedAt + shell.late) shell.clock
  | .finished =>
      shell.started = true ∧ shell.reclaims = 1 ∧ shell.done = false ∧ shell.posted = false ∧
        shell.clock ≤ Reclaim.napsBy (shell.startedAt + shell.late)
  | .stored => shell.started = true ∧ shell.reclaims = 1 ∧ shell.done = true ∧ shell.posted = false
  | .exited => shell.started = true ∧ shell.reclaims = 1 ∧ shell.done = true

/-- How long the last event may take, but for the loop's own time. -/
def exitBy : Nat := shell.exitAt + shell.loopLate + (exitWaitBudget + nap - 1)

def LoopSound : Prop :=
  match shell.loop with
  | .idle | .held => True
  | .exiting => shell.clock ≤ shell.exitAt + shell.loopLate
  | .behind => shell.worker ≠ .none ∧ shell.clock ≤ shell.exitAt + shell.loopLate
  | .checking deadline =>
      shell.worker ≠ .none ∧ shell.startedAt + exitWaitBudget ≤ deadline ∧
        deadline ≤ shell.exitAt + shell.loopLate + exitWaitBudget ∧ shell.clock ≤ shell.exitBy
  | .sleeping deadline wakeAt =>
      shell.worker ≠ .none ∧ shell.startedAt + exitWaitBudget ≤ deadline ∧
        deadline ≤ shell.exitAt + shell.loopLate + exitWaitBudget ∧
        wakeAt ≤ shell.exitBy ∧ shell.clock ≤ shell.exitBy
  | .reclaiming reclaim =>
      shell.worker = .none ∧ reclaim.Within (shell.exitAt + shell.loopLate) shell.clock
  | .ended none => shell.done = true ∧ shell.clock ≤ shell.exitBy
  | .ended (some deadline) =>
      shell.worker ≠ .none ∧ shell.done = false ∧ shell.startedAt + exitWaitBudget ≤ deadline ∧
        deadline ≤ shell.clock ∧ shell.clock ≤ shell.exitBy

structure Sound : Prop where
  worker : shell.WorkerSound
  loop : shell.LoopSound
  begun : shell.startedAt ≤ shell.clock
  released : shell.released = true → shell.done = true

theorem sound_initial (now : Nat) : (initial now).Sound :=
  ⟨⟨rfl, .inl ⟨rfl, rfl, rfl, rfl⟩⟩, trivial, le_rfl, fun released => by cases released⟩

variable {shell}

theorem WorkerSound.tick (sound : shell.WorkerSound) : shell.tick.WorkerSound := by
  unfold WorkerSound at sound ⊢
  unfold Shell.tick
  cases standing : shell.worker with
  | none => simpa only [standing] using sound
  | spawned =>
      simp only [standing, Worker.isBusy, Worker.isUnderWay, Bool.true_or, if_true] at sound ⊢
      obtain ⟨started, unbegun, undone, unposted, inTime⟩ := sound
      exact ⟨started, unbegun, undone, unposted, Nat.succ_le_succ inTime⟩
  | reclaiming reclaim =>
      simp only [standing, Worker.isBusy] at sound ⊢
      obtain ⟨started, once, undone, unposted, within⟩ := sound
      refine ⟨started, once, undone, unposted, within.tick.more ?_⟩
      by_cases waiting : reclaim.waits shell.clock = true
      · simp only [waiting, if_true]
        split <;> omega
      · simp only [Bool.not_eq_true] at waiting
        simp only [waiting, Bool.false_eq_true, if_false, Bool.not_false, Bool.true_or, if_true]
        omega
  | finished =>
      simp only [standing, Worker.isBusy, Worker.isUnderWay, Bool.true_or, if_true] at sound ⊢
      obtain ⟨started, once, undone, unposted, inTime⟩ := sound
      refine ⟨started, once, undone, unposted, ?_⟩
      rw [← Nat.add_assoc, Reclaim.napsBy_succ]
      exact Nat.succ_le_succ inTime
  | stored | exited => simpa only [standing] using sound

/-- While the loop is in a wait of its, the time of the last event does not move, and while it
    is not, it moves with the clock. -/
theorem loopLate_tick (shell : Shell) :
    shell.tick.loopLate = shell.loopLate ∧ shell.loop.isBusy shell.clock = false ∨
      shell.tick.loopLate = shell.loopLate + 1 ∧ shell.loop.isBusy shell.clock = true := by
  unfold Shell.tick
  cases shell.loop.isBusy shell.clock <;> simp

theorem LoopSound.tick (sound : shell.LoopSound)
    (running : ∀ deadline, shell.loop ≠ .ended deadline) : shell.tick.LoopSound := by
  have late := loopLate_tick shell
  have clock : shell.tick.clock = shell.clock + 1 := rfl
  have exitAt : shell.tick.exitAt = shell.exitAt := rfl
  have startedAt : shell.tick.startedAt = shell.startedAt := rfl
  have worker : shell.tick.worker = shell.worker := rfl
  unfold LoopSound at sound ⊢
  unfold exitBy at sound ⊢
  rw [show shell.tick.loop = shell.loop from rfl]
  cases standing : shell.loop with
  | idle | held => trivial
  | exiting =>
      simp only [standing, Loop.isBusy, Loop.isExiting, reduceCtorEq, and_false, false_or,
        and_true] at sound late ⊢
      omega
  | behind =>
      simp only [standing, Loop.isBusy, Loop.isExiting, reduceCtorEq, and_false, false_or,
        and_true] at sound late ⊢
      exact ⟨sound.1, by omega⟩
  | checking deadline =>
      simp only [standing, Loop.isBusy, Loop.isExiting, reduceCtorEq, and_false, false_or,
        and_true] at sound late ⊢
      exact ⟨sound.1, by omega⟩
  | sleeping deadline wakeAt =>
      simp only [standing, Loop.isBusy, decide_eq_false_iff_not, decide_eq_true_eq] at sound late ⊢
      exact ⟨sound.1, by omega⟩
  | reclaiming reclaim =>
      simp only [standing, Loop.isBusy, Bool.not_eq_false', Bool.not_eq_true'] at sound late ⊢
      refine ⟨sound.1, sound.2.tick.more ?_⟩
      rcases late with ⟨same, waiting⟩ | ⟨more, awake⟩
      · simp only [waiting, if_true]
        omega
      · simp only [awake, Bool.false_eq_true, if_false]
        omega
  | ended deadline => exact absurd standing (running deadline)

theorem Sound.tick (sound : shell.Sound) (running : ∀ deadline, shell.loop ≠ .ended deadline) :
    shell.tick.Sound :=
  ⟨sound.worker.tick, sound.loop.tick running, Nat.le_succ_of_le sound.begun, sound.released⟩

/-- What the worker's standing says is of the loop only where there is no worker. -/
theorem WorkerSound.congr {next : Shell} (sound : shell.WorkerSound)
    (worker : next.worker = shell.worker) (posted : next.posted = shell.posted)
    (started : next.started = shell.started) (done : next.done = shell.done)
    (reclaims : next.reclaims = shell.reclaims) (clock : next.clock = shell.clock)
    (startedAt : next.startedAt = shell.startedAt) (late : next.late = shell.late)
    (loop : shell.worker = .none → shell.loop.isReclaiming = next.loop.isReclaiming ∧
      shell.loop ≠ .ended none) : next.WorkerSound := by
  unfold WorkerSound at sound ⊢
  rw [worker, posted, started, done, reclaims, clock, startedAt, late]
  cases standing : shell.worker with
  | none =>
      simp only [standing] at sound ⊢
      obtain ⟨same, elsewhere⟩ := loop standing
      refine ⟨sound.1, sound.2.imp (fun unbegun => ?_) fun begun => ⟨begun.1, begun.2.1, ?_⟩⟩
      · rwa [← same]
      · rw [← same]
        exact begun.2.2.imp_right fun ended => absurd ended.1 elsewhere
  | spawned | reclaiming | finished | stored | exited => simpa only [standing] using sound

/-- Between events, and in the last one before it reclaims, there is a worker once a
    shutdown has been begun. -/
theorem WorkerSound.worker_of_started (sound : shell.WorkerSound)
    (unreclaiming : shell.loop.isReclaiming = false) (running : shell.loop ≠ .ended none)
    (begun : shell.started = true ∨ shell.done = true) : shell.worker ≠ .none := by
  intro standing
  simp only [WorkerSound, standing, unreclaiming] at sound
  rcases sound.2 with ⟨unstarted, -, undone, -⟩ | ⟨-, -, ⟨reclaiming, -⟩ | ⟨ended, -⟩⟩
  · rcases begun with started | done
    · cases unstarted.symm.trans started
    · cases undone.symm.trans done
  · cases reclaiming
  · exact running ended

theorem WorkerSound.absent_of_unstarted (sound : shell.WorkerSound)
    (unstarted : ¬ shell.started = true) : shell.worker = .none := by
  unfold WorkerSound at sound
  cases standing : shell.worker with
  | none => rfl
  | spawned | reclaiming | finished | stored | exited =>
      simp only [standing] at sound
      exact absurd sound.1 unstarted

theorem WorkerSound.of_unstarted (sound : shell.WorkerSound) (unstarted : ¬ shell.started = true) :
    shell.reclaims = 0 ∧ shell.done = false ∧ shell.posted = false := by
  have absent := sound.absent_of_unstarted unstarted
  simp only [WorkerSound, absent] at sound
  rcases sound.2 with ⟨-, unbegun, undone, -⟩ | ⟨started, -⟩
  · exact ⟨unbegun, undone, sound.1⟩
  · exact absurd started unstarted

theorem WorkerSound.of_reclaiming {reclaim : Reclaim} (sound : shell.WorkerSound)
    (standing : shell.loop = .reclaiming reclaim) (absent : shell.worker = .none) :
    shell.posted = false ∧ shell.started = true ∧ shell.reclaims = 1 ∧ shell.done = false := by
  simp only [WorkerSound, absent, standing, Loop.isReclaiming] at sound
  obtain ⟨unposted, ⟨-, -, -, reclaiming⟩ | ⟨started, once, ⟨-, undone⟩ | ⟨ended, -⟩⟩⟩ := sound
  · cases reclaiming
  · exact ⟨unposted, started, once, undone⟩
  · cases ended

/-- The loop takes an event. -/
theorem Sound.take (sound : shell.Sound) (idle : shell.loop = .idle) (event : RunEvent) :
    (shell.take event).Sound := by
  have apart : shell.loop ≠ .ended none := by rw [idle]; exact Loop.noConfusion
  have unreclaiming : shell.loop.isReclaiming = false := by rw [idle]; rfl
  obtain ⟨worker, loop, begun, released⟩ := sound
  have held : shell.request.Sound := by
    unfold request
    split
    case isTrue done =>
      refine ⟨worker.congr rfl rfl rfl rfl rfl rfl rfl rfl fun _ => ⟨rfl, apart⟩, loop, begun, ?_⟩
      exact fun _ => done
    case isFalse =>
      refine ⟨?_, trivial, begun, released⟩
      exact worker.congr rfl rfl rfl rfl rfl rfl rfl rfl fun _ => ⟨unreclaiming, apart⟩
  unfold Shell.take
  split
  · exact held
  · exact held
  · split
    case isTrue done =>
      have some := worker.worker_of_started unreclaiming apart (.inr done)
      refine ⟨?_, ⟨done, ?_⟩, begun, released⟩
      · exact worker.congr rfl rfl rfl rfl rfl rfl rfl rfl fun absent => absurd absent some
      · unfold exitBy
        dsimp only
        omega
    case isFalse =>
      refine ⟨?_, Nat.le_add_right .., begun, released⟩
      exact worker.congr rfl rfl rfl rfl rfl rfl rfl rfl fun _ => ⟨unreclaiming, apart⟩
  · exact ⟨worker, loop, begun, released⟩

theorem WorkerSound.done_of_posted (sound : shell.WorkerSound) (posted : shell.posted = true) :
    shell.worker = .exited ∧ shell.done = true := by
  unfold WorkerSound at sound
  cases standing : shell.worker with
  | exited =>
      simp only [standing] at sound
      exact ⟨rfl, sound.2.2⟩
  | none | spawned | reclaiming | finished | stored =>
      simp [standing, posted] at sound

/-- The request that the worker posts is let go. -/
theorem Sound.posted (sound : shell.Sound) (posted : shell.posted = true) :
    ({ shell.request with posted := false } : Shell).Sound := by
  obtain ⟨worker, loop, begun, released⟩ := sound
  obtain ⟨exited, done⟩ := worker.done_of_posted posted
  simp only [WorkerSound, exited] at worker
  rw [request, if_pos done]
  refine ⟨?_, loop, begun, fun _ => done⟩
  simp only [WorkerSound, exited]
  exact worker

theorem Sound.goOn {next : Shell} {answer : Answer} (sound : shell.Sound)
    (stepped : shell.goOn answer = some next) : next.Sound := by
  obtain ⟨worker, loop, begun, released⟩ := sound
  unfold Shell.goOn at stepped
  cases standing : shell.loop with
  | idle | ended => simp only [standing, reduceCtorEq] at stepped
  | held =>
      have apart : shell.loop ≠ .ended none := by rw [standing]; exact Loop.noConfusion
      have unreclaiming : shell.loop.isReclaiming = false := by rw [standing]; rfl
      simp only [standing] at stepped
      split at stepped
      case isTrue started =>
        cases stepped
        refine ⟨?_, trivial, begun, released⟩
        exact worker.congr rfl rfl rfl rfl rfl rfl rfl rfl fun _ => ⟨unreclaiming, apart⟩
      case isFalse unstarted =>
        cases stepped
        obtain ⟨unbegun, undone, unposted⟩ := worker.of_unstarted unstarted
        refine ⟨?_, trivial, le_rfl, released⟩
        exact ⟨rfl, unbegun, undone, unposted, Nat.le_add_right ..⟩
  | exiting =>
      have apart : shell.loop ≠ .ended none := by rw [standing]; exact Loop.noConfusion
      have unreclaiming : shell.loop.isReclaiming = false := by rw [standing]; rfl
      simp only [LoopSound, standing] at loop
      simp only [standing] at stepped
      split at stepped
      case isTrue started =>
        cases stepped
        have some := worker.worker_of_started unreclaiming apart (.inl started)
        refine ⟨?_, ⟨some, loop⟩, begun, released⟩
        exact worker.congr rfl rfl rfl rfl rfl rfl rfl rfl fun absent => absurd absent some
      case isFalse unstarted =>
        cases stepped
        obtain ⟨unbegun, undone, unposted⟩ := worker.of_unstarted unstarted
        have absent := worker.absent_of_unstarted unstarted
        refine ⟨?_, ⟨absent, loop⟩, le_rfl, released⟩
        simp only [WorkerSound, absent]
        exact ⟨unposted, .inr ⟨trivial, by rw [unbegun], .inl ⟨rfl, undone⟩⟩⟩
  | behind =>
      simp only [standing] at stepped
      cases stepped
      simp only [LoopSound, standing] at loop
      refine ⟨?_, ⟨loop.1, ?_, ?_, ?_⟩, begun, released⟩
      · exact worker.congr rfl rfl rfl rfl rfl rfl rfl rfl fun absent => absurd absent loop.1
      · exact Nat.add_le_add_right begun _
      · exact Nat.add_le_add_right loop.2 _
      · exact loop.2.trans (Nat.le_add_right ..)
  | checking deadline =>
      simp only [LoopSound, standing] at loop
      obtain ⟨some, after, before, inTime⟩ := loop
      simp only [standing] at stepped
      split at stepped
      case isTrue done =>
        cases stepped
        refine ⟨?_, ⟨done, inTime⟩, begun, released⟩
        exact worker.congr rfl rfl rfl rfl rfl rfl rfl rfl fun absent => absurd absent some
      case isFalse undone =>
        split at stepped
        case isTrue early =>
          cases stepped
          refine ⟨?_, ⟨some, after, before, ?_, inTime⟩, begun, released⟩
          · exact worker.congr rfl rfl rfl rfl rfl rfl rfl rfl fun absent => absurd absent some
          · unfold exitBy
            dsimp only
            unfold nap
            omega
        case isFalse expired =>
          cases stepped
          refine ⟨?_, ⟨some, by simpa using undone, after, Nat.le_of_not_lt expired, inTime⟩,
            begun, released⟩
          exact worker.congr rfl rfl rfl rfl rfl rfl rfl rfl fun absent => absurd absent some
  | sleeping deadline wakeAt =>
      simp only [LoopSound, standing] at loop
      obtain ⟨some, after, before, wakes, inTime⟩ := loop
      simp only [standing] at stepped
      split at stepped <;> cases stepped
      refine ⟨?_, ⟨some, after, before, inTime⟩, begun, released⟩
      exact worker.congr rfl rfl rfl rfl rfl rfl rfl rfl fun absent => absurd absent some
  | reclaiming reclaim =>
      simp only [LoopSound, standing] at loop
      obtain ⟨absent, within⟩ := loop
      obtain ⟨unposted, started, once, undone⟩ := worker.of_reclaiming standing absent
      simp only [standing] at stepped
      split at stepped
      · cases stepped
        refine ⟨?_, ⟨rfl, within.clock_le.trans (Nat.add_le_add_left (by decide) _)⟩, begun,
          fun _ => rfl⟩
        simp only [WorkerSound, absent]
        exact ⟨unposted, .inr ⟨started, once, .inr ⟨trivial, trivial⟩⟩⟩
      · obtain ⟨moved, moves, rfl⟩ := Option.map_eq_some_iff.mp stepped
        refine ⟨?_, ⟨absent, within.step moves⟩, begun, released⟩
        simp only [WorkerSound, absent]
        exact ⟨unposted, .inr ⟨started, once, .inl ⟨rfl, undone⟩⟩⟩

/-- What the worker does is of no matter to the loop, as long as there is one. -/
theorem LoopSound.congr {next : Shell} (sound : shell.LoopSound)
    (running : ∀ deadline, shell.loop ≠ .ended deadline) (some : shell.worker ≠ .none)
    (worker : next.worker ≠ .none) (loop : next.loop = shell.loop)
    (clock : next.clock = shell.clock) (startedAt : next.startedAt = shell.startedAt)
    (exitAt : next.exitAt = shell.exitAt) (late : next.loopLate = shell.loopLate) :
    next.LoopSound := by
  unfold LoopSound exitBy at sound ⊢
  rw [loop, clock, startedAt, exitAt, late]
  cases standing : shell.loop with
  | idle | held => trivial
  | exiting => simpa only [standing] using sound
  | behind | checking | sleeping =>
      simp only [standing] at sound
      exact ⟨worker, sound.2⟩
  | reclaiming =>
      simp only [standing] at sound
      exact absurd sound.1 some
  | ended deadline => exact absurd standing (running deadline)

theorem Sound.work {next : Shell} {answer : Answer} (sound : shell.Sound)
    (running : ∀ deadline, shell.loop ≠ .ended deadline) (stepped : shell.work answer = some next) :
    next.Sound := by
  obtain ⟨worker, loop, begun, released⟩ := sound
  unfold Shell.work at stepped
  simp only [WorkerSound] at worker
  cases standing : shell.worker with
  | none | exited => simp only [standing, reduceCtorEq] at stepped
  | spawned =>
      simp only [standing] at stepped worker
      cases stepped
      obtain ⟨started, unbegun, undone, unposted, inTime⟩ := worker
      refine ⟨⟨started, by rw [unbegun], undone, unposted, inTime⟩, ?_, begun, released⟩
      exact loop.congr running (by simp [standing]) (by simp) rfl rfl rfl rfl rfl
  | reclaiming reclaim =>
      simp only [standing] at stepped worker
      obtain ⟨started, once, undone, unposted, within⟩ := worker
      split at stepped
      · cases stepped
        refine ⟨⟨started, once, undone, unposted, within.clock_le⟩, ?_, begun, released⟩
        exact loop.congr running (by simp [standing]) (by simp) rfl rfl rfl rfl rfl
      · obtain ⟨moved, moves, rfl⟩ := Option.map_eq_some_iff.mp stepped
        refine ⟨⟨started, once, undone, unposted, within.step moves⟩, ?_, begun, released⟩
        exact loop.congr running (by simp [standing]) (by simp) rfl rfl rfl rfl rfl
  | finished =>
      simp only [standing] at stepped worker
      cases stepped
      refine ⟨⟨worker.1, worker.2.1, rfl, worker.2.2.2.1⟩, ?_, begun, fun _ => rfl⟩
      exact loop.congr running (by simp [standing]) (by simp) rfl rfl rfl rfl rfl
  | stored =>
      simp only [standing] at stepped worker
      cases stepped
      refine ⟨⟨worker.1, worker.2.1, worker.2.2.1⟩, ?_, begun, released⟩
      exact loop.congr running (by simp [standing]) (by simp) rfl rfl rfl rfl rfl

theorem Sound.panics {reclaim : Reclaim} (sound : shell.Sound)
    (running : ∀ deadline, shell.loop ≠ .ended deadline)
    (standing : shell.worker = .reclaiming reclaim) :
    ({ shell with worker := .finished } : Shell).Sound := by
  obtain ⟨worker, loop, begun, released⟩ := sound
  simp only [WorkerSound, standing] at worker
  obtain ⟨started, once, undone, unposted, within⟩ := worker
  refine ⟨⟨started, once, undone, unposted, within.clock_le⟩, ?_, begun, released⟩
  exact loop.congr running (by simp [standing]) (by simp) rfl rfl rfl rfl rfl

/-- The process is gone once its loop is over. -/
theorem step_of_ended {deadline : Option Nat} (ended : shell.loop = .ended deadline) (input : Input) :
    shell.step input = none := by
  cases input <;> simp [Shell.step, goOn, ended]

theorem Sound.step {next : Shell} {input : Input} (sound : shell.Sound)
    (stepped : shell.step input = some next) : next.Sound := by
  have running : ∀ deadline, shell.loop ≠ .ended deadline := by
    intro deadline ended
    rw [step_of_ended ended] at stepped
    cases stepped
  cases input with
  | loop answer => exact sound.goOn stepped
  | tick =>
      simp only [Shell.step] at stepped
      split at stepped <;> cases stepped
      exact sound.tick running
  | event event =>
      simp only [Shell.step] at stepped
      split at stepped <;> cases stepped
      exact sound.take ‹_› event
  | posted =>
      simp only [Shell.step] at stepped
      split at stepped <;> cases stepped
      exact sound.posted (And.right ‹_›)
  | worker answer =>
      simp only [Shell.step] at stepped
      split at stepped
      · cases stepped
      · exact sound.work running stepped
  | panics =>
      simp only [Shell.step] at stepped
      split at stepped <;> cases stepped
      exact sound.panics running ‹_›

theorem Sound.run {now : Nat} {inputs : List Input} {final : Shell}
    (ran : Machine.run Shell.step (initial now) inputs = some final) : final.Sound :=
  Machine.run_preserves (fun _ _ _ sound stepped => sound.step stepped) (sound_initial now) ran

/-! ### Exits -/

/-- What the worker has still to do. -/
theorem WorkerSound.of_undone (sound : shell.WorkerSound) (some : shell.worker ≠ .none)
    (undone : shell.done = false) :
    shell.worker.isUnderWay = true ∧
      shell.clock ≤ Reclaim.napsBy (shell.startedAt + shell.late) := by
  have later : shell.startedAt + shell.late ≤ Reclaim.napsBy (shell.startedAt + shell.late) :=
    Nat.le_add_right ..
  unfold WorkerSound at sound
  cases standing : shell.worker with
  | none => exact absurd standing some
  | spawned =>
      simp only [standing] at sound
      exact ⟨rfl, sound.2.2.2.2.trans later⟩
  | reclaiming reclaim =>
      simp only [standing] at sound
      exact ⟨rfl, sound.2.2.2.2.clock_le⟩
  | finished =>
      simp only [standing] at sound
      exact ⟨rfl, sound.2.2.2.2⟩
  | stored | exited => simp [standing, undone] at sound

theorem Sound.of_ended {deadline : Option Nat} (sound : shell.Sound)
    (ended : shell.loop = .ended deadline) :
    shell.clock ≤ shell.exitBy ∧ (shell.done = true ∨ deadline ≠ none ∧
      shell.worker ≠ .none ∧ shell.done = false ∧ shell.startedAt + exitWaitBudget ≤ shell.clock) := by
  have loop := sound.loop
  cases deadline with
  | none =>
      simp only [LoopSound, ended] at loop
      exact ⟨loop.2, .inl loop.1⟩
  | some deadline =>
      simp only [LoopSound, ended] at loop
      obtain ⟨some, undone, after, passed, inTime⟩ := loop
      exact ⟨inTime, .inr ⟨Option.some_ne_none _, some, undone, after.trans passed⟩⟩

/-- The worker has asked for the exit in the end. -/
def Asked (shell : Shell) : Prop :=
  shell.worker = .exited → shell.posted = true ∨ shell.released = true

theorem Asked.request (asked : shell.Asked) : shell.request.Asked := by
  unfold Shell.request
  split
  · exact fun _ => .inr rfl
  · exact asked

theorem Asked.goOn {next : Shell} {answer : Answer} (asked : shell.Asked)
    (stepped : shell.goOn answer = some next) : next.Asked := by
  unfold Shell.goOn at stepped
  cases standing : shell.loop with
  | idle | ended => simp only [standing, reduceCtorEq] at stepped
  | held =>
      simp only [standing] at stepped
      split at stepped <;> cases stepped
      · exact asked
      · exact nofun
  | exiting =>
      simp only [standing] at stepped
      split at stepped <;> cases stepped <;> exact asked
  | behind =>
      simp only [standing] at stepped
      cases stepped
      exact asked
  | checking deadline =>
      simp only [standing] at stepped
      split at stepped
      · cases stepped
        exact asked
      · split at stepped <;> cases stepped <;> exact asked
  | sleeping deadline wakeAt =>
      simp only [standing] at stepped
      split at stepped <;> cases stepped
      exact asked
  | reclaiming reclaim =>
      simp only [standing] at stepped
      split at stepped
      · cases stepped
        exact asked
      · obtain ⟨moved, -, rfl⟩ := Option.map_eq_some_iff.mp stepped
        exact asked

theorem Asked.work {next : Shell} {answer : Answer} (stepped : shell.work answer = some next) :
    next.Asked := by
  unfold Shell.work at stepped
  cases standing : shell.worker with
  | none | exited => simp only [standing, reduceCtorEq] at stepped
  | spawned | finished =>
      simp only [standing] at stepped
      cases stepped
      exact nofun
  | stored =>
      simp only [standing] at stepped
      cases stepped
      exact fun _ => .inl rfl
  | reclaiming reclaim =>
      simp only [standing] at stepped
      split at stepped
      · cases stepped
        exact nofun
      · obtain ⟨moved, -, rfl⟩ := Option.map_eq_some_iff.mp stepped
        exact nofun

theorem Asked.step {next : Shell} {input : Input} (sound : shell.Sound) (asked : shell.Asked)
    (stepped : shell.step input = some next) : next.Asked := by
  cases input with
  | loop answer => exact asked.goOn stepped
  | tick =>
      simp only [Shell.step] at stepped
      split at stepped <;> cases stepped
      exact asked
  | event event =>
      simp only [Shell.step] at stepped
      split at stepped <;> cases stepped
      unfold Shell.take
      split
      · exact asked.request
      · exact asked.request
      · split <;> exact asked
      · exact asked
  | posted =>
      simp only [Shell.step] at stepped
      split at stepped <;> cases stepped
      have done := (sound.worker.done_of_posted (And.right ‹_›)).2
      rw [Shell.request, if_pos done]
      exact fun _ => .inr rfl
  | worker answer =>
      simp only [Shell.step] at stepped
      split at stepped
      · cases stepped
      · exact Asked.work stepped
  | panics =>
      simp only [Shell.step] at stepped
      split at stepped <;> cases stepped
      exact nofun

theorem LoopSound.clock_le (sound : shell.LoopSound) (exiting : shell.loop.isExiting = true) :
    shell.clock ≤ shell.exitBy := by
  have later : shell.exitAt + shell.loopLate ≤ shell.exitBy := Nat.le_add_right ..
  unfold LoopSound at sound
  cases standing : shell.loop with
  | idle | held | ended => simp [standing, Loop.isExiting] at exiting
  | exiting =>
      simp only [standing] at sound
      exact sound.trans later
  | behind =>
      simp only [standing] at sound
      exact sound.2.trans later
  | checking =>
      simp only [standing] at sound
      exact sound.2.2.2
  | sleeping =>
      simp only [standing] at sound
      exact sound.2.2.2.2
  | reclaiming =>
      simp only [standing] at sound
      exact sound.2.clock_le.trans (Nat.add_le_add_left (by decide) _)

/-- A loop that is not in a wait has a next step in the last event. -/
theorem goOn_of_busy (exiting : shell.loop.isExiting = true)
    (busy : shell.loop.isBusy shell.clock = true) :
    ∃ answer next, shell.goOn answer = some next := by
  unfold goOn
  cases standing : shell.loop with
  | idle | held | ended => simp [standing, Loop.isExiting] at exiting
  | exiting =>
      refine ⟨.go, ?_⟩
      by_cases started : shell.started = true <;> simp [started]
  | behind => exact ⟨.go, _, rfl⟩
  | checking deadline =>
      refine ⟨.go, ?_⟩
      by_cases done : shell.done = true
      · simp [done]
      · by_cases early : shell.clock < deadline <;> simp [done, early]
  | sleeping deadline wakeAt =>
      simp only [standing, Loop.isBusy, decide_eq_true_eq] at busy
      exact ⟨.go, _, if_pos busy⟩
  | reclaiming reclaim =>
      simp only [standing, Loop.isBusy, Bool.not_eq_true'] at busy
      cases returned : reclaim.isReturned with
      | true => exact ⟨.go, _, by simp only [returned, if_true]; rfl⟩
      | false =>
          obtain ⟨answer, next, stepped⟩ := Reclaim.step_of_not_waits busy returned
          exact ⟨answer, _, by simp only [returned, Bool.false_eq_true, if_false, stepped]; rfl⟩

/-- The last event is over in its budget and a nap, but for the loop's own time, and it is stuck
    nowhere. If it ends with the sessions not reclaimed, then the worker had two seconds of its
    own, less a nap: the budgets of the waits fit in that of the last event. -/
theorem shutdown_inTime {now : Nat} {inputs : List Input} {final : Shell}
    (ran : Machine.run Shell.step (initial now) inputs = some final) :
    (final.loop.isExiting = true ∨ (∃ deadline, final.loop = .ended deadline) →
      final.clock ≤ final.exitAt + final.loopLate + (exitWaitBudget + nap - 1)) ∧
      (final.loop.isExiting = true → final.loop.isBusy final.clock = true →
        ∃ answer next, final.step (.loop answer) = some next) ∧
      ((∃ deadline, final.loop = .ended deadline) → final.done = false →
        exitWaitBudget ≤ final.late + (pairingShutdownDeadline + nap - 1)) := by
  have sound := Sound.run ran
  refine ⟨?_, goOn_of_busy, ?_⟩
  · rintro (exiting | ⟨deadline, ended⟩)
    · exact sound.loop.clock_le exiting
    · exact (sound.of_ended ended).1
  · rintro ⟨deadline, ended⟩ undone
    rcases (sound.of_ended ended).2 with done | ⟨-, some, -, passed⟩
    · cases undone.symm.trans done
    · have inTime := (sound.worker.of_undone some undone).2
      unfold Reclaim.napsBy at inTime
      omega

/-- A window that is closed twice, with one session, which stops, and the exit after that. -/
def closeWindow : List Input :=
  [.event .closeRequested, .loop .go, .worker .go, .event .closeRequested, .loop .go,
    .worker .go, .worker (.handles [1] none), .tick, .worker .go, .worker .go, .worker .go,
    .worker .go, .worker .go, .worker .received, .worker .go, .worker .go, .worker .go,
    .worker .go, .worker .go, .worker .go, .worker (.active false), .worker .go, .worker .go,
    .worker .go, .posted, .event .exit]

def windowClosed : Shell :=
  { clock := 4, started := true, done := true, loop := .ended none, worker := .exited
    posted := false, startedAt := 3, exitAt := 4, reclaims := 1, late := 1, loopLate := 0
    released := true }

theorem run_closeWindow : Machine.run Shell.step (initial 3) closeWindow = some windowClosed := by
  decide +kernel

theorem shutdown_inTime_closeWindow :
    Machine.run Shell.step (initial 3) closeWindow = some windowClosed ∧
      windowClosed.clock ≤
        windowClosed.exitAt + windowClosed.loopLate + (exitWaitBudget + nap - 1) :=
  ⟨run_closeWindow, (shutdown_inTime run_closeWindow).1 (.inr ⟨none, rfl⟩)⟩

end Shell

end QuadControl.Gui.Shutdown
