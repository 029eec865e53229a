import QuadControl.Lib.Reports
import QuadControl.Lib.Text

/-! # The supervisor of an Android session

The supervising thread owns the one process of the session. It looks for a stop and for
the end of the process in turn; a stop runs the termination ladder, which may fail. The
process exits when it likes, and callers stop the session as often as they like.
-/

namespace QuadControl.Android.Supervise

open Lib

/-- `SessionStatus`. -/
inductive Status where
  | running
  | stopping
  | exited (code : Int) (stderrTail : Text)
  | failed (message : Text)
  deriving Repr, DecidableEq

def Status.isTerminal : Status → Bool
  | running | stopping => false
  | exited _ _ | failed _ => true

def notReaped : Text := "stopped session was not reaped".toList

/-- Where the supervisor stands. -/
inductive Point where
  | polling
  | waiting
  /-- `Session::stop`. -/
  | stopping
  /-- `try_wait` behind it. -/
  | reaping
  | reporting (result : Except Text Int)
  | sending
  | finished
  deriving DecidableEq

structure Supervisor where
  point : Point
  report : Report Status
  stops : Nat
  /-- The code the process exited with. -/
  exited : Option Int

namespace Supervisor

/-- What `spawn_supervised` leaves. -/
def initial : Supervisor where
  point := .polling
  report := ⟨.running, [.running], 0⟩
  stops := 0
  exited := none

/-- What a step of the supervisor finds: an error's text, or the tail. -/
inductive Choice where
  | go
  | error (message : Text)
  | tail (stderrTail : Text)
  deriving Repr, DecidableEq

inductive Input where
  | go (choice : Choice)
  | requestStop
  | exits (code : Int)
  deriving Repr, DecidableEq

variable (supervisor : Supervisor)

def goto (point : Point) : Supervisor := { supervisor with point }

def setStatus (status : Status) : Supervisor :=
  { supervisor with report := supervisor.report.write status }

/-- `supervise`. -/
def supervise (choice : Choice) : Option Supervisor :=
  match supervisor.point, choice with
  | .polling, .go =>
      some (match supervisor.stops with
        | 0 => supervisor.goto .waiting
        | stops + 1 => { (supervisor.setStatus .stopping).goto .stopping with stops })
  | .waiting, .go =>
      some (supervisor.goto
        (match supervisor.exited with
        | some code => .reporting (.ok code)
        | none => .polling))
  | .waiting, .error message | .stopping, .error message | .reaping, .error message =>
      some (supervisor.goto (.reporting (.error message)))
  | .stopping, .go => some (supervisor.goto .reaping)
  | .reaping, .go =>
      some (supervisor.goto (.reporting
        (match supervisor.exited with
        | some code => .ok code
        | none => .error notReaped)))
  | .reporting (.ok code), .tail stderrTail =>
      some ((supervisor.setStatus (.exited code stderrTail)).goto .sending)
  | .reporting (.error message), .go =>
      some ((supervisor.setStatus (.failed message)).goto .sending)
  | .sending, .go =>
      some { supervisor.goto .finished with report := supervisor.report.send 1 }
  | _, _ => none

def step : Input → Option Supervisor
  | .go choice => supervisor.supervise choice
  | .requestStop => some { supervisor with stops := supervisor.stops + 1 }
  | .exits code =>
      match supervisor.exited with
      | none => some { supervisor with exited := some code }
      | some _ => none

end Supervisor

/-! ### The statuses -/

/-- What a session writes from its start to its end. -/
def word (stopped : Bool) (last : Status) : List Status :=
  .running :: ((if stopped then [.stopping] else []) ++ [last])

def IsWord (statuses : List Status) : Prop :=
  ∃ stopped last, last.isTerminal = true ∧ statuses = word stopped last

/-- What is written by when the supervisor stands somewhere. -/
inductive Written : Point → Report Status → Prop
  | polling : Written .polling ⟨.running, [.running], 0⟩
  | waiting : Written .waiting ⟨.running, [.running], 0⟩
  | stopping : Written .stopping ⟨.stopping, [.running, .stopping], 0⟩
  | reaping : Written .reaping ⟨.stopping, [.running, .stopping], 0⟩
  | exited (result : Except Text Int) : Written (.reporting result) ⟨.running, [.running], 0⟩
  | stopped (result : Except Text Int) :
      Written (.reporting result) ⟨.stopping, [.running, .stopping], 0⟩
  | sending (stopped : Bool) (last : Status) (terminal : last.isTerminal = true) :
      Written .sending ⟨last, word stopped last, 0⟩
  | finished (stopped : Bool) (last : Status) (terminal : last.isTerminal = true) :
      Written .finished ⟨last, word stopped last, 1⟩

variable {supervisor next : Supervisor}

/-- The invariant of a run. -/
def Sound (supervisor : Supervisor) : Prop := Written supervisor.point supervisor.report

/-- The last status makes what was written a word. -/
theorem Written.last {result : Except Text Int} {report : Report Status} {last : Status}
    (written : Written (.reporting result) report) (terminal : last.isTerminal = true) :
    Written .sending (report.write last) := by
  cases written with
  | exited => exact .sending false last terminal
  | stopped => exact .sending true last terminal

theorem sound_of_supervise {choice : Supervisor.Choice} (sound : Sound supervisor)
    (stepped : supervisor.supervise choice = some next) : Sound next := by
  obtain ⟨point, report, stops, exited⟩ := supervisor
  unfold Sound at sound
  unfold Supervisor.supervise at stepped
  split at stepped <;> cases stepped
  -- a stop is looked for, then the end of the process
  case h_1.refl =>
      rename_i here
      cases here
      cases sound
      cases stops with
      | zero => exact .waiting
      | succ stops => exact .stopping
  case h_2.refl =>
      rename_i here
      cases here
      cases sound
      cases exited with
      | none => exact .polling
      | some code => exact .exited _
  case h_3.refl =>
      rename_i here
      cases here
      cases sound
      exact .exited _
  -- behind a stop
  case h_4.refl | h_5.refl | h_7.refl =>
      rename_i here
      cases here
      cases sound
      exact .stopped _
  case h_6.refl =>
      rename_i here
      cases here
      cases sound
      exact .reaping
  -- the end
  case h_8.refl | h_9.refl =>
      rename_i here
      cases here
      exact Written.last sound rfl
  case h_10.refl =>
      rename_i here
      cases here
      cases sound with
      | sending stopped last terminal => exact .finished stopped last terminal

theorem sound_of_step (supervisor : Supervisor) (input : Supervisor.Input) (next : Supervisor)
    (sound : Sound supervisor) (stepped : supervisor.step input = some next) : Sound next := by
  cases input with
  | go choice => exact sound_of_supervise sound stepped
  | requestStop =>
      obtain rfl := Option.some.inj stepped
      exact sound
  | exits code =>
      simp only [Supervisor.step] at stepped
      split at stepped
      · obtain rfl := Option.some.inj stepped
        exact sound
      · cases stepped

/-! ### The report -/

def Supervisor.Input.isOwn : Supervisor.Input → Bool
  | go _ => true
  | requestStop | exits _ => false

/-- The supervising thread, and what its handles see. -/
def worker : Worker Supervisor Supervisor.Input Status where
  step := Supervisor.step
  own := Supervisor.Input.isOwn
  report := Supervisor.report

theorem Written.obeys {point : Point} {report : Report Status} (written : Written point report) :
    report.Obeys IsWord (·.isTerminal = true) := by
  have whole : ∀ stopped, IsWord (word stopped (.failed [])) := fun stopped =>
    ⟨stopped, .failed [], rfl, rfl⟩
  cases written with
  | polling | waiting | exited =>
      exact ⟨⟨_, whole false, [.failed []], rfl⟩, by simp, by simp, nofun⟩
  | stopping | reaping | stopped =>
      exact ⟨⟨_, whole true, [.failed []], rfl⟩, by simp, by simp, nofun⟩
  | sending stopped last terminal =>
      refine ⟨⟨_, ⟨stopped, last, terminal, rfl⟩, List.prefix_rfl⟩, ?_, by simp, nofun⟩
      simp [word, List.getLast?_cons]
  | finished stopped last terminal =>
      have ends : IsWord (word stopped last) := ⟨stopped, last, terminal, rfl⟩
      refine ⟨⟨_, ends, List.prefix_rfl⟩, ?_, le_rfl, fun _ => ⟨ends, terminal⟩⟩
      simp [word, List.getLast?_cons]

/-- A terminal status is written where the message is sent, or behind it. -/
theorem Written.settled {point : Point} {report : Report Status} (written : Written point report)
    (terminal : report.status.isTerminal = true) :
    point = .sending ∧ report.done = 0 ∨ point = .finished ∧ report.done = 1 := by
  cases written with
  | sending => exact .inl ⟨rfl, rfl⟩
  | finished => exact .inr ⟨rfl, rfl⟩
  | polling | waiting | exited | stopping | reaping | stopped => cases terminal

/-- The steps that are left then. -/
theorem step_of_settled {input : Supervisor.Input}
    (settled : supervisor.point = .sending ∨ supervisor.point = .finished)
    (stepped : supervisor.step input = some next) :
    next.report = supervisor.report.send (if input.isOwn then 1 else 0) := by
  cases input with
  | go choice =>
      rcases settled with here | here
      · cases choice <;> simp [Supervisor.step, Supervisor.supervise, here] at stepped
        simp [← stepped, Supervisor.Input.isOwn, Supervisor.goto]
      · simp [Supervisor.step, Supervisor.supervise, here] at stepped
  | requestStop =>
      obtain rfl := Option.some.inj stepped
      rfl
  | exits code =>
      simp only [Supervisor.step] at stepped
      split at stepped
      · obtain rfl := Option.some.inj stepped
        rfl
      · cases stepped

theorem Sound.settles (sound : Sound supervisor) :
    worker.Settles (·.isTerminal = true) supervisor := by
  constructor
  · intro terminal none
    have here : supervisor.point = .sending := by
      rcases Written.settled sound terminal with ⟨here, -⟩ | ⟨-, sent⟩
      · exact here
      · cases none.symm.trans sent
    refine ⟨.go .go, { supervisor.goto .finished with report := supervisor.report.send 1 }, rfl, ?_⟩
    simp [worker, Supervisor.step, Supervisor.supervise, here]
  · intro input next terminal stepped
    exact step_of_settled ((Written.settled sound terminal).imp And.left And.left) stepped

theorem reports : worker.Reports IsWord (·.isTerminal = true) .initial := by
  have obeys : ∀ supervisor, Sound supervisor →
      (worker.report supervisor).Obeys IsWord (·.isTerminal = true) :=
    fun _ sound => Written.obeys sound
  exact Worker.reports_of_invariant sound_of_step obeys (fun _ => Sound.settles) Written.polling

end QuadControl.Android.Supervise
