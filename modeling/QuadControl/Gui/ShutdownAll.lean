import QuadControl.Ios.SupervisorReports
import QuadControl.Lib.Collect

/-! # Shutting down all sessions

`shutdown_all`, once for each system, asks the supervisors of all handles to stop and waits
for their messages with one deadline. The receiver stays with the handle, so that a later
call finds the message gone, and reports the session as one that did not stop in time.
-/

namespace QuadControl

open Lib Collect Machine

/-- Android's `shutdown_all` calls `SessionHandle::request_stop`. -/
def Android.Supervise.stoppable :
    Stoppable Android.Supervise.Supervisor Android.Supervise.Supervisor.Input
      Android.Supervise.Status :=
  { Android.Supervise.worker with stop := .requestStop }

/-- And iOS's calls `IosSessionHandle::request_stop`. -/
def Ios.Supervisor.Session.stoppable (options : Ios.Supervisor.Options) :
    Stoppable Ios.Supervisor.Session Ios.Supervisor.Session.Input Ios.Supervisor.Status :=
  { Ios.Supervisor.Session.worker options with stop := .requestStop }

namespace Gui.ShutdownAll

variable {κ : Type}

/-- Handles by their ids: the supervisors of Android, and calls on them. -/
abbrev AndroidCallers (κ : Type) := Callers κ Android.Supervise.Supervisor

abbrev IosCallers (κ : Type) := Callers κ Ios.Supervisor.Session

def androidStart : AndroidCallers κ := initial fun _ => .initial

def iosStart (port : κ → Ios.Supervisor.Holder) : IosCallers κ :=
  initial fun key => .initial (port key)

variable [DecidableEq κ]

def androidStep :
    AndroidCallers κ → Event κ Android.Supervise.Supervisor.Input → Option (AndroidCallers κ) :=
  Callers.step fun _ => Android.Supervise.stoppable

def iosStep (options : κ → Ios.Supervisor.Options) :
    IosCallers κ → Event κ Ios.Supervisor.Session.Input → Option (IosCallers κ) :=
  Callers.step fun key => Ios.Supervisor.Session.stoppable (options key)

/-- No session that has ended before a call is among those it reports, just as long as no
    call waits for such a session whose message an earlier wait has taken. -/
theorem shutdownAll_honest_iff (κ : Type) [DecidableEq κ] :
    (∀ events (final : AndroidCallers κ), run androidStep androidStart events = some final →
      (Throughout androidStep Callers.Honest androidStart events ↔
        Meets androidStep Callers.Unclaimed androidStart events)) ∧
    ∀ options port events (final : IosCallers κ),
      run (iosStep options) (iosStart port) events = some final →
      (Throughout (iosStep options) Callers.Honest (iosStart port) events ↔
        Meets (iosStep options) Callers.Unclaimed (iosStart port) events) :=
  ⟨fun _ _ ran => Callers.honest_iff (fun _ => Android.Supervise.reports) ran,
    fun options port _ _ ran => Callers.honest_iff
      (fun key => Ios.Supervisor.Session.reports (options key) (port key)) ran⟩

/-- A session whose process exits, and a call that takes its message. -/
def androidEvents : List (Event Nat Android.Supervise.Supervisor.Input) :=
  [.worker 0 (.exits 0), .worker 0 (.go .go), .worker 0 (.go .go), .worker 0 (.go (.tail [])),
    .worker 0 (.go .go), .begin 0 [0], .ask 0, .receive 0]

/-- An attached session that is stopped, and a call that takes its message. -/
def iosEvents : List (Event Nat Ios.Supervisor.Session.Input) :=
  [.worker 0 (.go (.version none)), .worker 0 .requestStop, .worker 0 (.go .go),
    .worker 0 (.go .go), .worker 0 (.go .go), .worker 0 (.go .go), .worker 0 (.go .go),
    .worker 0 (.go .go), .worker 0 (.go .go), .begin 0 [0], .ask 0, .receive 0]

def attached : Ios.Supervisor.Options := ⟨[], false⟩

theorem shutdownAll_honest_iff_once :
    (∃ final, run androidStep androidStart androidEvents = some final ∧
      (final.calls 0).map Call.ended = some [0] ∧
      (Throughout androidStep Callers.Honest androidStart androidEvents ↔
        Meets androidStep Callers.Unclaimed androidStart androidEvents)) ∧
    ∃ final, run (iosStep fun _ => attached) (iosStart fun _ => .free) iosEvents = some final ∧
      (final.calls 0).map Call.ended = some [0] ∧
      (Throughout (iosStep fun _ => attached) Callers.Honest (iosStart fun _ => .free) iosEvents ↔
        Meets (iosStep fun _ => attached) Callers.Unclaimed (iosStart fun _ => .free) iosEvents) :=
  ⟨⟨_, rfl, rfl, (shutdownAll_honest_iff Nat).1 _ _ rfl⟩,
    ⟨_, rfl, rfl, (shutdownAll_honest_iff Nat).2 _ _ _ _ rfl⟩⟩

/-- A second call reports the session that had ended before both. -/
theorem shutdownAll_twice :
    (∃ final, run androidStep androidStart (androidEvents ++ [Event.begin 1 [0], .ask 1, .receive 1]) =
        some final ∧
      final.calls 1 = some ⟨[], [], [0], [0]⟩ ∧ ¬ final.Honest) ∧
    ∃ final, run (iosStep fun _ => attached) (iosStart fun _ => .free)
        (iosEvents ++ [Event.begin 1 [0], .ask 1, .receive 1]) = some final ∧
      final.calls 1 = some ⟨[], [], [0], [0]⟩ ∧ ¬ final.Honest := by
  have dishonest : ∀ {State : Type} {final : Callers Nat State},
      final.calls 1 = some ⟨[], [], [0], [0]⟩ → ¬ final.Honest := by
    intro State final listed honest
    exact honest 1 _ listed 0 (.head _) (.head _)
  exact ⟨⟨_, rfl, rfl, dishonest rfl⟩, ⟨_, rfl, rfl, dishonest rfl⟩⟩

end Gui.ShutdownAll

end QuadControl
