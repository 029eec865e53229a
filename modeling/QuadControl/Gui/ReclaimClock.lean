import QuadControl.Lib.Machine

/-! # `reclaim_sessions` and the clock

The exiting shell tells the pairing worker to cancel and all sessions to stop, and waits for
them: `shutdown_all`, once for each system, with what is left until one common deadline, and
after that the pairing worker with a budget of its own. Time passes between any two of its
steps. What passes while no wait of the code's is on is its own, and it may be late by any
such amount.
-/

namespace QuadControl.Gui.Shutdown

open Lib

/-! ### Budgets, in milliseconds -/

/-- `SHUTDOWN_DEADLINE` of Android's sessions. -/
def shutdownDeadline : Nat := 7000

def iosShutdownDeadline : Nat := 7000

/-- `COMMAND_TIMEOUT` of an adb call. -/
def commandTimeout : Nat := 10000

def pairingShutdownDeadline : Nat := commandTimeout + 3000

/-- What the loops that wait for a flag sleep at a time. -/
def nap : Nat := 25

/-! ### Where it stands -/

/-- What the two calls of `shutdown_all` share. -/
structure Job where
  cancelledAt : Nat
  /-- When the last of all sessions has been asked to stop. -/
  askedAt : Nat
  deadlineAt : Nat
  /-- The handles of the calls that have not been made. -/
  calls : List (List Nat)
  timedOut : Nat
  /-- How many of these have no supervisor any more. No step reads it. -/
  gone : Nat
  deriving Repr, DecidableEq

inductive Reclaim where
  | begun
  | cancelled (cancelledAt : Nat)
  | drained (cancelledAt : Nat) (android ios : List Nat)
  /-- Before a call of `shutdown_all`, and with the time it is given. -/
  | calling (job : Job)
  | called (job : Job) (remaining : Nat) (handles : List Nat)
  /-- In its loop: with its own deadline, what is left of that, and until when it waits. -/
  | turning (job : Job) (deadline : Nat) (handles : List Nat)
  | turned (job : Job) (deadline remaining : Nat) (handle : Nat) (handles : List Nat)
  | receiving (job : Job) (deadline wakeAt : Nat) (handle : Nat) (handles : List Nat)
  /-- Before the pairing worker is looked at, and with the question whether time is left
      answered. -/
  | pairing (job : Job)
  | asking (job : Job)
  | sleeping (job : Job) (wakeAt : Nat)
  | returned (job : Job)
  deriving Repr, DecidableEq

/-- What a step learns from outside. -/
inductive Answer where
  | go
  /-- The handles that the stores held; of iOS there is one at most. -/
  | handles (android : List Nat) (ios : Option Nat)
  /-- The message that a session is done, or none in time. -/
  | received
  | expired
  /-- The sender was dropped without a message, or its one message is taken: the wait is over
      at once. -/
  | disconnected
  /-- Whether the pairing worker is active. -/
  | active (active : Bool)
  deriving Repr, DecidableEq

namespace Reclaim

/-- The next step, at some time. -/
def step (clock : Nat) : Reclaim → Answer → Option Reclaim
  | .begun, .go => some (.cancelled clock)
  | .cancelled cancelledAt, .handles android ios =>
      some (.drained cancelledAt android ios.toList)
  | .drained cancelledAt android ios, .go =>
      some (.calling
        { cancelledAt
          askedAt := clock
          deadlineAt := clock + max shutdownDeadline iosShutdownDeadline
          calls := [android, ios]
          timedOut := 0
          gone := 0 })
  | .calling job, .go =>
      match job.calls with
      | handles :: calls => some (.called { job with calls } (job.deadlineAt - clock) handles)
      | [] => some (.pairing job)
  | .called job remaining handles, .go => some (.turning job (clock + remaining) handles)
  | .turning job deadline (handle :: handles), .go =>
      some (.turned job deadline (deadline - clock) handle handles)
  | .turning job _ [], .go => some (.calling job)
  | .turned job deadline remaining handle handles, .go =>
      some (.receiving job deadline (clock + remaining) handle handles)
  | .receiving job deadline _ _ handles, .received => some (.turning job deadline handles)
  | .receiving job deadline wakeAt _ handles, .expired =>
      if wakeAt ≤ clock then
        some (.turning { job with timedOut := job.timedOut + 1 } deadline handles)
      else none
  | .receiving job deadline _ _ handles, .disconnected =>
      some (.turning { job with timedOut := job.timedOut + 1, gone := job.gone + 1 } deadline
        handles)
  | .pairing job, .go =>
      if clock - job.cancelledAt < pairingShutdownDeadline then some (.asking job)
      else some (.returned job)
  | .asking job, .active active =>
      some (if active then .sleeping job (clock + nap) else .returned job)
  | .sleeping job wakeAt, .go => if wakeAt ≤ clock then some (.pairing job) else none
  | _, _ => none

/-- Whether a wait is on. -/
def waits (clock : Nat) : Reclaim → Bool
  | .receiving _ _ wakeAt _ _ | .sleeping _ wakeAt => clock < wakeAt
  | _ => false

def isReturned : Reclaim → Bool
  | .returned _ => true
  | _ => false

end Reclaim

/-! ### Budgets hold but for its own time -/

/-- What is known of the two calls, `lag` being when the work began and what the code took
    of its own time since. -/
structure Job.Within (lag clock : Nat) (job : Job) : Prop where
  cancelled : job.cancelledAt ≤ lag
  asked : job.askedAt ≤ lag
  deadline : job.deadlineAt = job.askedAt + max shutdownDeadline iosShutdownDeadline
  expired : job.gone < job.timedOut → job.deadlineAt ≤ clock

namespace Reclaim

/-- The time by which the waits for the sessions, and the naps, are over. -/
def sessionsBy (lag : Nat) : Nat := lag + max shutdownDeadline iosShutdownDeadline

def napsBy (lag : Nat) : Nat := lag + (pairingShutdownDeadline + nap - 1)

def Within (lag clock : Nat) : Reclaim → Prop
  | .begun => clock ≤ lag
  | .cancelled cancelledAt | .drained cancelledAt _ _ => cancelledAt ≤ clock ∧ clock ≤ lag
  | .calling job => job.Within lag clock ∧ clock ≤ sessionsBy lag
  | .called job remaining _ =>
      job.Within lag clock ∧ job.deadlineAt ≤ clock + remaining ∧
        clock + remaining ≤ sessionsBy lag
  | .turning job deadline _ =>
      job.Within lag clock ∧ job.deadlineAt ≤ deadline ∧ deadline ≤ sessionsBy lag ∧
        clock ≤ sessionsBy lag
  | .turned job deadline remaining _ _ =>
      job.Within lag clock ∧ job.deadlineAt ≤ deadline ∧ deadline ≤ sessionsBy lag ∧
        deadline ≤ clock + remaining ∧ clock + remaining ≤ sessionsBy lag
  | .receiving job deadline wakeAt _ _ =>
      job.Within lag clock ∧ job.deadlineAt ≤ deadline ∧ deadline ≤ sessionsBy lag ∧
        deadline ≤ wakeAt ∧ wakeAt ≤ sessionsBy lag ∧ clock ≤ sessionsBy lag
  | .pairing job => job.Within lag clock ∧ clock ≤ napsBy lag
  | .asking job => job.Within lag clock ∧ clock + nap ≤ napsBy lag
  | .sleeping job wakeAt => job.Within lag clock ∧ wakeAt ≤ napsBy lag ∧ clock ≤ napsBy lag
  | .returned job => job.Within lag clock ∧ clock ≤ napsBy lag

/-- Still at the sessions. -/
def atSessions : Reclaim → Bool
  | .pairing _ | .asking _ | .sleeping _ _ | .returned _ => false
  | _ => true

theorem sessionsBy_le_napsBy (lag : Nat) : sessionsBy lag ≤ napsBy lag :=
  Nat.add_le_add_left (by decide) lag

end Reclaim

theorem Job.Within.mono {lag lag' clock clock' : Nat} {job : Job} (within : job.Within lag clock)
    (more : lag ≤ lag') (later : clock ≤ clock') : job.Within lag' clock' where
  cancelled := within.cancelled.trans more
  asked := within.asked.trans more
  deadline := within.deadline
  expired := fun some => (within.expired some).trans later

/-- Of more lag, as much is known. -/
theorem Reclaim.Within.more {lag lag' clock : Nat} {reclaim : Reclaim}
    (within : reclaim.Within lag clock) (more : lag ≤ lag') : reclaim.Within lag' clock := by
  have sessions : Reclaim.sessionsBy lag ≤ Reclaim.sessionsBy lag' := Nat.add_le_add_right more _
  have naps : Reclaim.napsBy lag ≤ Reclaim.napsBy lag' := Nat.add_le_add_right more _
  cases reclaim with
  | begun => exact within.trans more
  | cancelled | drained => exact ⟨within.1, within.2.trans more⟩
  | calling | called | turning | turned | receiving | pairing | asking | sleeping | returned =>
      have within' := within.1.mono more le_rfl
      simp only [Reclaim.Within] at within ⊢
      refine ⟨within', ?_⟩
      omega

theorem Job.Within.deadline_le {lag clock : Nat} {job : Job} (within : job.Within lag clock) :
    job.deadlineAt ≤ Reclaim.sessionsBy lag := by
  rw [within.deadline]
  exact Nat.add_le_add_right within.asked _

namespace Reclaim

@[simp] theorem sessionsBy_succ (lag : Nat) : sessionsBy (lag + 1) = sessionsBy lag + 1 := by
  unfold sessionsBy
  omega

@[simp] theorem napsBy_succ (lag : Nat) : napsBy (lag + 1) = napsBy lag + 1 := by
  unfold napsBy
  omega

/-- A step takes no time. -/
theorem Within.step {lag clock : Nat} {reclaim next : Reclaim} {answer : Answer}
    (within : reclaim.Within lag clock) (stepped : reclaim.step clock answer = some next) :
    next.Within lag clock := by
  unfold Reclaim.step at stepped
  split at stepped
  case h_1 =>
    cases stepped
    exact ⟨le_rfl, within⟩
  case h_2 =>
    cases stepped
    exact within
  case h_3 =>
    cases stepped
    obtain ⟨before, inTime⟩ := within
    refine ⟨⟨before.trans inTime, inTime, rfl, fun some => (by cases some)⟩, ?_⟩
    exact inTime.trans (Nat.le_add_right ..)
  case h_4 job =>
    obtain ⟨within, inTime⟩ := within
    split at stepped
    · cases stepped
      have bound := within.deadline_le
      refine ⟨⟨within.cancelled, within.asked, within.deadline, within.expired⟩, ?_, ?_⟩
      · dsimp only
        omega
      · omega
    · cases stepped
      exact ⟨within, inTime.trans (sessionsBy_le_napsBy lag)⟩
  case h_5 job remaining handles =>
    cases stepped
    obtain ⟨within, after, inTime⟩ := within
    exact ⟨within, after, inTime, by omega⟩
  case h_6 job deadline handle handles =>
    cases stepped
    obtain ⟨within, after, bound, inTime⟩ := within
    exact ⟨within, after, bound, by omega, by omega⟩
  case h_7 job deadline =>
    cases stepped
    exact ⟨within.1, within.2.2.2⟩
  case h_8 job deadline remaining handle handles =>
    cases stepped
    obtain ⟨within, after, bound, late, inTime⟩ := within
    exact ⟨within, after, bound, late, inTime, by omega⟩
  case h_9 job deadline wakeAt handle handles =>
    cases stepped
    obtain ⟨within, after, bound, -, -, inTime⟩ := within
    exact ⟨within, after, bound, inTime⟩
  case h_10 job deadline wakeAt handle handles =>
    obtain ⟨within, after, bound, late, -, inTime⟩ := within
    split at stepped
    case isTrue woken =>
      cases stepped
      refine ⟨⟨within.cancelled, within.asked, within.deadline, fun _ => ?_⟩, after, bound, inTime⟩
      exact after.trans (late.trans woken)
    case isFalse => cases stepped
  case h_11 job deadline wakeAt handle handles =>
    cases stepped
    obtain ⟨within, after, bound, -, -, inTime⟩ := within
    refine ⟨⟨within.cancelled, within.asked, within.deadline, fun more => ?_⟩, after, bound, inTime⟩
    exact within.expired (Nat.lt_of_succ_lt_succ more)
  case h_12 job =>
    obtain ⟨within, inTime⟩ := within
    split at stepped
    case isTrue early =>
      cases stepped
      have cancelled := within.cancelled
      refine ⟨within, ?_⟩
      unfold napsBy nap
      omega
    case isFalse =>
      cases stepped
      exact ⟨within, inTime⟩
  case h_13 job active =>
    obtain ⟨within, inTime⟩ := within
    cases active <;> cases stepped
    · exact ⟨within, by omega⟩
    · exact ⟨within, inTime, by omega⟩
  case h_14 job wakeAt =>
    split at stepped
    · cases stepped
      exact ⟨within.1, within.2.2⟩
    · cases stepped
  case h_15 => cases stepped

/-- Time that passes outside of waits is added to the lag. -/
theorem Within.tick {lag clock : Nat} {reclaim : Reclaim} (within : reclaim.Within lag clock) :
    reclaim.Within (if reclaim.waits clock then lag else lag + 1) (clock + 1) := by
  have later : ∀ {job : Job} {lag' : Nat}, lag ≤ lag' → job.Within lag clock →
      job.Within lag' (clock + 1) := fun more within => within.mono more (Nat.le_succ clock)
  cases reclaim with
  | begun => exact Nat.succ_le_succ within
  | cancelled | drained => exact ⟨Nat.le_succ_of_le within.1, Nat.succ_le_succ within.2⟩
  | receiving job deadline wakeAt handle handles =>
      obtain ⟨within, after, bound, late, wakes, inTime⟩ := within
      simp only [waits, decide_eq_true_eq]
      split
      · exact ⟨later le_rfl within, after, bound, late, wakes, by omega⟩
      · have more := Nat.le_succ lag
        simp only [Within, sessionsBy_succ]
        exact ⟨later more within, after, by omega, late, by omega, by omega⟩
  | sleeping job wakeAt =>
      obtain ⟨within, wakes, inTime⟩ := within
      simp only [waits, decide_eq_true_eq]
      split
      · exact ⟨later le_rfl within, wakes, by omega⟩
      · simp only [Within, napsBy_succ]
        exact ⟨later (Nat.le_succ lag) within, by omega, by omega⟩
  | calling | called | turning | turned | pairing | asking | returned =>
      simp only [waits, Bool.false_eq_true, if_false, Within, sessionsBy_succ, napsBy_succ]
      have within' := later (Nat.le_succ lag) within.1
      simp only [Within] at within
      refine ⟨within', ?_⟩
      omega

/-! ### It ends -/

/-- The naps that the budget of the pairing worker leaves. -/
def naps (cancelledAt clock : Nat) : Nat :=
  (cancelledAt + pairingShutdownDeadline - clock + (nap - 1)) / nap

/-- The steps of the calls of `shutdown_all` that are left. -/
def callSteps (calls : List (List Nat)) : Nat :=
  calls.foldr (fun handles steps => 3 * handles.length + 3 + steps) 0

/-- A bound on the steps that are left once the sessions are drained. -/
def stepsLeft (clock : Nat) : Reclaim → Nat
  | .begun | .cancelled _ => 0
  | .drained cancelledAt android ios =>
      callSteps [android, ios] + 3 * naps cancelledAt clock + 3
  | .calling job => callSteps job.calls + 3 * naps job.cancelledAt clock + 2
  | .called job _ handles =>
      3 * handles.length + callSteps job.calls + 3 * naps job.cancelledAt clock + 4
  | .turning job _ handles =>
      3 * handles.length + callSteps job.calls + 3 * naps job.cancelledAt clock + 3
  | .turned job _ _ _ handles =>
      3 * handles.length + callSteps job.calls + 3 * naps job.cancelledAt clock + 5
  | .receiving job _ _ _ handles =>
      3 * handles.length + callSteps job.calls + 3 * naps job.cancelledAt clock + 4
  | .pairing job => 3 * naps job.cancelledAt clock + 1
  | .asking job => 3 * max (naps job.cancelledAt clock) 1
  | .sleeping job wakeAt => 3 * naps job.cancelledAt (max clock wakeAt) + 2
  | .returned _ => 0

/-- The sessions have been drained. -/
def isDrained : Reclaim → Bool
  | .begun | .cancelled _ => false
  | _ => true

theorem naps_anti (cancelledAt : Nat) {clock clock' : Nat} (later : clock ≤ clock') :
    naps cancelledAt clock' ≤ naps cancelledAt clock := by
  unfold naps
  exact Nat.div_le_div_right (by omega)

theorem naps_pos {cancelledAt clock : Nat} (early : clock - cancelledAt < pairingShutdownDeadline) :
    0 < naps cancelledAt clock := by
  unfold naps
  exact Nat.div_pos (by unfold nap; omega) (by decide)

theorem naps_le {cancelledAt clock : Nat} (later : cancelledAt ≤ clock) :
    naps cancelledAt clock ≤ 520 := by
  unfold naps nap pairingShutdownDeadline commandTimeout
  omega

/-- A nap uses up one, but for the last. -/
theorem naps_nap (cancelledAt clock : Nat) :
    naps cancelledAt (clock + nap) = naps cancelledAt clock - 1 := by
  unfold naps nap
  omega

theorem stepsLeft_tick (reclaim : Reclaim) (clock : Nat) :
    reclaim.stepsLeft (clock + 1) ≤ reclaim.stepsLeft clock := by
  have later : ∀ cancelledAt, naps cancelledAt (clock + 1) ≤ naps cancelledAt clock :=
    fun cancelledAt => naps_anti cancelledAt (Nat.le_succ clock)
  cases reclaim with
  | begun | cancelled | returned => exact le_rfl
  | sleeping job wakeAt =>
      have waking := naps_anti job.cancelledAt (show max clock wakeAt ≤ max (clock + 1) wakeAt by omega)
      simp only [stepsLeft]
      omega
  | drained cancelledAt =>
      have := later cancelledAt
      simp only [stepsLeft]
      omega
  | calling job | called job | turning job | turned job | receiving job | pairing job | asking job =>
      have := later job.cancelledAt
      simp only [stepsLeft]
      omega

/-- Every step lowers the bound. -/
theorem stepsLeft_step {clock : Nat} {reclaim next : Reclaim} {answer : Answer}
    (drained : reclaim.isDrained = true) (stepped : reclaim.step clock answer = some next) :
    next.isDrained = true ∧ next.stepsLeft clock < reclaim.stepsLeft clock := by
  unfold Reclaim.step at stepped
  split at stepped
  case h_1 | h_2 => cases drained
  case h_3 =>
    cases stepped
    exact ⟨rfl, Nat.lt_succ_self _⟩
  case h_4 job =>
    split at stepped
    case h_1 handles calls left =>
      cases stepped
      refine ⟨rfl, ?_⟩
      simp only [stepsLeft, left, callSteps, List.foldr_cons]
      omega
    case h_2 left =>
      cases stepped
      refine ⟨rfl, ?_⟩
      simp only [stepsLeft]
      omega
  case h_5 | h_8 | h_9 | h_11 =>
    cases stepped
    refine ⟨rfl, ?_⟩
    simp only [stepsLeft]
    omega
  case h_6 =>
    cases stepped
    refine ⟨rfl, ?_⟩
    simp only [stepsLeft, List.length_cons]
    omega
  case h_7 =>
    cases stepped
    refine ⟨rfl, ?_⟩
    simp only [stepsLeft, List.length_nil]
    omega
  case h_10 =>
    split at stepped <;> cases stepped
    refine ⟨rfl, ?_⟩
    simp only [stepsLeft]
    omega
  case h_12 job =>
    split at stepped <;> cases stepped
    case isTrue early =>
      have some := naps_pos early
      refine ⟨rfl, ?_⟩
      simp only [stepsLeft]
      omega
    case isFalse => exact ⟨rfl, Nat.succ_pos _⟩
  case h_13 job active =>
    cases active <;> cases stepped
    · refine ⟨rfl, ?_⟩
      simp only [stepsLeft, Bool.false_eq_true, if_false]
      omega
    · refine ⟨rfl, ?_⟩
      have last := naps_nap job.cancelledAt clock
      have wakes : max clock (clock + nap) = clock + nap := Nat.max_eq_right (Nat.le_add_right ..)
      simp only [stepsLeft, if_true, wakes]
      omega
  case h_14 job wakeAt =>
    split at stepped <;> cases stepped
    case isTrue woken =>
      have waking : max clock wakeAt = clock := Nat.max_eq_left woken
      refine ⟨rfl, ?_⟩
      simp only [stepsLeft, waking]
      omega
  case h_15 => cases stepped

/-- A step is always there to be taken, but in a wait. -/
theorem step_of_not_waits {clock : Nat} {reclaim : Reclaim} (awake : reclaim.waits clock = false)
    (unreturned : reclaim.isReturned = false) :
    ∃ answer next, reclaim.step clock answer = some next := by
  cases reclaim with
  | begun => exact ⟨.go, _, rfl⟩
  | cancelled => exact ⟨.handles [] none, _, rfl⟩
  | drained => exact ⟨.go, _, rfl⟩
  | calling job =>
      obtain ⟨_, _, _, calls, _, _⟩ := job
      cases calls <;> exact ⟨.go, _, rfl⟩
  | called => exact ⟨.go, _, rfl⟩
  | turning job deadline handles => cases handles <;> exact ⟨.go, _, rfl⟩
  | turned => exact ⟨.go, _, rfl⟩
  | receiving => exact ⟨.received, _, rfl⟩
  | pairing job =>
      by_cases early : clock - job.cancelledAt < pairingShutdownDeadline
      · exact ⟨.go, _, if_pos early⟩
      · exact ⟨.go, _, if_neg early⟩
  | asking => exact ⟨.active false, _, rfl⟩
  | sleeping job wakeAt =>
      have woken : wakeAt ≤ clock := Nat.le_of_not_lt (of_decide_eq_false awake)
      exact ⟨.go, _, if_pos woken⟩
  | returned => cases unreturned

end Reclaim

/-! ### Runs -/

structure Timed where
  clock : Nat
  /-- The time that the code took of its own. -/
  late : Nat
  reclaim : Reclaim
  deriving Repr, DecidableEq

inductive Moment where
  | tick
  | takes (answer : Answer)
  deriving Repr, DecidableEq

namespace Timed

def step (timed : Timed) : Moment → Option Timed
  | .tick =>
      some { timed with
        clock := timed.clock + 1
        late := if timed.reclaim.waits timed.clock then timed.late else timed.late + 1 }
  | .takes answer =>
      (timed.reclaim.step timed.clock answer).map fun reclaim => { timed with reclaim }

def start (now : Nat) : Timed := ⟨now, 0, .begun⟩

end Timed

/-- A step of the code's. -/
def Moment.isTaken : Moment → Bool
  | .tick => false
  | .takes _ => true

/-- What the two calls share, once they are there. -/
def Reclaim.job : Reclaim → Option Job
  | .begun | .cancelled _ | .drained _ _ _ => none
  | .calling job | .called job _ _ | .turning job _ _ | .turned job _ _ _ _
  | .receiving job _ _ _ _ | .pairing job | .asking job | .sleeping job _ | .returned job =>
      some job

theorem Reclaim.Within.clock_le {lag clock : Nat} {reclaim : Reclaim}
    (within : reclaim.Within lag clock) : clock ≤ Reclaim.napsBy lag := by
  have sessions := Reclaim.sessionsBy_le_napsBy lag
  have start : lag ≤ Reclaim.napsBy lag := Nat.le_add_right ..
  cases reclaim <;> simp only [Reclaim.Within] at within <;> omega

theorem Reclaim.Within.clock_le_sessionsBy {lag clock : Nat} {reclaim : Reclaim}
    (within : reclaim.Within lag clock) (early : reclaim.atSessions = true) :
    clock ≤ Reclaim.sessionsBy lag := by
  have start : lag ≤ Reclaim.sessionsBy lag := Nat.le_add_right ..
  cases reclaim with
  | pairing | asking | sleeping | returned => cases early
  | begun | cancelled | drained | calling | called | turning | turned | receiving =>
      simp only [Reclaim.Within] at within
      omega

theorem Reclaim.Within.of_job {lag clock : Nat} {reclaim : Reclaim} {job : Job}
    (within : reclaim.Within lag clock) (shared : reclaim.job = some job) :
    job.Within lag clock := by
  cases reclaim <;> cases shared <;> exact within.1

namespace Timed

theorem within_step {now : Nat} {timed next : Timed} {moment : Moment}
    (within : timed.reclaim.Within (now + timed.late) timed.clock)
    (stepped : timed.step moment = some next) :
    next.reclaim.Within (now + next.late) next.clock := by
  cases moment with
  | tick =>
      cases stepped
      simpa only [apply_ite (now + ·), Nat.add_assoc] using within.tick
  | takes answer =>
      obtain ⟨reclaim, moved, rfl⟩ := Option.map_eq_some_iff.mp stepped
      exact within.step moved

theorem within_run {now : Nat} {moments : List Moment} {final : Timed}
    (ran : Machine.run step (start now) moments = some final) :
    final.reclaim.Within (now + final.late) final.clock := by
  have begun : (start now).reclaim.Within (now + (start now).late) (start now).clock :=
    le_refl now
  exact @Machine.run_preserves _ _ step
    (fun timed => timed.reclaim.Within (now + timed.late) timed.clock)
    (fun _ _ _ => within_step) _ _ _ begun ran

theorem stepsLeft_run {timed final : Timed} {moments : List Moment}
    (drained : timed.reclaim.isDrained = true)
    (ran : Machine.run step timed moments = some final) :
    moments.countP Moment.isTaken + final.reclaim.stepsLeft final.clock ≤
      timed.reclaim.stepsLeft timed.clock := by
  induction moments generalizing timed with
  | nil =>
      obtain rfl := Option.some.inj ran
      simp
  | cons moment moments ih =>
      simp only [Machine.run, Option.bind_eq_some_iff] at ran
      obtain ⟨next, stepped, ran⟩ := ran
      cases moment with
      | tick =>
          cases stepped
          have rest := ih (by exact drained) ran
          have left := timed.reclaim.stepsLeft_tick timed.clock
          simpa [Moment.isTaken] using rest.trans left
      | takes answer =>
          obtain ⟨reclaim, moved, rfl⟩ := Option.map_eq_some_iff.mp stepped
          obtain ⟨drained, lower⟩ := Reclaim.stepsLeft_step drained moved
          have rest := ih drained ran
          simp only [List.countP_cons, Moment.isTaken, if_true] at rest ⊢
          omega

/-- However late it is: the sessions have their budget once for both systems, and all of it
    before one that still has a supervisor is counted as not stopped; the pairing worker's holds
    to within a nap; it is stuck nowhere, and takes so many steps once the sessions are drained. -/
theorem reclaim_bounded {now : Nat} {moments : List Moment} {final : Timed}
    (ran : Machine.run step (start now) moments = some final) :
    final.clock ≤ now + final.late + (pairingShutdownDeadline + nap - 1) ∧
      (final.reclaim.atSessions = true →
        final.clock ≤ now + final.late + max shutdownDeadline iosShutdownDeadline) ∧
      (∀ job, final.reclaim.job = some job → job.gone < job.timedOut →
        job.askedAt + max shutdownDeadline iosShutdownDeadline ≤ final.clock) ∧
      (final.reclaim.isReturned = false → final.reclaim.waits final.clock = false →
        ∃ answer next, final.step (.takes answer) = some next) ∧
      ∀ cancelledAt android ios, final.reclaim = .drained cancelledAt android ios →
        ∀ later last, Machine.run step final later = some last →
          later.countP Moment.isTaken ≤ 3 * (android.length + ios.length) + 1569 := by
  have within := within_run ran
  refine ⟨within.clock_le, within.clock_le_sessionsBy, ?_, ?_, ?_⟩
  · intro job shared some
    have job := within.of_job shared
    exact job.deadline ▸ job.expired some
  · intro unreturned awake
    obtain ⟨answer, next, stepped⟩ := Reclaim.step_of_not_waits awake unreturned
    exact ⟨answer, _, Option.map_eq_some_iff.mpr ⟨next, stepped, rfl⟩⟩
  · intro cancelledAt android ios drained later last ran'
    rw [drained] at within
    have bound := stepsLeft_run (by rw [drained]; rfl) ran'
    have early := Reclaim.naps_le within.1
    simp only [drained, Reclaim.stepsLeft, Reclaim.callSteps, List.foldr_cons,
      List.foldr_nil] at bound
    omega

/-- Two sessions of Android, of which one has lost its supervisor, one of iOS, which does not
    report at once, and no pairing. -/
def reclaimThree : List Moment :=
  [.takes .go, .tick, .takes (.handles [1, 3] (some 2)), .takes .go, .takes .go, .takes .go,
    .takes .go, .takes .go, .takes .received, .takes .go, .takes .go, .takes .disconnected,
    .takes .go, .takes .go, .takes .go, .takes .go, .takes .go, .tick, .takes .received, .takes .go,
    .takes .go, .takes .go, .takes (.active false)]

theorem reclaim_bounded_three :
    Machine.run step (start 5) reclaimThree = some ⟨7, 1, .returned ⟨5, 6, 7006, [], 1, 1⟩⟩ ∧
      7 ≤ 5 + 1 + (pairingShutdownDeadline + nap - 1) :=
  have ran : Machine.run step (start 5) reclaimThree =
      some ⟨7, 1, .returned ⟨5, 6, 7006, [], 1, 1⟩⟩ := by decide +kernel
  ⟨ran, (reclaim_bounded ran).1⟩

end Timed

end QuadControl.Gui.Shutdown
