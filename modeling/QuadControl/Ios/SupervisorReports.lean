import QuadControl.Android.Supervise
import QuadControl.Ios.SupervisorTurns

/-! # The statuses of an iOS session

The supervisor passes through six phases. Each of them says what handles see and what was
written so far; whether the client is there is another matter, since it is stored one step
before the session is said to run.
-/

namespace QuadControl.Ios.Supervisor

open Lib

inductive Phase where
  /-- There is no handle. -/
  | before
  | starting
  | running
  | ending
  | stopping
  | settled
  deriving Repr, DecidableEq

def Point.phase : Point → Phase
  | preflight | refused _ => .before
  | listening | watching | looking => .running
  | ending _ => .ending
  | stoppingProxy _ | taking _ | deleting _ | signalling _ _ | leaving _ _ | reaping _ _
  | reporting _ => .stopping
  | sending | finished => .settled
  | _ => .starting

def Status.isTerminal : Status → Bool
  | starting | running _ | stopping => false
  | exited _ | failed _ => true

/-- What a session writes before it ends, and from its start to its end. -/
def begun (port : Option Nat) : List Status := .starting :: (port.map .running).toList

def word (port : Option Nat) (last : Status) : List Status := begun port ++ [Status.stopping, last]

def IsWord (statuses : List Status) : Prop :=
  ∃ port last, last.isTerminal = true ∧ statuses = word port last

/-- What handles see and what was written, in each phase. -/
inductive Written : Phase → Status → List Status → Prop
  | before : Written .before .starting []
  | starting : Written .starting .starting (begun none)
  | running (port : Nat) : Written .running (.running port) (begun (some port))
  | unstarted : Written .ending .starting (begun none)
  | ran (port : Nat) : Written .ending (.running port) (begun (some port))
  | stopping (port : Option Nat) : Written .stopping .stopping (begun port ++ [Status.stopping])
  | settled (port : Option Nat) (last : Status) (terminal : last.isTerminal = true) :
      Written .settled last (word port last)

theorem Moves.phase {point next : Point} (moves : Moves point next) :
    next.phase = point.phase ∧ point ≠ .finished ∧ next ≠ .finished := by
  cases moves with
  | unready wait => cases wait <;> exact ⟨rfl, nofun, nofun⟩
  | _ => exact ⟨rfl, nofun, nofun⟩

theorem Outcome.isTerminal_status (outcome : Outcome) :
    (Outcome.status outcome).isTerminal = true := by
  cases outcome <;> rfl

variable {status : Status} {statuses : List Status}

theorem Written.start (written : Written .before status statuses) :
    Written .starting .starting (statuses ++ [Status.starting]) := by
  cases written with
  | before => exact .starting

theorem Written.publish (port : Nat) (written : Written .starting status statuses) :
    Written .running (.running port) (statuses ++ [Status.running port]) := by
  cases written with
  | starting => exact .running port

theorem Written.stop (written : Written .ending status statuses) :
    Written .stopping .stopping (statuses ++ [Status.stopping]) := by
  cases written with
  | unstarted => exact .stopping none
  | ran port => exact .stopping (some port)

theorem Written.last {last : Status} (written : Written .stopping status statuses)
    (terminal : last.isTerminal = true) : Written .settled last (statuses ++ [last]) := by
  cases written with
  | stopping port =>
      rw [List.append_assoc]
      exact .settled port last terminal

theorem Written.ends {phase : Phase} (written : Written phase status statuses)
    (may : phase = .starting ∨ phase = .running) :
    Written .ending status statuses := by
  rcases may with rfl | rfl
  · cases written with
    | starting => exact .unstarted
  · cases written with
    | running port => exact .ran port

theorem begun_prefix (port : Option Nat) :
    ∃ whole, IsWord whole ∧ begun port ++ [Status.stopping] <+: whole :=
  ⟨word port (.failed ""), ⟨port, .failed "", rfl, rfl⟩, [.failed ""], by simp [word]⟩

theorem Written.grammar {phase : Phase} (written : Written phase status statuses) :
    ∃ whole, IsWord whole ∧ statuses <+: whole := by
  have begins : ∀ port, ∃ whole, IsWord whole ∧ begun port <+: whole := by
    intro port
    obtain ⟨whole, is, starts⟩ := begun_prefix port
    exact ⟨whole, is, (List.prefix_append _ _).trans starts⟩
  cases written with
  | before => exact ⟨word none (.failed ""), ⟨none, .failed "", rfl, rfl⟩, List.nil_prefix⟩
  | starting | unstarted => exact begins none
  | running port | ran port => exact begins (some port)
  | stopping port => exact begun_prefix port
  | settled port last terminal => exact ⟨_, ⟨port, status, terminal, rfl⟩, List.prefix_rfl⟩

theorem Written.visible {phase : Phase} {last : Status} (written : Written phase status statuses)
    (ends : statuses.getLast? = some last) : status = last := by
  cases written with
  | before => cases ends
  | starting | running | unstarted | ran => simpa [begun] using ends
  | stopping port => simpa using ends
  | settled port => simpa [word] using ends

/-- A terminal status is written where the message is sent, or behind it. -/
theorem Written.settled_of_terminal {phase : Phase} (written : Written phase status statuses)
    (terminal : status.isTerminal = true) : phase = .settled := by
  cases written with
  | settled => rfl
  | before | starting | running | unstarted | ran | stopping => cases terminal

theorem Written.whole (written : Written .settled status statuses) :
    IsWord statuses ∧ status.isTerminal = true := by
  cases written with
  | settled port last terminal => exact ⟨⟨port, status, terminal, rfl⟩, terminal⟩

theorem Written.before_of_nil {phase : Phase} (written : Written phase status []) :
    phase = .before := by
  generalize nothing : ([] : List Status) = statuses at written
  cases written with
  | before => rfl
  | starting | running | unstarted | ran | stopping | settled => simp [begun, word] at nothing

theorem Point.of_before {point : Point} (before : point.phase = .before) :
    point = .preflight ∨ ∃ error, point = .refused error := by
  cases point with
  | preflight => exact .inl rfl
  | refused error => exact .inr ⟨error, rfl⟩
  | _ => cases before

theorem Point.of_settled {point : Point} (settled : point.phase = .settled) :
    point = .sending ∨ point = .finished := by
  cases point with
  | sending => exact .inl rfl
  | finished => exact .inr rfl
  | _ => cases settled

namespace Session

variable {options : Options} {session next : Session} {choice : Choice}

theorem MayEnd.phase (may : session.MayEnd choice) :
    session.point.phase = .starting ∨ session.point.phase = .running := by
  unfold MayEnd at may
  split at may <;> simp_all [Point.phase]

def report (session : Session) : Report Status :=
  ⟨session.status, session.statuses, session.done⟩

/-- The invariant of a run. -/
structure Sound (session : Session) : Prop where
  written : Written session.point.phase session.status session.statuses
  done : session.done = if session.point = .finished then 1 else 0

theorem sound_initial (port : Holder) : Sound (initial port) := ⟨.before, rfl⟩

/-- Any step but the one that sends the message. -/
theorem Sound.onward (sound : Sound session)
    (written : Written next.point.phase next.status next.statuses) (done : next.done = session.done)
    (before : session.point ≠ .finished) (after : next.point ≠ .finished) : Sound next :=
  ⟨written, by rw [done, sound.done, if_neg before, if_neg after]⟩

/-- A step that writes nothing. -/
theorem Sound.stays (sound : Sound session) (phase : next.point.phase = session.point.phase)
    (status : next.status = session.status) (statuses : next.statuses = session.statuses)
    (done : next.done = session.done) (before : session.point ≠ .finished)
    (after : next.point ≠ .finished) : Sound next := by
  refine sound.onward ?_ done before after
  rw [phase, status, statuses]
  exact sound.written

theorem Sound.terminate {outcome : Outcome} (sound : Sound session)
    (here : session.point.phase = .stopping) : Sound (session.terminate outcome) := by
  have written := sound.written
  rw [here] at written
  have before : session.point ≠ .finished := by
    intro finished
    simp [finished, Point.phase] at here
  unfold Session.terminate
  split
  · exact sound.onward written rfl before nofun
  · exact sound.onward written rfl before nofun

theorem Sound.turn (sound : Sound session) (turn : Turn options session choice next) :
    Sound next := by
  have written := sound.written
  cases turn with
  | moves moves =>
      obtain ⟨phase, before, after⟩ := moves.phase
      exact sound.stays phase rfl rfl rfl before after
  | ends may =>
      have before : session.point ≠ .finished := by
        intro finished
        simp [MayEnd, finished] at may
      exact sound.onward (written.ends may.phase) rfl before (by rintro ⟨⟩)
  -- most steps of the start-up and of the shutdown write nothing
  | refuse here | tunnelReady here | spawnForward here | exited here | create here
  | beginConfigure here | startProxy here | store here | stopProxy here | take here | signal here
  | leave here | reap here | clear here =>
      exact sound.stays (by rw [here]; rfl) rfl rfl rfl (by simp [here]) (by rintro ⟨⟩)
  | spawnChild here =>
      rcases here with ⟨here, -, rfl⟩ | ⟨here, -, rfl⟩
      · exact sound.stays (by rw [here]; rfl) rfl rfl rfl (by simp [here]) (by rintro ⟨⟩)
      · exact sound.stays (by rw [here]; rfl) rfl rfl rfl (by simp [here]) (by rintro ⟨⟩)
  | settled here further =>
      rcases further with rfl | rfl
      · exact sound.stays (by rw [here]; rfl) rfl rfl rfl (by simp [here]) (by rintro ⟨⟩)
      · exact sound.stays (by rw [here]; rfl) rfl rfl rfl (by simp [here]) (by rintro ⟨⟩)
  -- each end of the start-up writes once
  | handle here first =>
      rw [here] at written
      rcases first with ⟨rfl, -⟩ | rfl
      · exact sound.onward written.start rfl (by simp [here]) (by rintro ⟨⟩)
      · exact sound.onward written.start rfl (by simp [here]) (by rintro ⟨⟩)
  | lost here further =>
      rw [here] at written
      rcases further with ⟨error, rfl⟩ | ⟨attempts, rfl⟩
      · exact sound.onward (written.ends (.inl rfl)) rfl (by simp [here]) (by rintro ⟨⟩)
      · exact sound.stays (by rw [here]; rfl) rfl rfl rfl (by simp [here]) (by rintro ⟨⟩)
  | publish here =>
      rw [here] at written
      exact sound.onward (written.publish _) rfl (by simp [here]) (by rintro ⟨⟩)
  -- the end of it
  | stopping here =>
      rw [here] at written
      exact sound.onward written.stop rfl (by simp [here]) (by rintro ⟨⟩)
  | untaken here | undeleted here => exact sound.terminate (by simp [here, Point.phase])
  | @delete _ _ id here =>
      have noted : Sound (session.note (.deleted id)) := ⟨sound.written, sound.done⟩
      exact noted.terminate (by simp [note, here, Point.phase])
  | report here =>
      rw [here] at written
      exact sound.onward (written.last (Outcome.isTerminal_status _)) rfl (by simp [here])
        (by rintro ⟨⟩)
  | send here =>
      rw [here] at written
      exact ⟨written, by simp [Session.goto, sound.done, here]⟩

theorem Sound.rests (sound : Sound session) (rests : Rests session next) : Sound next := by
  constructor
  · rw [rests.point, rests.status, rests.statuses]
    exact sound.written
  · rw [rests.done, rests.point]
    exact sound.done

theorem sound_of_step (session : Session) (input : Input) (next : Session) (sound : Sound session)
    (stepped : session.step options input = some next) : Sound next := by
  rcases step_cases stepped with ⟨choice, -, turn⟩ | ⟨-, rests⟩
  · exact sound.turn turn
  · exact sound.rests rests

/-! ### The report -/

def Input.isOwn : Input → Bool
  | .go _ => true
  | _ => false

/-- The supervising thread, and what its handles see. -/
def worker (options : Options) : Worker Session Input Status where
  step := Session.step options
  own := Input.isOwn
  report := Session.report

theorem Sound.obeys (sound : Sound session) :
    session.report.Obeys IsWord (·.isTerminal = true) where
  grammar := sound.written.grammar
  visible _ := sound.written.visible
  once := by
    simp only [report, sound.done]
    split <;> omega
  last := by
    intro sent
    have here : session.point = .finished := by
      by_contra elsewhere
      simp [report, sound.done, elsewhere] at sent
    have written := sound.written
    rw [here] at written
    exact written.whole

/-- What is left to do behind a terminal status is to tell of the end. -/
theorem supervise_sending {choice : Choice} (here : session.point = .sending)
    (turned : session.supervise options choice = some next) :
    next = { session.goto .finished with done := session.done + 1 } := by
  cases session
  cases here
  cases choice with
  | go => exact (Option.some.inj turned).symm
  | _ => cases turned

theorem supervise_finished (here : session.point = .finished) (choice : Choice) :
    session.supervise options choice = none := by
  cases session
  cases here
  cases choice <;> rfl

/-- The steps that are left behind a terminal status. -/
theorem report_of_settled {input : Input}
    (settled : session.point = .sending ∨ session.point = .finished)
    (stepped : session.step options input = some next) :
    next.report = session.report.send (if input.isOwn then 1 else 0) := by
  rcases step_cases stepped with ⟨choice, rfl, -⟩ | ⟨others, rests⟩
  · rcases settled with here | here
    · rw [supervise_sending here stepped]
      rfl
    · rw [step, supervise_finished here] at stepped
      cases stepped
  · have notOwn : input.isOwn = false := by
      cases input with
      | go choice => exact absurd rfl (others choice)
      | _ => rfl
    simp [notOwn, report, Report.send, rests.status, rests.statuses, rests.done]

theorem Sound.settles (sound : Sound session) :
    (worker options).Settles (·.isTerminal = true) session := by
  have settled : session.status.isTerminal = true →
      session.point = .sending ∨ session.point = .finished :=
    fun terminal => Point.of_settled (sound.written.settled_of_terminal terminal)
  constructor
  · intro terminal unsent
    have here : session.point = .sending := by
      rcases settled terminal with here | here
      · exact here
      · simp [worker, report, sound.done, here] at unsent
    refine ⟨.go .go, { session.goto .finished with done := session.done + 1 }, rfl, ?_⟩
    cases session
    cases here
    rfl
  · intro input next terminal stepped
    exact report_of_settled (settled terminal) stepped

theorem reports (options : Options) (port : Holder) :
    (worker options).Reports IsWord (·.isTerminal = true) (initial port) := by
  have preserved : ∀ session input next, Sound session →
      (worker options).step session input = some next → Sound next := sound_of_step
  exact Worker.reports_of_invariant preserved (fun _ => Sound.obeys) (fun _ => Sound.settles)
    (sound_initial port)

/-- A handle comes with the first status. -/
theorem Sound.statuses_ne_nil (sound : Sound session) (handle : session.hasHandle = true) :
    session.statuses ≠ [] := by
  intro nothing
  have written := sound.written
  rw [nothing] at written
  unfold hasHandle at handle
  rcases Point.of_before written.before_of_nil with here | ⟨error, here⟩
  · simp [here] at handle
  · simp [here] at handle

end Session

/-- Sessions of both systems report as they should, whatever is asked of them and whatever
    happens to their processes; a handle of an iOS session comes with its first status. -/
theorem sessions_report :
    (∀ options port, (Session.worker options).Reports IsWord (·.isTerminal = true)
        (Session.initial port) ∧
      ∀ inputs reached, Machine.run (Session.step options) (.initial port) inputs = some reached →
        reached.hasHandle = true → reached.statuses ≠ []) ∧
    Android.Supervise.worker.Reports Android.Supervise.IsWord (·.isTerminal = true) .initial := by
  refine ⟨fun options port => ⟨Session.reports options port, ?_⟩, Android.Supervise.reports⟩
  intro inputs reached ran handle
  have sound := Machine.run_preserves Session.sound_of_step (Session.sound_initial port) ran
  exact sound.statuses_ne_nil handle

end QuadControl.Ios.Supervisor
