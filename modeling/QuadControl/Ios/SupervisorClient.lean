import QuadControl.Ios.SupervisorReports

/-! # The client of an iOS session

The client is stored before the status says that the session runs, and it is taken a while
after the status has said that the session stops. Only the terminal statuses find it gone.
-/

namespace QuadControl.Ios.Supervisor

open Lib

theorem Written.status_starting {status : Status} {statuses : List Status}
    (written : Written .starting status statuses) : status = .starting := by
  cases written with
  | starting => rfl

/-- Where the client may be there. -/
def Point.holdsClient : Point → Bool
  | publishing _ | listening | watching | looking | ending _ | stoppingProxy _ | taking _ => true
  | _ => false

theorem Moves.holdsClient {point next : Point} (moves : Moves point next) :
    next.holdsClient = point.holdsClient := by
  cases moves <;> rfl

namespace Session

variable {options : Options} {session next : Session} {choice : Choice} {input : Input}

/-- What handles get with the client. -/
def ClientRuns (session : Session) : Prop :=
  session.client = true → ∃ port, session.status = .running port

def ClientHeld (session : Session) : Prop :=
  session.client = true → session.point.holdsClient = true

/-- The supervisor stores the client. -/
def stores (session : Session) (input : Input) : Bool :=
  match session.point with
  | .storing _ => input.isOwn
  | _ => false

/-- The client is there behind the step that stores it, until it is taken. -/
theorem Turn.client (turn : Turn options session choice next) (there : next.client = true) :
    session.client = true ∨ session.stores (.go choice) = true := by
  cases turn with
  | store here => exact .inr (by simp [stores, here, Input.isOwn])
  | take => cases there
  | _ => exact .inl there

theorem client_of_step (stepped : session.step options input = some next)
    (there : next.client = true) : session.client = true ∨ session.stores input = true := by
  rcases step_cases stepped with ⟨choice, rfl, turn⟩ | ⟨-, rests⟩
  · exact turn.client there
  · exact .inl (rests.client ▸ there)

/-- The client is stored while handles are told that the session starts. -/
theorem Sound.stores (sound : Sound session) (stores : session.stores input = true)
    (stepped : session.step options input = some next) :
    next.client = true ∧ next.status = .starting := by
  unfold Session.stores at stores
  split at stores
  case h_2 => cases stores
  case h_1 port here =>
      have written := sound.written
      rw [here] at written
      cases input with
      | go choice =>
          cases choice <;> simp [step, supervise, here] at stepped
          simpa [← stepped, Session.goto] using written.status_starting
      | _ => cases stores

theorem ClientHeld.turn (held : ClientHeld session) (turn : Turn options session choice next) :
    ClientHeld next := by
  intro there
  cases turn with
  | moves moves => exact moves.holdsClient.trans (held there)
  | ends | store | publish | stopping | stopProxy => rfl
  | take => cases there
  | untaken here absent => cases absent.symm.trans there
  | refuse here | handle here | tunnelReady here | spawnForward here | exited here | settled here
  | lost here | create here | beginConfigure here | startProxy here | undeleted here | delete here
  | signal here | leave here | reap here | clear here | report here | send here =>
      have holds := held there
      rw [here] at holds
      cases holds
  | spawnChild here =>
      have holds := held there
      rcases here with ⟨here, -⟩ | ⟨here, -⟩ <;> (rw [here] at holds; cases holds)

theorem clientHeld_of_step (session : Session) (input : Input) (next : Session)
    (held : ClientHeld session) (stepped : session.step options input = some next) :
    ClientHeld next := by
  rcases step_cases stepped with ⟨choice, -, turn⟩ | ⟨-, rests⟩
  · exact held.turn turn
  · intro there
    rw [rests.point]
    exact held (rests.client ▸ there)

/-- A terminal status finds the client gone. -/
theorem client_gone {port : Holder} {inputs : List Input} {reached : Session}
    (ran : Machine.run (step options) (initial port) inputs = some reached)
    (terminal : reached.status.isTerminal = true) : reached.client = false := by
  have held : ClientHeld (initial port) := nofun
  have sound := Machine.run_preserves sound_of_step (sound_initial port) ran
  have settled := Point.of_settled (sound.written.settled_of_terminal terminal)
  by_contra there
  have holds := Machine.run_preserves clientHeld_of_step held ran (Bool.not_eq_false _ ▸ there)
  rcases settled with here | here
  · simp [here, Point.holdsClient] at holds
  · simp [here, Point.holdsClient] at holds

end Session

/-- Attaching, up to the proxy, and on to the client. -/
def attached : List Session.Input :=
  [.go (.version none), .go .go, .go (.child none), .go (.status true),
    .go (.session (some ['A'])), .go .go, .clone (0, .go),
    .clone (0, .answer (.ok ⟨none, none, none, none, none, none, none⟩)), .go .go]

def clientStored : List Session.Input := attached ++ [Session.Input.go (.proxy (some 9100)), .go .go]

/-- A stop while attaching. -/
def stoppedEarly : List Session.Input :=
  [.go (.version none), .requestStop, .go .go, .go .go, .go .go, .go .go, .go .go, .go .go]

/-- A run never shows the client beside another status than running just when it never
    comes to store it. -/
theorem client_runs_throughout_iff (options : Options) (port : Holder) (inputs : List Session.Input)
    (final : Session)
    (ran : Machine.run (Session.step options) (.initial port) inputs = some final) :
    Machine.Throughout (Session.step options) Session.ClientRuns (.initial port) inputs ↔
      Machine.Meets (Session.step options) (fun session input => session.stores input = false)
        (.initial port) inputs := by
  have kept : ∀ session input next, (Session.Sound session ∧ session.client = false) →
      session.stores input = false → Session.step options session input = some next →
      Session.Sound next ∧ next.client = false := by
    rintro session input next ⟨sound, absent⟩ unstored stepped
    refine ⟨Session.sound_of_step session input next sound stepped, ?_⟩
    by_contra there
    rcases Session.client_of_step stepped (Bool.not_eq_false _ ▸ there) with there | stored
    · simp [absent] at there
    · simp [unstored] at stored
  have start : Session.Sound (.initial port) ∧ (Session.initial port).client = false :=
    ⟨Session.sound_initial port, rfl⟩
  constructor
  · intro throughout
    refine Machine.meets_of_throughout kept ?_ start ran throughout
    rintro session input next ⟨sound, -⟩ stepped runs
    by_contra stored
    obtain ⟨there, starting⟩ := sound.stores (Bool.not_eq_false _ ▸ stored) stepped
    obtain ⟨proxyPort, running⟩ := runs there
    cases starting.symm.trans running
  · intro meets
    refine (Machine.throughout_of_meets kept start meets).mono ?_
    rintro session ⟨-, absent⟩ there
    simp [absent] at there

/-- A stop that comes while the session still waits for an answer. -/
theorem client_runs_throughout_iff_stopped :
    Machine.Meets (Session.step ⟨[], false⟩) (fun session input => session.stores input = false)
        (.initial .free) stoppedEarly ∧
      Machine.Throughout (Session.step ⟨[], false⟩) Session.ClientRuns (.initial .free)
        stoppedEarly := by
  have meets : Machine.Meets (Session.step ⟨[], false⟩)
      (fun session input => session.stores input = false) (.initial .free) stoppedEarly := by
    decide +kernel
  have ends : (Machine.run (Session.step ⟨[], false⟩) (.initial .free) stoppedEarly).map
      Session.status = some (.exited .requested) := by
    decide +kernel
  obtain ⟨final, ran, -⟩ := Option.map_eq_some_iff.mp ends
  exact ⟨meets, (client_runs_throughout_iff ⟨[], false⟩ .free stoppedEarly final ran).mpr meets⟩

/-- The client is there before the session runs. -/
theorem client_before_running :
    ∃ inputs reached, Machine.run (Session.step ⟨[], false⟩) (.initial .free) inputs = some reached ∧
      reached.hasHandle = true ∧ ¬ reached.ClientRuns := by
  have early : (Machine.run (Session.step ⟨[], false⟩) (.initial .free) clientStored).map
      (fun session => (session.hasHandle, session.client, session.status)) =
        some (true, true, .starting) := by
    decide +kernel
  obtain ⟨reached, ran, seen⟩ := Option.map_eq_some_iff.mp early
  simp only [Prod.mk.injEq] at seen
  obtain ⟨handle, there, starting⟩ := seen
  refine ⟨clientStored, reached, ran, handle, fun runs => ?_⟩
  obtain ⟨port, running⟩ := runs there
  cases starting.symm.trans running

end QuadControl.Ios.Supervisor
