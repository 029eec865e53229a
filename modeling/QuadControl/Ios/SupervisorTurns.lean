import QuadControl.Ios.Supervisor

/-! # What a step of the supervisor can do

One constructor a kind of effect. The steps that only move on are told apart by a relation
between the two points; whatever else happens in the host leaves the supervisor where it is.
-/

namespace QuadControl.Ios.Supervisor

open Lib

/-- Steps without an effect. -/
inductive Moves : Point → Point → Prop
  | check (wait : Wait) : Moves (.polling wait) (.checking wait)
  | ask (wait : Wait) : Moves (.checking wait) (.asking wait)
  | unready (wait : Wait) : Moves (.asking wait) (.timing wait)
  | again (wait : Wait) : Moves (.timing wait) (.polling wait)
  | ready : Moves (.asking .status) .creating
  | reserved (forward : Forward) (attempts : Nat) :
      Moves (.reserving forward attempts) (.forwarding forward attempts)
  | configured : Moves .configuring .startingProxy
  | watch : Moves .listening .watching
  | look : Moves .watching .looking
  | listen : Moves .looking .listening
  | escalate (outcome : Outcome) (signal signal' : Signal) :
      Moves (.leaving outcome signal) (.signalling outcome signal')

namespace Session

/-- Where `start_session` may return, but for `spawn_forward` behind its wait. -/
def MayEnd (session : Session) (choice : Choice) : Prop :=
  match session.point with
  | .configuring => ∃ error, (session.wda.threads 0).call = .idle (some (.error error))
  | .startingProxy => choice = .proxy none
  | .spawningTunnel | .polling _ | .checking _ | .timing _ | .spawningRunner | .reserving _ _
  | .forwarding _ _ | .creating | .listening | .watching | .looking => True
  | _ => False

/-- The steps of the supervisor, by their effects. -/
inductive Turn (options : Options) (session : Session) : Choice → Session → Prop
  | refuse {choice : Choice} {error : Error} (here : session.point = .preflight) :
      Turn options session choice (session.goto (.refused error))
  | handle {choice : Choice} {point : Point} (here : session.point = .preflight)
      (first : point = .spawningTunnel ∧ session.port = .free ∨ point = .polling .status) :
      Turn options session choice ((session.setStatus .starting).goto point)
  | moves {choice : Choice} {point : Point} (may : Moves session.point point) :
      Turn options session choice (session.goto point)
  | ends {choice : Choice} {outcome : Outcome} {stops : Nat} (may : session.MayEnd choice) :
      Turn options session choice { session.goto (.ending outcome) with stops }
  | spawnChild {choice : Choice} {kind : ChildKind} {point : Point}
      (here : session.point = .spawningTunnel ∧ kind = .tunnel ∧ point = .polling .tunnel ∨
        session.point = .spawningRunner ∧ kind = .runWda ∧
          point = .reserving .http forwardPortAttempts) :
      Turn options session choice (((session.spawn kind).push kind session.spawned).goto point)
  | tunnelReady {listed : List Text} (here : session.point = .asking .tunnel)
      (held : session.port ≠ .free) (lists : options.udid ∈ listed) :
      Turn options session (.tunnels (some listed))
        ((session.note (.tunnelReady session.port listed)).goto .spawningRunner)
  | spawnForward {choice : Choice} {forward : Forward} {attempts : Nat}
      (here : session.point = .forwarding forward attempts) :
      Turn options session choice
        ((session.spawn forward.kind).goto (.settling forward attempts session.spawned))
  | settled {choice : Choice} {forward : Forward} {attempts pid : Nat} {point : Point}
      (here : session.point = .settling forward attempts pid)
      (further : point = .reserving .mjpeg forwardPortAttempts ∨ point = .polling .status) :
      Turn options session choice ((session.push forward.kind pid).goto point)
  | exited {choice : Choice} {forward : Forward} {attempts pid : Nat} {tail : Text}
      (here : session.point = .settling forward attempts pid)
      (gone : session.isExited pid = true) :
      Turn options session choice (session.goto (.losing forward attempts pid tail))
  | lost {choice : Choice} {forward : Forward} {attempts pid : Nat} {tail : Text} {point : Point}
      (here : session.point = .losing forward attempts pid tail)
      (further : (∃ error, point = .ending (.error error)) ∨
        ∃ attempts, point = .reserving forward attempts) :
      Turn options session choice ((session.wait pid).goto point)
  | create {choice : Choice} {id : Text} (here : session.point = .creating) :
      Turn options session choice (session.create id)
  | beginConfigure {choice : Choice} {wda : Clones} {event : Interleaving.Event _}
      (here : session.point = .beginning)
      (began : Interleaving.step Wda.advance session.wda event = some wda) :
      Turn options session choice { session.goto .configuring with wda }
  | startProxy {choice : Choice} {port : Nat} (here : session.point = .startingProxy) :
      Turn options session choice { session.goto (.storing port) with proxy := some .alive }
  | store {choice : Choice} {port : Nat} (here : session.point = .storing port) :
      Turn options session choice { session.goto (.publishing port) with client := true }
  | publish {choice : Choice} {port : Nat} (here : session.point = .publishing port) :
      Turn options session choice ((session.setStatus (.running port)).goto .listening)
  | stopping {choice : Choice} {outcome : Outcome} (here : session.point = .ending outcome) :
      Turn options session choice ((session.setStatus .stopping).goto (.stoppingProxy outcome))
  | stopProxy {choice : Choice} {outcome : Outcome}
      (here : session.point = .stoppingProxy outcome) :
      Turn options session choice { session.goto (.taking outcome) with proxy := none }
  | take {choice : Choice} {outcome : Outcome} (here : session.point = .taking outcome)
      (some : session.client = true) :
      Turn options session choice { session.goto (.deleting outcome) with client := false }
  | untaken {choice : Choice} {outcome : Outcome} (here : session.point = .taking outcome)
      (none : session.client = false) :
      Turn options session choice (session.terminate outcome)
  | undeleted {choice : Choice} {outcome : Outcome} (here : session.point = .deleting outcome)
      (none : session.wda.shared.client.sessionId = none) :
      Turn options session choice (session.terminate outcome)
  | delete {choice : Choice} {outcome : Outcome} {id : Text}
      (here : session.point = .deleting outcome)
      (some : session.wda.shared.client.sessionId = some id) :
      Turn options session choice ((session.note (.deleted id)).terminate outcome)
  | signal {choice : Choice} {outcome : Outcome} {signal : Signal}
      (here : session.point = .signalling outcome signal) :
      Turn options session choice
        ((session.note (.signalled signal)).goto (.leaving outcome signal))
  | leave {choice : Choice} {outcome : Outcome} {signal : Signal}
      (here : session.point = .leaving outcome signal) :
      Turn options session choice (session.goto (.reaping outcome session.children))
  | reap {choice : Choice} {outcome : Outcome} {child : Child} {left : List Child}
      (here : session.point = .reaping outcome (child :: left))
      (exited : session.isExited child.pid = true) :
      Turn options session choice ((session.wait child.pid).goto (.reaping outcome left))
  | clear {choice : Choice} {outcome : Outcome} (here : session.point = .reaping outcome []) :
      Turn options session choice { session.goto (.reporting outcome) with children := [] }
  | report {choice : Choice} {outcome : Outcome} (here : session.point = .reporting outcome) :
      Turn options session choice ((session.setStatus outcome.status).goto .sending)
  | send {choice : Choice} (here : session.point = .sending) :
      Turn options session choice { session.goto .finished with done := session.done + 1 }

variable {options : Options} {session next : Session} {choice : Choice}

theorem Turn.fails {error : Error} (may : session.MayEnd choice) :
    Turn options session choice (session.fail error) :=
  .ends may

theorem Turn.receive {point : Point} (may : session.MayEnd choice)
    (moves : Moves session.point point) : Turn options session choice (session.receive point) := by
  unfold Session.receive
  split
  · exact .moves moves
  · exact .ends may

theorem turn_of_preflight {error : Option Error} (here : session.point = .preflight) :
    Turn options session choice (session.preflight options error) := by
  unfold preflight
  split
  · split
    · exact .refuse here
    · split
      · exact .handle here (.inl ⟨rfl, ‹_›⟩)
      · exact .refuse here
  · exact .handle here (.inr rfl)

theorem turn_of_askTunnels {listed : Option (List Text)} (here : session.point = .asking .tunnel)
    (stepped : session.askTunnels options listed = some next) :
    Turn options session (.tunnels listed) next := by
  have unready : Turn options session (.tunnels listed) (session.goto (.timing .tunnel)) :=
    .moves (here ▸ .unready .tunnel)
  unfold askTunnels at stepped
  split at stepped
  · obtain rfl := Option.some.inj stepped
    exact unready
  · split at stepped
    · cases stepped
    · rename_i held
      split at stepped
      · rename_i lists
        obtain rfl := Option.some.inj stepped
        exact .tunnelReady here held lists
      · obtain rfl := Option.some.inj stepped
        exact unready

theorem turn_of_settle {forward : Forward} {attempts pid : Nat} {tail : Option Text}
    (here : session.point = .settling forward attempts pid)
    (stepped : session.settle forward attempts pid tail = some next) :
    Turn options session choice next := by
  unfold settle at stepped
  split at stepped
  · obtain rfl := Option.some.inj stepped
    refine .settled here ?_
    cases forward
    · exact .inl rfl
    · exact .inr rfl
  · split at stepped
    · obtain rfl := Option.some.inj stepped
      exact .exited here ‹_›
    · cases stepped

theorem turn_of_lose {forward : Forward} {attempts pid : Nat} {tail : Text}
    (here : session.point = .losing forward attempts pid tail) :
    Turn options session choice ((session.wait pid).lose forward attempts tail) := by
  unfold lose
  split
  · split
    · exact .lost here (.inl ⟨_, rfl⟩)
    · exact .lost here (.inl ⟨_, rfl⟩)
    · exact .lost here (.inr ⟨_, rfl⟩)
  · exact .lost here (.inl ⟨_, rfl⟩)

theorem turn_of_configured (here : session.point = .configuring)
    (stepped : session.configured = some next) : Turn options session choice next := by
  unfold configured at stepped
  split at stepped
  · obtain rfl := Option.some.inj stepped
    exact .moves (here ▸ .configured)
  · rename_i error failed
    obtain rfl := Option.some.inj stepped
    refine .fails ?_
    rw [MayEnd, here]
    exact ⟨error, failed⟩
  · cases stepped

theorem turn_of_climb {outcome : Outcome} {signal : Signal} {gone : Bool}
    (here : session.point = .leaving outcome signal)
    (stepped : session.climb outcome signal gone = some next) :
    Turn options session choice next := by
  unfold climb at stepped
  split at stepped
  · split at stepped
    · obtain rfl := Option.some.inj stepped
      exact .leave here
    · cases stepped
  · split at stepped
    · obtain rfl := Option.some.inj stepped
      exact .moves (here ▸ .escalate ..)
    · obtain rfl := Option.some.inj stepped
      exact .moves (here ▸ .escalate ..)
    · obtain rfl := Option.some.inj stepped
      exact .leave here

theorem turn_of_spawnChild {kind : ChildKind} {wrap : Error} {point : Point}
    {failure : Option SpawnFailure}
    (here : session.point = .spawningTunnel ∧ kind = .tunnel ∧ point = .polling .tunnel ∨
      session.point = .spawningRunner ∧ kind = .runWda ∧
        point = .reserving .http forwardPortAttempts) :
    Turn options session choice (session.spawnChild kind wrap point failure) := by
  unfold spawnChild
  split
  · refine .fails ?_
    unfold MayEnd
    rcases here with ⟨here, -⟩ | ⟨here, -⟩ <;> rw [here] <;> trivial
  · exact .spawnChild here

theorem mayEnd_at {point : Point} (here : session.point = point)
    (may : ({ session with point } : Session).MayEnd choice) : session.MayEnd choice := by
  subst here
  exact may

theorem Turn.of_some {made : Session} (turn : Turn options session choice made)
    (stepped : some made = some next) : Turn options session choice next := by
  obtain rfl := Option.some.inj stepped
  exact turn

/-! The waits for the tunnel and for the status. -/

theorem turn_of_gone {wait : Wait} {child : Child} {error : Error}
    (here : session.point = .checking wait)
    (stepped : (if child ∈ session.children ∧ session.isExited child.pid then
      some (session.fail error) else none) = some next) : Turn options session choice next := by
  split at stepped
  · exact Turn.of_some (.fails (mayEnd_at here trivial)) stepped
  · cases stepped

theorem turn_of_status {ok : Bool} (here : session.point = .asking .status) :
    Turn options session choice (session.goto (if ok then .creating else .timing .status)) := by
  split
  · exact .moves (here ▸ .ready)
  · exact .moves (here ▸ .unready _)

theorem turn_of_late {wait : Wait} {late : Bool} (here : session.point = .timing wait) :
    Turn options session choice
      (if late then session.fail wait.late else session.goto (.polling wait)) := by
  split
  · exact .fails (mayEnd_at here trivial)
  · exact .moves (here ▸ .again _)

/-! Forwards, and the session on the device. -/

theorem turn_of_reserve {forward : Forward} {attempts : Nat} {reserved : Bool}
    (here : session.point = .reserving forward attempts) :
    Turn options session choice
      (if reserved then session.goto (.forwarding forward attempts)
        else session.fail .forwardFailed) := by
  split
  · exact .moves (here ▸ .reserved ..)
  · exact .fails (mayEnd_at here trivial)

theorem turn_of_begin (here : session.point = .beginning)
    (stepped : session.beginConfigure = some next) : Turn options session choice next := by
  obtain ⟨wda, began, rfl⟩ := Option.map_eq_some_iff.mp stepped
  exact .beginConfigure here began

/-! The loop that watches, and the shutdown. -/

theorem turn_of_look {child : Child} {reason : Int → ExitReason} (here : session.point = .looking)
    (stepped : (if child ∈ session.children then
      (session.exited child.pid).map fun code => session.finish (reason code) else none) =
        some next) : Turn options session choice next := by
  split at stepped
  · obtain ⟨code, -, rfl⟩ := Option.map_eq_some_iff.mp stepped
    exact .ends (mayEnd_at here trivial)
  · cases stepped

theorem turn_of_take {outcome : Outcome} (here : session.point = .taking outcome) :
    Turn options session choice
      (if session.client then { session.goto (.deleting outcome) with client := false }
        else session.terminate outcome) := by
  split
  · exact .take here ‹_›
  · exact .untaken here (Bool.not_eq_true _ ▸ ‹_›)

theorem turn_of_reap {outcome : Outcome} {child : Child} {left : List Child}
    (here : session.point = .reaping outcome (child :: left))
    (stepped : (if session.isExited child.pid then
      some ((session.wait child.pid).goto (.reaping outcome left)) else none) = some next) :
    Turn options session choice next := by
  split at stepped
  · exact Turn.of_some (.reap here ‹_›) stepped
  · cases stepped

theorem turn_of_supervise (stepped : session.supervise options choice = some next) :
    Turn options session choice next := by
  unfold supervise at stepped
  split at stepped
  case h_1 here => exact (turn_of_preflight here).of_some stepped
  case h_2 here => exact (turn_of_spawnChild (.inl ⟨here, rfl, rfl⟩)).of_some stepped
  case h_3 here =>
      exact Turn.of_some (.receive (mayEnd_at here trivial) (here ▸ .check _)) stepped
  case h_4 here => exact Turn.of_some (.moves (here ▸ .ask _)) stepped
  case h_5 here => exact turn_of_gone here stepped
  case h_6 here => exact turn_of_askTunnels here stepped
  case h_7 here => exact (turn_of_status here).of_some stepped
  case h_8 here => exact (turn_of_late here).of_some stepped
  case h_9 here => exact (turn_of_spawnChild (.inr ⟨here, rfl, rfl⟩)).of_some stepped
  case h_10 here => exact (turn_of_reserve here).of_some stepped
  case h_11 here =>
      split at stepped
      · exact Turn.of_some (.fails (mayEnd_at here trivial)) stepped
      · exact Turn.of_some (.spawnForward here) stepped
  case h_12 here => exact turn_of_settle here stepped
  case h_13 here => exact (turn_of_lose here).of_some stepped
  case h_14 here =>
      refine Turn.of_some ?_ stepped
      split
      · exact .create here
      · exact .fails (mayEnd_at here trivial)
  case h_15 here => exact turn_of_begin here stepped
  case h_16 here => exact turn_of_configured here stepped
  case h_17 here =>
      refine Turn.of_some ?_ stepped
      split
      · exact .startProxy here
      · exact .fails (mayEnd_at here rfl)
  case h_18 here => exact Turn.of_some (.store here) stepped
  case h_19 here => exact Turn.of_some (.publish here) stepped
  case h_20 here =>
      exact Turn.of_some (.receive (mayEnd_at here trivial) (here ▸ .watch)) stepped
  case h_21 here =>
      refine Turn.of_some ?_ stepped
      split
      · exact .fails (mayEnd_at here trivial)
      · exact .ends (mayEnd_at here trivial)
      · exact .moves (here ▸ .look)
      · exact .moves (here ▸ .look)
  case h_22 here => exact Turn.of_some (.moves (here ▸ .listen)) stepped
  case h_23 here => exact turn_of_look here stepped
  case h_24 here => exact Turn.of_some (.stopping here) stepped
  case h_25 here => exact Turn.of_some (.stopProxy here) stepped
  case h_26 here => exact (turn_of_take here).of_some stepped
  case h_27 here =>
      refine Turn.of_some ?_ stepped
      split
      · exact .delete here ‹_›
      · exact .undeleted here ‹_›
  case h_28 here => exact Turn.of_some (.signal here) stepped
  case h_29 here => exact turn_of_climb here stepped
  case h_30 here => exact turn_of_reap here stepped
  case h_31 here => exact Turn.of_some (.clear here) stepped
  case h_32 here => exact Turn.of_some (.report here) stepped
  case h_33 here => exact Turn.of_some (.send here) stepped
  case h_34 => cases stepped

/-- What happens beside the supervisor: where it stands, what it has done and the status
    stay, the port goes to whoever takes it. -/
structure Rests (session next : Session) : Prop where
  point : next.point = session.point
  status : next.status = session.status
  client : next.client = session.client
  done : next.done = session.done
  children : next.children = session.children
  spawned : next.spawned = session.spawned
  exited : ∀ pid, session.isExited pid = true → next.isExited pid = true
  waited : next.waited = session.waited
  deeds : next.deeds = session.deeds
  statuses : next.statuses = session.statuses
  wda : next.wda = session.wda ∨
    ∃ event, Interleaving.step Wda.advance session.wda event = some next.wda
  port : next.port = session.port ∨ next.port = .free ∨ next.port = .foreign ∨
    ∃ pid, next.port = .child pid ∧ ⟨.tunnel, pid⟩ ∈ session.children

theorem rests_of_exit (pid : Nat) (code : Int) : Rests session (session.exit pid code) := by
  refine ⟨rfl, rfl, rfl, rfl, rfl, rfl, ?_, rfl, rfl, rfl, .inl rfl, ?_⟩
  · intro other gone
    by_cases same : other = pid
    · simp [isExited, exit, same]
    · simpa [isExited, exit, Function.update_of_ne same] using gone
  · simp only [exit]
    split
    · exact .inr (.inl rfl)
    · exact .inl rfl

theorem step_cases {input : Input} (stepped : session.step options input = some next) :
    (∃ choice, input = .go choice ∧ Turn options session choice next) ∨
      (∀ choice, input ≠ .go choice) ∧ Rests session next := by
  cases input with
  | go choice => exact .inl ⟨choice, rfl, turn_of_supervise stepped⟩
  | requestStop | client | upstream =>
      right
      simp only [step, Option.ite_none_right_eq_some, Option.some.injEq] at stepped
      obtain ⟨-, rfl⟩ := stepped
      exact ⟨nofun, rfl, rfl, rfl, rfl, rfl, rfl, fun _ => id, rfl, rfl, rfl, .inl rfl,
        .inl rfl⟩
  | clone event =>
      right
      simp only [step, Option.ite_none_right_eq_some, Option.map_eq_some_iff] at stepped
      obtain ⟨-, wda, stepped, rfl⟩ := stepped
      exact ⟨nofun, rfl, rfl, rfl, rfl, rfl, rfl, fun _ => id, rfl, rfl, rfl, .inr ⟨event, stepped⟩,
        .inl rfl⟩
  | exits pid code =>
      right
      simp only [step, Option.ite_none_right_eq_some, Option.some.injEq] at stepped
      obtain ⟨-, rfl⟩ := stepped
      exact ⟨nofun, rests_of_exit pid code⟩
  | foreignBinds =>
      right
      simp only [step, Option.ite_none_right_eq_some, Option.some.injEq] at stepped
      obtain ⟨-, rfl⟩ := stepped
      exact ⟨nofun, rfl, rfl, rfl, rfl, rfl, rfl, fun _ => id, rfl, rfl, rfl, .inl rfl,
        .inr (.inr (.inl rfl))⟩
  | childBinds pid =>
      right
      simp only [step, Option.ite_none_right_eq_some, Option.some.injEq] at stepped
      obtain ⟨⟨-, own, -⟩, rfl⟩ := stepped
      exact ⟨nofun, rfl, rfl, rfl, rfl, rfl, rfl, fun _ => id, rfl, rfl, rfl, .inl rfl,
        .inr (.inr (.inr ⟨pid, rfl, own⟩))⟩
  | releases =>
      right
      obtain rfl := Option.some.inj stepped
      exact ⟨nofun, rfl, rfl, rfl, rfl, rfl, rfl, fun _ => id, rfl, rfl, rfl, .inl rfl,
        .inr (.inl rfl)⟩

end Session

end QuadControl.Ios.Supervisor
