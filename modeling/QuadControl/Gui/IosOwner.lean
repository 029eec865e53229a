import QuadControl.Gui.IosPanel

/-! # Ownership of the iOS session

A session that was started is the window's as long as nothing else writes the device of
the session meanwhile. Three things do: an `idle` answer of a poll that was asked before
the first start, the end of a stop that was asked for before the start, and the start of
another device. None of them looks at what has been started since.
-/

namespace QuadControl.Gui.Ios

open Lib

variable {Device : Type}

/-- The device of a start call that has not returned. -/
def Call.starting : Call Device → Option Device
  | .recorded start | .spawning start _ | .failing start _ _ | .spawned start _ => some start.udid
  | _ => none

def Task.isStarting : Task Device → Bool
  | .starting _ _ => true
  | _ => false

namespace Desktop

variable (desktop : Desktop Device)

/-- The devices of the starts that are awaited, and of the sessions that are kept. -/
def claims : List Device := desktop.starts.map Prod.snd ++ desktop.kept.map Prod.snd

/-- Every session that was started is the window's until it ends or the user stops it. -/
def Owned : Prop := ∀ entry ∈ desktop.kept, desktop.front.iosSessionDeviceId = some entry.2

/-- A start call for the device that has not returned, or not begun. -/
def Awaited (call : Nat) (device : Device) : Prop :=
  desktop.back.threads call = .idle ∧ desktop.requests call = some (.start device) ∨
    (desktop.back.threads call).starting = some device

/-- What is claimed is the window's, and what a start call is for is claimed by a task. -/
structure Claimed : Prop where
  owned : ∀ claimed ∈ desktop.claims, desktop.front.iosSessionDeviceId = some claimed
  awaited : ∀ call device, desktop.Awaited call device →
    ∃ i, desktop.tasks i = .starting call device ∧ (i, device) ∈ desktop.starts

/-- A task that awaits no start that has not returned. -/
def Released (i : Nat) : Prop :=
  ∀ call device, desktop.tasks i = .starting call device → ¬ desktop.Awaited call device

/-- Where a task goes on with what it awaited, it clears the device of the session only
    while nothing is claimed. -/
def Harmless (stopFailed : Bool) : Task Device → Prop
  | .polling call =>
      desktop.statusAnswer call = some none → desktop.front.keepLocalFailure none = false →
        desktop.claims = []
  | .stopping _ => stopFailed = true → desktop.claims = []
  | .settling call =>
      (desktop.statusAnswer call).any (fun state => !iosSessionIsLive state) = true →
        desktop.claims = []
  | _ => True

/-- No answer or deadline of what was asked before, and no start of another device, writes
    the device of the session while a start is awaited or a session is kept. -/
def Undisturbed [DecidableEq Device] (desktop : Desktop Device) : Input Device → Prop
  | .click _ _ device _ =>
      desktop.front.clickStops device = false → ∀ claimed ∈ desktop.claims, claimed = device
  | .reply i _ _ stopFailed => desktop.Harmless stopFailed (desktop.tasks i)
  | .expire _ => desktop.claims = []
  | .tick .. | .serve .. | .wake .. => True

instance [DecidableEq Device] (stopFailed : Bool) :
    ∀ task : Task Device, Decidable (desktop.Harmless stopFailed task)
  | .polling _ => inferInstanceAs (Decidable (_ → _ → _))
  | .stopping _ | .settling _ => inferInstanceAs (Decidable (_ → _))
  | .unused | .starting _ _ | .sleeping | .done => isTrue trivial

instance [DecidableEq Device] (desktop : Desktop Device) :
    ∀ input : Input Device, Decidable (desktop.Undisturbed input)
  | .click .. => inferInstanceAs (Decidable (_ → _))
  | .reply _ _ _ stopFailed => inferInstanceAs (Decidable (desktop.Harmless stopFailed _))
  | .expire _ => inferInstanceAs (Decidable (desktop.claims = []))
  | .tick .. | .serve .. | .wake .. => isTrue trivial

variable {desktop}

theorem Released.of_task {i : Nat} {task : Task Device} (here : desktop.tasks i = task)
    (other : task.isStarting = false) : desktop.Released i := by
  intro call device starting
  rw [← here, starting] at other
  cases other

/-! ### What the window does -/

theorem Claimed.setFront {front : Front Device} (claimed : desktop.Claimed)
    (owned : ∀ device ∈ desktop.claims, front.iosSessionDeviceId = some device) :
    (desktop.setFront front).Claimed :=
  ⟨owned, claimed.awaited⟩

/-- A start is awaited by a task other than one that awaits none. -/
theorem Claimed.elsewhere {i call : Nat} {device : Device} (claimed : desktop.Claimed)
    (released : desktop.Released i) (awaited : desktop.Awaited call device) :
    ∃ j, j ≠ i ∧ desktop.tasks j = .starting call device ∧ (j, device) ∈ desktop.starts := by
  obtain ⟨j, starting, inside⟩ := claimed.awaited call device awaited
  refine ⟨j, ?_, starting, inside⟩
  rintro rfl
  exact released call device starting awaited

theorem Claimed.setTask {i : Nat} (claimed : desktop.Claimed) (released : desktop.Released i)
    (task : Task Device) : (desktop.setTask i task).Claimed where
  owned := claimed.owned
  awaited := by
    intro call device awaited
    obtain ⟨j, apart, starting, inside⟩ := claimed.elsewhere released awaited
    refine ⟨j, ?_, inside⟩
    simpa only [Desktop.setTask, Function.update_of_ne apart] using starting

theorem send_some {next : Desktop Device} {i call : Nat} {task : Task Device}
    {request : Request Device} (sent : desktop.send i call task request = some next) :
    next = { desktop.setTask i task with
      requests := Function.update desktop.requests call (some request) } := by
  simp only [Desktop.send, Option.ite_none_right_eq_some, Option.some.injEq] at sent
  exact sent.2.symm

/-- What is awaited once a call was made was awaited before, or is the call. -/
theorem Awaited.of_send {next : Desktop Device} {i call call' : Nat} {task : Task Device}
    {request : Request Device} {device : Device}
    (sent : desktop.send i call task request = some next) (awaited : next.Awaited call' device) :
    desktop.Awaited call' device ∨ call' = call ∧ request = .start device := by
  obtain rfl := send_some sent
  rcases awaited with ⟨idle, requested⟩ | started
  · by_cases same : call' = call
    · simp only [same, Function.update_self, Option.some.injEq] at requested
      exact .inr ⟨same, requested⟩
    · simp only [Function.update_of_ne same] at requested
      exact .inl (.inl ⟨idle, requested⟩)
  · exact .inl (.inr started)

/-- A call that is not a start claims nothing. -/
theorem Claimed.send {next : Desktop Device} {i call : Nat} {task : Task Device}
    {request : Request Device} (claimed : desktop.Claimed) (released : desktop.Released i)
    (other : ∀ device, request ≠ .start device)
    (sent : desktop.send i call task request = some next) : next.Claimed where
  owned := by
    obtain rfl := send_some sent
    exact claimed.owned
  awaited := by
    intro call' device awaited
    have moved := claimed.setTask released task
    rcases Awaited.of_send sent awaited with before | ⟨-, start⟩
    · obtain ⟨j, starting, inside⟩ := moved.awaited call' device before
      obtain rfl := send_some sent
      exact ⟨j, starting, inside⟩
    · exact absurd start (other device)

theorem Claimed.forget {i : Nat} (claimed : desktop.Claimed) (released : desktop.Released i) :
    (desktop.forget i).Claimed where
  owned := by
    intro device inside
    apply claimed.owned
    rcases List.mem_append.mp inside with start | kept
    · obtain ⟨entry, left, rfl⟩ := List.mem_map.mp start
      exact List.mem_append_left _ (List.mem_map_of_mem (List.mem_filter.mp left).1)
    · exact List.mem_append_right _ kept
  awaited := by
    intro call device awaited
    obtain ⟨j, apart, starting, inside⟩ := claimed.elsewhere released awaited
    exact ⟨j, starting, List.mem_filter.mpr ⟨inside, by simpa using apart⟩⟩

theorem Claimed.poll {next : Desktop Device} {i call : Nat} {selected : Bool}
    (claimed : desktop.Claimed) (released : desktop.Released i)
    (polled : desktop.poll i call selected = some next) : next.Claimed := by
  unfold Desktop.poll at polled
  split at polled
  · have flying : (desktop.setFront { desktop.front with iosPollInFlight := true }).Claimed :=
      claimed.setFront claimed.owned
    exact flying.send released (fun _ same => by cases same) polled
  · obtain rfl := Option.some.inj polled
    exact claimed.setTask released .done

/-- The end of a stop clears the device, which nothing may claim then. -/
theorem Claimed.settle {i : Nat} (claimed : desktop.Claimed) (released : desktop.Released i)
    (unclaimed : desktop.claims = []) : (desktop.settle i).Claimed := by
  have cleared : (desktop.setFront desktop.front.settle).Claimed := by
    apply claimed.setFront
    intro device inside
    rw [unclaimed] at inside
    cases inside
  exact cleared.setTask released .done

/-- Whatever a poll is told, it clears the device only for `idle`. -/
theorem Claimed.receive {state : Option Status} (claimed : desktop.Claimed)
    (undisturbed : state = none → desktop.front.keepLocalFailure none = false →
      desktop.claims = []) : (desktop.setFront (desktop.front.receive state)).Claimed := by
  apply claimed.setFront
  intro device inside
  have owner := claimed.owned device inside
  unfold Front.receive
  dsimp only
  split
  · exact owner
  · rename_i applied
    split
    · rename_i idle
      subst idle
      rw [undisturbed rfl (Bool.eq_false_iff.mpr applied)] at inside
      cases inside
    · exact owner

variable [DecidableEq Device]

/-- A click on the button, with no start of another device while one is claimed. -/
theorem Claimed.act {next : Desktop Device} {i call : Nat} {device : Device}
    (claimed : desktop.Claimed) (unused : desktop.tasks i = .unused)
    (undisturbed : desktop.front.clickStops device = false →
      ∀ claimed ∈ desktop.claims, claimed = device)
    (acted : desktop.act i call device = some next) : next.Claimed := by
  have released : desktop.Released i := .of_task unused rfl
  unfold Desktop.act at acted
  split at acted
  · have stopped : Claimed
        { desktop.setFront (desktop.front.setStatus .stopping) with kept := [] } := by
      refine ⟨fun device inside => ?_, claimed.awaited⟩
      rcases List.mem_append.mp inside with start | kept
      · exact claimed.owned device (List.mem_append_left _ start)
      · cases kept
    exact stopped.send released (fun _ same => by cases same) acted
  · rename_i starts
    have own := undisturbed (Bool.eq_false_iff.mpr starts)
    constructor
    · obtain rfl := send_some acted
      intro other inside
      have same : other = device := by
        rcases List.mem_cons.mp inside with here | before
        · exact here
        · exact own other before
      exact congrArg some same.symm
    · intro call' other awaited
      rcases Awaited.of_send acted awaited with before | ⟨rfl, request⟩
      · obtain ⟨j, apart, starting, inside⟩ := claimed.elsewhere released before
        obtain rfl := send_some acted
        refine ⟨j, ?_, List.mem_cons_of_mem _ inside⟩
        exact (Function.update_of_ne apart ..).trans starting
      · cases request
        obtain rfl := send_some acted
        exact ⟨i, Function.update_self .., List.mem_cons_self⟩

/-! ### What the back end does -/

omit [DecidableEq Device] in
theorem starting_of_isPoll {call : Call Device} (poll : call.isPoll = true) :
    call.starting = none := by
  cases call <;> first | rfl | cases poll

omit [DecidableEq Device] in
/-- Only the first section of a start call makes a call one. -/
theorem starting_of_step {me : Nat} {shared shared' : Shared Device} {call call' : Call Device}
    {action : Action Device} {device : Device} (step : Step me shared call action shared' call')
    (starting : call'.starting = some device) :
    call.starting = some device ∨ call = .idle ∧ action = .start (.ok ()) device := by
  cases step with
  | supervise | spawnFailed | spawn | place => exact .inl starting
  | record udid =>
      obtain rfl := Option.some.inj starting
      exact .inr ⟨rfl, rfl⟩
  | reset _ _ poll | mark _ _ _ poll | poll _ _ poll | look _ _ _ _ poll =>
      rw [starting_of_isPoll poll] at starting
      cases starting
  | refuse | reject | fail | fallBack | adopt | clear | stop | discard | cache | launch | name =>
      cases starting

omit [DecidableEq Device] in
/-- A call that has begun does not begin again. -/
theorem idle_of_advance {me : Nat} {shared shared' : Shared Device} {call : Call Device}
    {action : Action Device} (acted : advance me shared call action = some (shared', .idle)) :
    call = .idle := by
  unfold advance at acted
  split at acted <;> (try split at acted) <;> first | rfl | cases acted
  -- The supervising thread leaves the call as it was.
  rfl

theorem serve_some {next : Desktop Device} {call : Nat} {action : Action Device}
    (served : desktop.serve call action = some next) :
    action.answersTo (desktop.requests call) = true ∧ ∃ shared own,
      advance call desktop.back.shared (desktop.back.threads call) action = some (shared, own) ∧
        next = { desktop with
          back := ⟨shared, Function.update desktop.back.threads call own⟩
          answers := desktop.answersAfter call action
          kept := desktop.keptAfter call action } := by
  simp only [Desktop.serve, Option.ite_none_right_eq_some, Option.map_eq_some_iff] at served
  obtain ⟨answers, back, stepped, rfl⟩ := served
  obtain ⟨shared, own, acted, rfl⟩ := Interleaving.step_some stepped
  exact ⟨answers, shared, own, acted, rfl⟩

/-- What is awaited after a section of a call was awaited before. -/
theorem Awaited.of_serve {next : Desktop Device} {call call' : Nat} {action : Action Device}
    {device : Device} (served : desktop.serve call action = some next)
    (awaited : next.Awaited call' device) : desktop.Awaited call' device := by
  obtain ⟨answers, shared, own, acted, rfl⟩ := serve_some served
  by_cases same : call' = call
  · subst same
    simp only [Awaited, Function.update_self] at awaited
    rcases awaited with ⟨rfl, requested⟩ | starting
    · exact .inl ⟨idle_of_advance acted, requested⟩
    · rcases starting_of_step (.of_advance acted) starting with before | ⟨idle, rfl⟩
      · exact .inr before
      · exact .inl ⟨idle, of_decide_eq_true answers⟩
  · simpa only [Awaited, Function.update_of_ne same] using awaited

omit [DecidableEq Device] in
/-- The device of a session that is kept anew is that of a start that is awaited. -/
theorem kept_of_keptAfter {call : Nat} {action : Action Device} {entry : Nat × Device}
    (inside : entry ∈ desktop.keptAfter call action) :
    entry ∈ desktop.kept ∨ desktop.Awaited call entry.2 := by
  unfold keptAfter at inside
  split at inside
  · rename_i start id here
    split at inside
    · rcases List.mem_cons.mp inside with rfl | before
      · exact .inr (.inr (congrArg Call.starting here))
      · exact .inl before
    · exact .inl inside
  · split at inside
    · exact .inl inside
    · exact .inl (List.mem_filter.mp inside).1
  · exact .inl inside

/-- A section of a call claims nothing that was not claimed. -/
theorem Claimed.serve {next : Desktop Device} {call : Nat} {action : Action Device}
    (claimed : desktop.Claimed) (served : desktop.serve call action = some next) :
    next.Claimed where
  owned := by
    obtain ⟨-, shared, own, -, rfl⟩ := serve_some served
    intro device inside
    apply claimed.owned
    rcases List.mem_append.mp inside with start | kept
    · exact List.mem_append_left _ start
    · obtain ⟨entry, later, rfl⟩ := List.mem_map.mp kept
      rcases kept_of_keptAfter later with before | awaited
      · exact List.mem_append_right _ (List.mem_map_of_mem before)
      · obtain ⟨i, -, starts⟩ := claimed.awaited call entry.2 awaited
        exact List.mem_append_left _ (List.mem_map.mpr ⟨_, starts, rfl⟩)
  awaited := by
    intro call' device awaited
    have before := claimed.awaited call' device (.of_serve served awaited)
    obtain ⟨-, shared, own, -, rfl⟩ := serve_some served
    exact before

/-! ### What a task goes on with -/

omit [DecidableEq Device] in
theorem Released.of_returned {i call : Nat} {device : Device} {start : Start Device}
    {result : Except StartError Unit} (here : desktop.tasks i = .starting call device)
    (returned : desktop.back.threads call = .startReturned start result) :
    desktop.Released i := by
  intro call' device' starting awaited
  obtain ⟨rfl, -⟩ := Task.starting.inj (here.symm.trans starting)
  rcases awaited with ⟨idle, -⟩ | underWay
  · cases returned.symm.trans idle
  · rw [returned] at underWay
    cases underWay

theorem Claimed.reply {next : Desktop Device} {i call : Nat} {selected stopFailed : Bool}
    (claimed : desktop.Claimed)
    (undisturbed : desktop.Undisturbed (.reply i call selected stopFailed))
    (replied : desktop.reply i call selected stopFailed = some next) : next.Claimed := by
  unfold Desktop.reply at replied
  simp only [Undisturbed] at undisturbed
  cases task : desktop.tasks i with
  | polling asked =>
      simp only [task] at replied undisturbed
      obtain ⟨state, answer, rfl⟩ := Option.map_eq_some_iff.mp replied
      have released : desktop.Released i := .of_task task rfl
      have quiet : state = none → desktop.front.keepLocalFailure none = false →
          desktop.claims = [] := by
        rintro rfl
        exact undisturbed answer
      have received := claimed.receive quiet
      exact received.setTask released .done
  | starting asked device =>
      simp only [task] at replied
      split at replied
      · rename_i returned
        have released := Released.of_returned task returned
        exact (claimed.forget released).poll released replied
      · rename_i returned
        have released := Released.of_returned task returned
        obtain rfl := Option.some.inj replied
        have failed : Claimed ((desktop.forget i).setFront (desktop.front.setStatus .failed)) :=
          (claimed.forget released).setFront (claimed.forget released).owned
        exact failed.setTask released .done
      · cases replied
  | stopping asked =>
      simp only [task] at replied undisturbed
      have released : desktop.Released i := .of_task task rfl
      split at replied
      · split at replied
        · rename_i failed
          obtain rfl := Option.some.inj replied
          exact claimed.settle released (undisturbed failed)
        · exact claimed.send released (fun _ same => by cases same) replied
      · cases replied
  | settling asked =>
      simp only [task] at replied undisturbed
      obtain ⟨state, answer, rfl⟩ := Option.map_eq_some_iff.mp replied
      have released : desktop.Released i := .of_task task rfl
      split
      · exact claimed.setTask released .sleeping
      · rename_i ended
        refine claimed.settle released (undisturbed ?_)
        rw [answer, Option.any_some, Bool.not_eq_true']
        exact Bool.eq_false_iff.mpr ended
  | unused | sleeping | done =>
      simp only [task] at replied
      cases replied

/-! ### Runs -/

theorem Claimed.step {next : Desktop Device} {input : Input Device} (claimed : desktop.Claimed)
    (undisturbed : desktop.Undisturbed input) (stepped : desktop.step input = some next) :
    next.Claimed := by
  cases input with
  | tick i call selected =>
      simp only [Desktop.step, Option.ite_none_right_eq_some] at stepped
      obtain ⟨unused, polled⟩ := stepped
      exact claimed.poll (.of_task unused rfl) polled
  | click i call device windows =>
      simp only [Desktop.step, Option.ite_none_right_eq_some] at stepped
      obtain ⟨⟨unused, -⟩, acted⟩ := stepped
      exact claimed.act unused undisturbed acted
  | serve call action => exact claimed.serve stepped
  | reply i call selected stopFailed => exact claimed.reply undisturbed stepped
  | wake i call =>
      simp only [Desktop.step, Option.ite_none_right_eq_some] at stepped
      obtain ⟨sleeping, sent⟩ := stepped
      have released : desktop.Released i := .of_task sleeping rfl
      exact claimed.send released (fun _ same => by cases same) sent
  | expire i =>
      simp only [Desktop.step, Option.ite_none_right_eq_some, Option.some.injEq] at stepped
      obtain ⟨sleeping, rfl⟩ := stepped
      have released : desktop.Released i := .of_task sleeping rfl
      exact claimed.settle released undisturbed

omit [DecidableEq Device] in
theorem Claimed.initial : (initial : Desktop Device).Claimed where
  owned := by
    intro device inside
    cases inside
  awaited := by
    intro call device awaited
    rcases awaited with ⟨-, requested⟩ | starting
    · cases requested
    · cases starting

omit [DecidableEq Device] in
theorem Claimed.kept (claimed : desktop.Claimed) : desktop.Owned := by
  intro entry inside
  exact claimed.owned entry.2 (List.mem_append_right _ (List.mem_map_of_mem inside))

/-- In every run whose inputs leave the device of the session alone, a session that was
    started is the window's until it ends or the user stops it. -/
theorem iosSession_owned (inputs : List (Input Device)) (desktop : Desktop Device)
    (undisturbed : Machine.Meets Desktop.step Undisturbed initial inputs)
    (ran : Machine.run Desktop.step initial inputs = some desktop) : desktop.Owned :=
  (Machine.run_invariant (fun _ _ _ claimed condition stepped => claimed.step condition stepped)
    Claimed.initial undisturbed ran : desktop.Claimed).kept

/-- Device 7 is started, polled and stopped, and device 8 is started once the session of
    device 7 is over. -/
def startStopStart : List (Input Nat) :=
  [.tick 0 0 true, .serve 0 (.status false), .reply 0 9 true false,
    .click 1 1 7 false, .serve 1 (.start (.ok ()) 7), .serve 1 .go, .serve 1 (.spawned (.ok ())),
    .serve 1 .go, .reply 1 2 true false, .serve 2 (.status false), .serve 2 .go,
    .reply 1 9 true false, .serve 9 (.supervise 1 .running), .tick 2 3 true,
    .serve 3 (.status false), .serve 3 .go, .serve 3 .go, .serve 3 .go, .reply 2 9 true false,
    .click 3 4 7 false, .serve 4 .stop, .serve 4 .go, .reply 3 5 true false,
    .serve 9 (.supervise 1 .stopping), .serve 9 (.supervise 1 .exited), .serve 5 (.status false),
    .serve 5 .go, .serve 5 .go, .reply 3 9 true false, .click 4 6 8 false,
    .serve 6 (.start (.ok ()) 8), .serve 6 .go, .serve 6 (.spawned (.ok ())), .serve 6 .go]

theorem iosSession_owned_startStopStart :
    ∃ desktop, Machine.run Desktop.step initial startStopStart = some desktop ∧
      desktop.kept = [(2, 8)] ∧ desktop.Owned :=
  ⟨_, rfl, rfl, iosSession_owned startStopStart _ (by decide) rfl⟩

/-- A poll is under way when device 7 is started for the first time. It is told that
    there is no session, and its answer comes after the start. -/
def staleIdle : List (Input Nat) :=
  [.tick 0 0 true, .serve 0 (.status false), .click 1 1 7 false,
    .serve 1 (.start (.ok ()) 7), .serve 1 .go, .serve 1 (.spawned (.ok ())), .serve 1 .go,
    .reply 0 9 true false]

theorem staleIdle_disowns : ∃ desktop, Machine.run Desktop.step initial staleIdle = some desktop ∧
    desktop.kept = [(1, 7)] ∧ desktop.front.iosSessionDeviceId = none ∧ ¬ desktop.Owned := by
  refine ⟨_, rfl, rfl, rfl, fun owned => ?_⟩
  cases owned (1, 7) (.head _)

end Desktop

end QuadControl.Gui.Ios
