import QuadControl.Gui.SessionHandles

/-! # Sessions and the exiting shell

`reclaim_sessions` tells those sessions to stop whose handles it finds when it drains
the map. A start call does not ask whether the map was drained before it stores the
handle of the session it has spawned.
-/

namespace QuadControl.Gui.Sessions

open Lib Lib.Interleaving

variable {Device : Type}

/-- No call of `stop_session`. -/
def StartsOnly (_pool : Pool (Shared Device) (Call Device)) (event : Event (Action Device)) : Prop :=
  ∀ device, event.2 ≠ .stop device

/-- Every session spawned was sent stop or reported. -/
def Reclaimed (pool : Pool (Shared Device) (Call Device)) : Prop :=
  ∀ session, pool.shared.statuses session ≠ none →
    pool.shared.stops session = true ∨ session ∈ pool.shared.reported

variable [DecidableEq Device]

/-- A start call lets go of no handle that was not sent stop, and stores its own before
    the map is drained. -/
def LosesNone (pool : Pool (Shared Device) (Call Device)) (event : Event (Action Device)) : Prop :=
  InTime (fun _ => true) pool.shared (pool.threads event.1) event.2

/-- A start call stores its handle before the map is drained. -/
def StoresEarly (pool : Pool (Shared Device) (Call Device)) (event : Event (Action Device)) : Prop :=
  match pool.threads event.1, event.2 with
  | .spawned device _, .go =>
      pool.shared.deviceIsLive device = false → pool.shared.exit.isDrained = false
  | _, _ => True

/-- No handle of the session is in the map or drained. -/
structure Absent (me : Nat) (shared : Shared Device) : Prop where
  unstored : ∀ device id, shared.lookup device ≠ some ⟨me, id⟩
  undrained : ∀ handle ∈ shared.exit.handles, handle.session ≠ me
  unreported : me ∉ shared.reported

/-- A start call that has not stored a handle yet. -/
def Call.isFresh : Call Device → Bool
  | .idle | .spawning _ _ | .spawned _ _ => true
  | .started _ _ | .refused _ _ | .stopped => false

/-- What is known of a call's session in a run of start calls. -/
structure Sorted (me : Nat) (shared : Shared Device) (call : Call Device) : Prop where
  stored : ∀ device id, shared.lookup device = some ⟨me, id⟩ → call = .started device id
  drained : ∀ handle ∈ shared.exit.handles, handle.session = me →
    (∃ device id, call = .started device id) ∧ ∀ device id, shared.lookup device ≠ some ⟨me, id⟩
  spawned : (∃ device id, call = .spawned device id ∨ call = .started device id) →
    shared.statuses me ≠ none
  unstopped : call.isFresh = true → shared.stops me = false
  reported : me ∈ shared.reported → ∃ handle ∈ shared.exit.handles, handle.session = me

/-- Nothing will stop the session of a call. -/
structure Forgotten (me : Nat) (shared : Shared Device) (call : Call Device) : Prop where
  spawned : shared.statuses me ≠ none
  started : ∃ device id, call = .started device id
  unstopped : shared.stops me = false
  unreported : me ∉ shared.reported
  undrained : ∀ handle ∈ shared.exit.handles, handle.session ≠ me
  gone : shared.exit.isDrained = true ∨ ∀ device id, shared.lookup device ≠ some ⟨me, id⟩

/-- What a step that is not its own call's leaves of a session. -/
structure Leaves (session : Nat) (shared shared' : Shared Device) : Prop where
  lookup : ∀ device id, shared'.lookup device = some ⟨session, id⟩ →
    shared.lookup device = some ⟨session, id⟩
  kept : ∀ handle ∈ shared.exit.handles, handle ∈ shared'.exit.handles
  handles : ∀ handle ∈ shared'.exit.handles, handle.session = session →
    handle ∈ shared.exit.handles ∨
      shared.exit.isDrained = false ∧ (∃ device, shared.lookup device = some handle) ∧
        ∀ device id, shared'.lookup device ≠ some ⟨session, id⟩
  drained : shared.exit.isDrained = true → shared'.exit.isDrained = true
  spawned : shared.statuses session ≠ none → shared'.statuses session ≠ none
  stops : (∀ handle ∈ shared.exit.handles, handle.session ≠ session) →
    shared'.stops session = shared.stops session
  reported : session ∈ shared'.reported →
    session ∈ shared.reported ∨ ∃ handle ∈ shared.exit.handles, handle.session = session

theorem Leaves.of_same {session : Nat} {shared shared' : Shared Device}
    (lookup : ∀ device id, shared'.lookup device = some ⟨session, id⟩ →
      shared.lookup device = some ⟨session, id⟩)
    (spawned : shared.statuses session ≠ none → shared'.statuses session ≠ none)
    (stops : shared'.stops session = shared.stops session) (exit : shared'.exit = shared.exit)
    (reported : shared'.reported = shared.reported) : Leaves session shared shared' := by
  refine ⟨lookup, ?_, ?_, ?_, spawned, fun _ => stops, ?_⟩
  · rw [exit]
    exact fun _ inside => inside
  · rw [exit]
    exact fun _ inside _ => .inl inside
  · rw [exit]
    exact id
  · rw [reported]
    exact .inl

theorem Leaves.onward {session : Nat} {shared shared' : Shared Device}
    (onward : shared.exit.Onward shared'.exit) (store : shared'.store = shared.store)
    (statuses : shared'.statuses = shared.statuses)
    (stops : (∀ handle ∈ shared.exit.handles, handle.session ≠ session) →
      shared'.stops session = shared.stops session)
    (reported : session ∈ shared'.reported →
      session ∈ shared.reported ∨ ∃ handle ∈ shared.exit.handles, handle.session = session) :
    Leaves session shared shared' := by
  refine ⟨fun device id => ?_, ?_, ?_, fun _ => onward.still, ?_, stops, reported⟩
  · rw [Shared.lookup, store]
    exact fun stored => stored
  · rw [onward.handles]
    exact fun _ inside => inside
  · rw [onward.handles]
    exact fun _ inside _ => .inl inside
  · rw [statuses]
    exact id

theorem Exiting.leaves {shared shared' : Shared Device} (exiting : Exiting shared shared')
    (session : Nat) : Leaves session shared shared' := by
  cases exiting with
  | begin running =>
      refine ⟨fun _ _ => id, ?_, fun _ inside => (by cases inside), ?_, id, fun _ => rfl, .inl⟩
      · rw [running]
        exact fun _ inside => (by cases inside)
      · rw [running]
        exact fun drained => (by cases drained)
  | drain begun =>
      have empty : ∀ device, shared.drain.lookup device = none := AList.lookup_empty
      refine ⟨fun device id stored => ?_, ?_, fun handle inside _ => .inr ⟨?_, ?_, ?_⟩,
        fun _ => rfl, id, fun _ => rfl, .inl⟩
      · cases (empty device).symm.trans stored
      · rw [begun]
        exact fun _ inside => (by cases inside)
      · rw [begun]
        rfl
      · obtain ⟨⟨device, other⟩, entry, rfl⟩ := List.mem_map.mp inside
        exact ⟨device, AList.mem_lookup_iff.mpr entry⟩
      · intro device id stored
        cases (empty device).symm.trans stored
  | request handle exit held onward pending =>
      refine .onward onward rfl rfl (fun apart => ?_) .inl
      simp [Shared.requestStop, Shared.setExit, Function.update_of_ne (apart handle held).symm]
  | turn exit onward pending => exact .onward onward rfl rfl (fun _ => rfl) .inl
  | receive handle exit onward pending => exact .onward onward rfl rfl (fun _ => rfl) .inl
  | report handle exit held onward pending =>
      refine .onward onward rfl rfl (fun _ => rfl) fun inside => ?_
      rcases List.mem_cons.mp inside with rfl | inside
      · exact .inr ⟨handle, held, rfl⟩
      · exact .inl inside

theorem Leaves.setStatus {session other : Nat} (shared : Shared Device) (status : Status) :
    Leaves session shared (shared.setStatus other status) := by
  refine .of_same (fun _ _ => id) (fun spawned => ?_) rfl rfl rfl
  by_cases same : session = other
  · simp [Shared.setStatus, same]
  · simpa [Shared.setStatus, Function.update_of_ne same] using spawned

theorem Leaves.number {session : Nat} (shared : Shared Device) (device : Device) :
    Leaves session shared (shared.number device) := by
  refine .of_same (fun other id stored => ?_) id rfl rfl rfl
  by_cases same : other = device
  · subst same
    cases (AList.lookup_erase _ _).symm.trans stored
  · exact (AList.lookup_erase_ne same).symm.trans stored

theorem Leaves.insert {session me : Nat} (apart : session ≠ me) (shared : Shared Device)
    (device : Device) (id : Nat) : Leaves session shared (shared.insert device ⟨me, id⟩) := by
  refine .of_same (fun other id stored => ?_) (fun spawned => spawned) rfl rfl rfl
  by_cases same : other = device
  · subst same
    cases (AList.lookup_insert _).symm.trans stored
    exact absurd rfl apart
  · exact (AList.lookup_insert_ne same).symm.trans stored

/-- Steps of other calls, and of a call whose session is stored, leave a session alone. -/
theorem Step.leaves {me session : Nat} {shared shared' : Shared Device} {call call' : Call Device}
    {action : Action Device} (step : Step me shared call action shared' call')
    (starts : ∀ device, action ≠ .stop device)
    (apart : session = me → ∃ device id, call = .started device id) :
    Leaves session shared shared' := by
  cases step with
  | supervise => exact .setStatus ..
  | finish | refuse | fail => exact .of_same (fun _ _ => id) id rfl rfl rfl
  | reclaim call shared' exiting | expire call shared' exiting => exact exiting.leaves session
  | number device free => exact .number ..
  | spawn device id => exact .setStatus ..
  | turnAway device id live =>
      have other : session ≠ me := fun same => by
        obtain ⟨_, _, started⟩ := apart same
        cases started
      refine .of_same (fun _ _ => fun stored => stored) (fun spawned => spawned) ?_ rfl rfl
      simp [Shared.requestStop, Function.update_of_ne other]
  | insert device id free =>
      refine .insert (fun same => ?_) ..
      obtain ⟨_, _, started⟩ := apart same
      cases started
  | stop device => exact absurd rfl (starts device)

theorem Sorted.leaves {me : Nat} {shared shared' : Shared Device} {call : Call Device}
    (sorted : Sorted me shared call) (leaves : Leaves me shared shared') :
    Sorted me shared' call where
  stored := fun device id stored => sorted.stored device id (leaves.lookup device id stored)
  drained := by
    intro handle inside mine
    rcases leaves.handles handle inside mine with inside | ⟨-, ⟨device, stored⟩, gone⟩
    · obtain ⟨started, gone⟩ := sorted.drained handle inside mine
      exact ⟨started, fun device id stored => gone device id (leaves.lookup device id stored)⟩
    · subst mine
      exact ⟨⟨device, handle.id, sorted.stored device handle.id stored⟩, gone⟩
  spawned := fun call => leaves.spawned (sorted.spawned call)
  unstopped := by
    intro fresh
    refine (leaves.stops fun handle inside mine => ?_).trans (sorted.unstopped fresh)
    obtain ⟨⟨device, id, rfl⟩, -⟩ := sorted.drained handle inside mine
    cases fresh
  reported := by
    intro inside
    rcases leaves.reported inside with inside | ⟨handle, held, mine⟩
    · obtain ⟨handle, held, mine⟩ := sorted.reported inside
      exact ⟨handle, leaves.kept handle held, mine⟩
    · exact ⟨handle, leaves.kept handle held, mine⟩

theorem Forgotten.leaves {me : Nat} {shared shared' : Shared Device} {call : Call Device}
    (forgotten : Forgotten me shared call) (leaves : Leaves me shared shared') :
    Forgotten me shared' call where
  spawned := leaves.spawned forgotten.spawned
  started := forgotten.started
  unstopped := (leaves.stops forgotten.undrained).trans forgotten.unstopped
  unreported := by
    intro inside
    rcases leaves.reported inside with inside | ⟨handle, held, mine⟩
    · exact forgotten.unreported inside
    · exact forgotten.undrained handle held mine
  undrained := by
    intro handle inside mine
    rcases leaves.handles handle inside mine with inside | ⟨undrained, ⟨device, stored⟩, -⟩
    · exact forgotten.undrained handle inside mine
    · rcases forgotten.gone with drained | gone
      · cases undrained.symm.trans drained
      · subst mine
        exact gone device handle.id stored
  gone := forgotten.gone.imp leaves.drained fun gone device id stored =>
    gone device id (leaves.lookup device id stored)

theorem Sorted.absent {me : Nat} {shared : Shared Device} {call : Call Device}
    (sorted : Sorted me shared call) (other : ∀ device id, call ≠ .started device id) :
    Absent me shared := by
  have undrained : ∀ handle ∈ shared.exit.handles, handle.session ≠ me := by
    intro handle inside mine
    obtain ⟨⟨device, id, started⟩, -⟩ := sorted.drained handle inside mine
    exact other device id started
  refine ⟨fun device id stored => other device id (sorted.stored device id stored), undrained, ?_⟩
  intro inside
  obtain ⟨handle, held, mine⟩ := sorted.reported inside
  exact undrained handle held mine

theorem Absent.leaves {me : Nat} {shared shared' : Shared Device} (absent : Absent me shared)
    (leaves : Leaves me shared shared') : Absent me shared' where
  unstored := fun device id stored => absent.unstored device id (leaves.lookup device id stored)
  undrained := by
    intro handle inside mine
    rcases leaves.handles handle inside mine with inside | ⟨-, ⟨device, stored⟩, -⟩
    · exact absent.undrained handle inside mine
    · subst mine
      exact absent.unstored device handle.id stored
  unreported := by
    intro inside
    rcases leaves.reported inside with inside | ⟨handle, held, mine⟩
    · exact absent.unreported inside
    · exact absent.undrained handle held mine

theorem Sorted.of_absent {me : Nat} {shared : Shared Device} {call : Call Device}
    (absent : Absent me shared)
    (spawned : (∃ device id, call = .spawned device id ∨ call = .started device id) →
      shared.statuses me ≠ none)
    (unstopped : call.isFresh = true → shared.stops me = false) : Sorted me shared call where
  stored := fun device id stored => absurd stored (absent.unstored device id)
  drained := fun handle inside mine => absurd mine (absent.undrained handle inside)
  spawned := spawned
  unstopped := unstopped
  reported := fun inside => absurd inside absent.unreported

theorem Sorted.own {me : Nat} {shared shared' : Shared Device} {call call' : Call Device}
    {action : Action Device} (step : Step me shared call action shared' call')
    (starts : ∀ device, action ≠ .stop device) (sorted : Sorted me shared call) :
    Sorted me shared' call' := by
  cases step with
  | supervise => exact sorted.leaves (.setStatus ..)
  | finish => exact sorted.leaves (.of_same (fun _ _ => id) id rfl rfl rfl)
  | reclaim call shared' exiting | expire call shared' exiting =>
      exact sorted.leaves (exiting.leaves me)
  | number device free =>
      have absent := (sorted.absent fun _ _ => by simp).leaves (.number shared device)
      exact .of_absent absent (by simp) fun _ => sorted.unstopped rfl
  | spawn device id =>
      have leaves : Leaves me shared (shared.setStatus me .running) := .setStatus ..
      have absent := (sorted.absent fun _ _ => by simp).leaves leaves
      refine .of_absent absent (fun _ => ?_) fun _ => sorted.unstopped rfl
      simp [Shared.setStatus]
  | turnAway device id live =>
      have absent := sorted.absent fun _ _ => by simp
      exact .of_absent ⟨absent.unstored, absent.undrained, absent.unreported⟩ (by simp)
        (by simp [Call.isFresh])
  | insert device id free =>
      have absent := sorted.absent fun _ _ => by simp
      refine ⟨fun other number stored => ?_, fun handle inside mine => ?_, fun _ => ?_,
        fun fresh => (by cases fresh), fun inside => absurd inside absent.unreported⟩
      · by_cases same : other = device
        · subst same
          cases (AList.lookup_insert _).symm.trans stored
          rfl
        · exact absurd ((AList.lookup_insert_ne same).symm.trans stored)
            (absent.unstored other number)
      · exact absurd mine (absent.undrained handle inside)
      · exact sorted.spawned ⟨device, id, .inl rfl⟩
  | stop device => exact absurd rfl (starts device)
  | refuse device live | fail device id code =>
      exact .of_absent (sorted.absent fun _ _ => by simp) (by simp) (by simp [Call.isFresh])

def AllSorted : Pool (Shared Device) (Call Device) → Prop := Everywhere (fun _ => True) Sorted

theorem AllSorted.initial : AllSorted (initial : Pool (Shared Device) (Call Device)) := by
  refine ⟨trivial, fun i => .of_absent ⟨fun device id => ?_, ?_, ?_⟩ ?_ fun _ => rfl⟩
  · simp [Sessions.initial, Shared.lookup]
  · simp [Sessions.initial, Exit.handles]
  · simp [Sessions.initial]
  · simp [Sessions.initial]

theorem AllSorted.step {pool next : Pool (Shared Device) (Call Device)}
    {event : Event (Action Device)} (sorted : AllSorted pool) (starts : StartsOnly pool event)
    (stepped : Interleaving.step advance pool event = some next) : AllSorted next :=
  Everywhere.step sorted stepped
    (fun _ _ acted => ⟨trivial, .own (.of_advance acted) starts (sorted.2 event.1)⟩)
    (fun _ _ _ acted apart their =>
      their.leaves ((Step.of_advance acted).leaves starts fun same => absurd same apart))

/-- A session whose handle is let go of before it was sent stop is forgotten. -/
theorem Sorted.forgotten {session id : Nat} {shared shared' : Shared Device} {call : Call Device}
    {device : Device} (sorted : Sorted session shared call)
    (stored : shared.lookup device = some ⟨session, id⟩) (unstopped : shared.stops session = false)
    (same : shared' = { shared with store := shared'.store })
    (gone : ∀ id, shared'.lookup device ≠ some ⟨session, id⟩)
    (others : ∀ other, other ≠ device → shared'.lookup other = shared.lookup other) :
    Forgotten session shared' call := by
  obtain rfl := sorted.stored device id stored
  have undrained : ∀ handle ∈ shared.exit.handles, handle.session ≠ session :=
    fun handle inside mine => (sorted.drained handle inside mine).2 device id stored
  rw [same]
  refine ⟨sorted.spawned ⟨device, id, .inr rfl⟩, ⟨device, id, rfl⟩, unstopped, ?_, undrained, ?_⟩
  · intro inside
    obtain ⟨handle, held, mine⟩ := sorted.reported inside
    exact undrained handle held mine
  · refine .inr fun other number stored' => ?_
    by_cases here : other = device
    · subst here
      exact gone number stored'
    · have before := (others other here).symm.trans stored'
      have elsewhere := sorted.stored other number before
      simp only [Call.started.injEq] at elsewhere
      exact here elsewhere.1.symm

def Doomed (pool : Pool (Shared Device) (Call Device)) : Prop :=
  ∃ i, Forgotten i pool.shared (pool.threads i)

theorem Shared.not_vacant {shared : Shared Device} {device : Device}
    (occupied : ¬ shared.Vacant (fun _ => true) device) :
    ∃ handle, shared.lookup device = some handle ∧ shared.stops handle.session = false := by
  simp only [Shared.Vacant, not_forall] at occupied
  obtain ⟨handle, stored, -, unstopped⟩ := occupied
  exact ⟨handle, stored, Bool.not_eq_true _ ▸ unstopped⟩

/-- Where a start call takes the place of a handle that was not sent stop. -/
theorem Doomed.of_replaced {pool : Pool (Shared Device) (Call Device)} {me : Nat}
    {shared' : Shared Device} {call' : Call Device} {device : Device} (sorted : AllSorted pool)
    (acting : ∀ device id, pool.threads me ≠ .started device id)
    (occupied : ¬ pool.shared.Vacant (fun _ => true) device)
    (same : shared' = { pool.shared with store := shared'.store })
    (gone : ∀ session id, session ≠ me → shared'.lookup device ≠ some ⟨session, id⟩)
    (others : ∀ other, other ≠ device → shared'.lookup other = pool.shared.lookup other) :
    Doomed ⟨shared', Function.update pool.threads me call'⟩ := by
  obtain ⟨handle, stored, unstopped⟩ := Shared.not_vacant occupied
  have their := sorted.2 handle.session
  have other : handle.session ≠ me := fun mine =>
    acting device handle.id (mine ▸ their.stored device handle.id stored)
  refine ⟨handle.session, ?_⟩
  simp only [Function.update_of_ne other]
  exact their.forgotten stored unstopped same (fun id => gone handle.session id other) others

theorem Doomed.of_loss {pool next : Pool (Shared Device) (Call Device)}
    {event : Event (Action Device)} (sorted : AllSorted pool)
    (stepped : Interleaving.step advance pool event = some next) (loses : ¬ LosesNone pool event) :
    Doomed next := by
  obtain ⟨shared, own, acted, rfl⟩ := step_some stepped
  obtain ⟨me, action⟩ := event
  have step := Step.of_advance acted
  have mine := sorted.2 me
  unfold LosesNone at loses
  dsimp only at loses step ⊢
  generalize threads : pool.threads me = call at loses step mine
  cases step with
  | number device free =>
      have occupied : ¬ pool.shared.Vacant (fun _ => true) device :=
        fun vacant => loses fun _ => vacant
      refine .of_replaced sorted (by simp [threads]) occupied rfl (fun session id _ => ?_) ?_
      · simp [Shared.lookup, Shared.number]
      · exact fun _ apart => AList.lookup_erase_ne apart
  | insert device id free =>
      cases drained : pool.shared.exit.isDrained with
      | true =>
          have absent := mine.absent fun _ _ => by simp
          refine ⟨me, ?_⟩
          simp only [Function.update_self]
          exact ⟨mine.spawned ⟨device, id, .inl rfl⟩, ⟨device, id, rfl⟩, mine.unstopped rfl,
            absent.unreported, absent.undrained, .inl drained⟩
      | false =>
          have occupied : ¬ pool.shared.Vacant (fun _ => true) device :=
            fun vacant => loses fun _ => ⟨drained, vacant⟩
          refine .of_replaced sorted (by simp [threads]) occupied rfl (fun _ number apart => ?_) ?_
          · simpa [Shared.lookup, Shared.insert] using fun same => absurd same.symm apart
          · exact fun _ apart => AList.lookup_insert_ne apart
  | supervise | finish | reclaim | expire =>
      refine absurd ?_ loses
      cases own <;> trivial
  | refuse device live => exact absurd (fun free => by cases live.symm.trans free) loses
  | turnAway device id live => exact absurd (fun free => by cases live.symm.trans free) loses
  | spawn | stop | fail => exact absurd trivial loses

theorem Step.call_of_started {me id : Nat} {device : Device} {shared shared' : Shared Device}
    {call' : Call Device} {action : Action Device}
    (step : Step me shared (.started device id) action shared' call') :
    call' = .started device id := by
  cases step <;> rfl

theorem Doomed.step {pool next : Pool (Shared Device) (Call Device)}
    {event : Event (Action Device)} (doomed : Doomed pool) (starts : StartsOnly pool event)
    (stepped : Interleaving.step advance pool event = some next) : Doomed next := by
  obtain ⟨i, forgotten⟩ := doomed
  obtain ⟨shared, own, acted, rfl⟩ := step_some stepped
  have step := Step.of_advance acted
  refine ⟨i, ?_⟩
  by_cases mine : i = event.1
  · obtain ⟨device, id, started⟩ := forgotten.started
    subst mine
    have leaves : Leaves event.1 pool.shared shared :=
      step.leaves starts fun _ => ⟨device, id, started⟩
    have same : own = pool.threads event.1 := by
      rw [started] at step ⊢
      exact step.call_of_started
    simpa only [Function.update_self, same] using forgotten.leaves leaves
  · have leaves := step.leaves starts fun same => absurd same mine
    simpa only [Function.update_of_ne mine] using forgotten.leaves leaves

/-- Once the exiting process is through and no start call is under way, a session that
    counts was sent stop. -/
theorem AllAccounted.stopped {counts : Status → Bool} {pool : Pool (Shared Device) (Call Device)}
    (accounted : AllAccounted counts pool) {handles : List Handle} {timedOut : List Nat}
    (returned : pool.shared.exit = .returned handles timedOut)
    (settled : ∀ i, (pool.threads i).starting = none) {session : Nat}
    (counted : pool.shared.isCounted counts session = true) :
    pool.shared.stops session = true := by
  have spawned : pool.shared.statuses session ≠ none := by
    intro unspawned
    simp [Shared.isCounted, unspawned] at counted
  have mine := accounted.2 session
  have ended := settled session
  cases call : pool.threads session with
  | spawned =>
      rw [call] at ended
      cases ended
  | idle | spawning | stopped =>
      rw [call] at mine
      exact absurd mine spawned
  | refused =>
      rw [call] at mine
      exact mine.resolve_left spawned
  | started device id =>
      rw [call] at mine
      rcases mine counted with stopped | ⟨undrained, -⟩ | pending
      · exact stopped
      · rw [returned] at undrained
        cases undrained
      · rw [returned] at pending
        cases pending

/-- For what lives a start call has to store its handle early, and no more. -/
theorem StoresEarly.inTime {pool : Pool (Shared Device) (Call Device)}
    {event : Event (Action Device)} (early : StoresEarly pool event) :
    InTime Status.isLive pool.shared (pool.threads event.1) event.2 := by
  unfold InTime
  split
  · exact .of_free
  · rename_i call action
    intro free
    unfold StoresEarly at early
    rw [call, action] at early
    exact ⟨early free, .of_free free⟩
  · trivial

/-- In every run of start calls and the exiting process, once that is through and no start
    call is under way: every session spawned was sent stop or reported just when no start
    call stored its handle after the map was drained or let go of a handle that was not
    sent stop; and the former alone makes sure that what still lives was sent stop. -/
theorem reclaim_stops_iff (events : List (Event (Action Device)))
    (final : Pool (Shared Device) (Call Device)) (handles : List Handle) (timedOut : List Nat)
    (starts : Meets advance StartsOnly initial events) (ran : run advance initial events = some final)
    (returned : final.shared.exit = .returned handles timedOut)
    (settled : ∀ i, (final.threads i).starting = none) :
    (Reclaimed final ↔ Meets advance LosesNone initial events) ∧
      (Meets advance StoresEarly initial events → ∀ session,
        final.shared.isLive session = true → final.shared.stops session = true) := by
  refine ⟨⟨fun reclaimed => ?_, fun meets session spawned => .inl ?_⟩, fun early session live => ?_⟩
  · refine meets_of_not_doomed (fun _ _ _ => AllSorted.step) (fun _ _ _ => Doomed.of_loss)
      (fun _ _ _ => Doomed.step) .initial starts ran ?_
    rintro ⟨i, forgotten⟩
    rcases reclaimed i forgotten.spawned with stopped | reported
    · cases forgotten.unstopped.symm.trans stopped
    · exact forgotten.unreported reported
  · have accounted : AllAccounted (fun _ => true) final :=
      run_invariant (fun _ _ _ accounted inTime stepped => accounted.step .always inTime stepped)
        .initial meets ran
    refine accounted.stopped returned settled ?_
    obtain ⟨status, same⟩ := Option.ne_none_iff_exists'.mp spawned
    simp [Shared.isCounted, same]
  · have accounted : AllAccounted Status.isLive final := by
      exact run_invariant (fun _ _ _ accounted early stepped =>
        accounted.step .isLive (StoresEarly.inTime early) stepped) .initial early ran
    exact accounted.stopped returned settled live

instance (pool : Pool (Shared Device) (Call Device)) (event : Event (Action Device)) :
    Decidable (StartsOnly pool event) :=
  match h : event.2 with
  | .stop device => isFalse fun starts => starts device h
  | .start _ | .spawned _ | .go | .supervise _ _ | .finish _ | .reclaim | .expire =>
      isTrue fun device same => by cases h.symm.trans same

instance (pool : Pool (Shared Device) (Call Device)) (device : Device) :
    Decidable (pool.shared.Vacant (fun _ => true) device) :=
  match h : pool.shared.lookup device with
  | none => isTrue fun handle stored => by cases h.symm.trans stored
  | some handle =>
      decidable_of_iff (pool.shared.isCounted (fun _ => true) handle.session = true →
          pool.shared.stops handle.session = true)
        ⟨fun vacant other stored => Option.some.inj (h.symm.trans stored) ▸ vacant,
          fun vacant => vacant handle h⟩

instance (pool : Pool (Shared Device) (Call Device)) (event : Event (Action Device)) :
    Decidable (LosesNone pool event) := by
  unfold LosesNone InTime
  split <;> infer_instance

/-- A session on device 7 runs when the shell exits, is told to stop and waited for. -/
def exitWithSession : List (Event (Action Nat)) :=
  [(0, Action.start 7), (0, .spawned (.ok ())), (0, .go)] ++ List.replicate 6 (0, Action.reclaim) ++
    [(0, Action.supervise 0 .stopping), (0, .supervise 0 .exited), (0, .finish 0), (0, .reclaim),
      (0, .reclaim)]

theorem over_of_one (events : List (Event (Action Device))) (me : Nat)
    {final : Pool (Shared Device) (Call Device)} (ran : run advance initial events = some final)
    (only : ∀ event ∈ events, event.1 = me) (mine : (final.threads me).starting = none) (i : Nat) :
    (final.threads i).starting = none := by
  by_cases same : i = me
  · exact same ▸ mine
  · rw [run_untouched ran fun event inside other => same (other.symm.trans (only event inside))]
    rfl

theorem reclaim_stops_iff_exitWithSession :
    ∃ final, run advance initial exitWithSession = some final ∧
      final.shared.exit = .returned [⟨0, 1⟩] [] ∧ Reclaimed final :=
  ⟨_, rfl, rfl,
    (reclaim_stops_iff exitWithSession _ [⟨0, 1⟩] [] (by decide) rfl rfl
      (over_of_one exitWithSession 0 rfl (by decide) rfl)).1.mpr (by decide)⟩

/-- A start call has its handle in hand when the map is drained. -/
def storedLate : List (Event (Action Nat)) :=
  [(0, Action.start 7), (0, .spawned (.ok ()))] ++ List.replicate 5 (0, Action.reclaim) ++
    [(0, Action.go)]

theorem reclaim_misses_late_session :
    ¬ ∀ (events : List (Event (Action Nat))) final handles timedOut,
      Meets advance StartsOnly initial events → run advance initial events = some final →
      final.shared.exit = .returned handles timedOut →
      (∀ i, (final.threads i).starting = none) → Reclaimed final := by
  intro claimed
  obtain ⟨final, ran, exit, settled, running, unstopped, unreported⟩ : ∃ final,
      run advance initial storedLate = some final ∧ final.shared.exit = .returned [] [] ∧
      (final.threads 0).starting = none ∧ final.shared.statuses 0 = some .running ∧
      final.shared.stops 0 = false ∧ final.shared.reported = [] :=
    ⟨_, rfl, rfl, rfl, rfl, rfl, rfl⟩
  have reclaimed := claimed storedLate final [] [] (by decide) ran exit
    (over_of_one storedLate 0 ran (by decide) settled)
  rcases reclaimed 0 (by simp [running]) with stopped | reported
  · cases unstopped.symm.trans stopped
  · rw [unreported] at reported
    cases reported

end QuadControl.Gui.Sessions
