import QuadControl.Gui.Sessions

/-! # Handles of live sessions

A start call looks at its device's handle before it spawns a session and again when it
has one in hand, and leaves the handle of a live session where it is: so until the map
is drained every live session can still be stopped, or has been.
-/

namespace QuadControl.Gui.Sessions

open Lib Lib.Interleaving

variable {Device : Type}

/-- The device a start call that is under way is for. -/
def Call.starting : Call Device → Option Device
  | .spawning device _ | .spawned device _ => some device
  | _ => none

/-- The device a start call is for, under way or not. -/
def Call.device : Call Device → Option Device
  | .spawning device _ | .spawned device _ | .started device _ | .refused device _ => some device
  | .idle | .stopped => none

/-- A call that has a session's handle in hand. -/
def Call.inHand : Call Device → Bool
  | .spawned _ _ => true
  | _ => false

variable [DecidableEq Device]

/-! ### What can still be stopped -/

/-- A session that has been spawned and that counts: all of them, or those that live. -/
def Shared.isCounted (counts : Status → Bool) (shared : Shared Device) (session : Nat) : Bool :=
  (shared.statuses session).any counts

/-- The handle is in the map, to be drained, or drained, to be told to stop. -/
def Shared.Reaches (shared : Shared Device) (device : Device) (handle : Handle) : Prop :=
  shared.exit.isDrained = false ∧ shared.lookup device = some handle ∨
    handle ∈ shared.exit.pending

/-- Nothing that counts is left in a device's place unless it has been sent stop. -/
def Shared.Vacant (counts : Status → Bool) (shared : Shared Device) (device : Device) : Prop :=
  ∀ handle, shared.lookup device = some handle →
    shared.isCounted counts handle.session = true → shared.stops handle.session = true

/-- A start call takes only what is vacant, and stores its handle before the map is
    drained. -/
def InTime (counts : Status → Bool) (shared : Shared Device) : Call Device → Action Device → Prop
  | .idle, .start device => shared.deviceIsLive device = false → shared.Vacant counts device
  | .spawned device _, .go =>
      shared.deviceIsLive device = false →
        shared.exit.isDrained = false ∧ shared.Vacant counts device
  | _, _ => True

/-- Where the session of a call is as long as it counts. -/
def Accounted (counts : Status → Bool) (me : Nat) (shared : Shared Device) : Call Device → Prop
  | .idle | .spawning _ _ | .stopped => shared.statuses me = none
  | .spawned _ _ => True
  | .started device id =>
      shared.isCounted counts me = true →
        shared.stops me = true ∨ shared.Reaches device ⟨me, id⟩
  | .refused _ _ => shared.statuses me = none ∨ shared.stops me = true

/-- A session that has ended does not come to count. -/
def Closed (counts : Status → Bool) : Prop :=
  ∀ (told : Bool) (old new : Status), old.follows told new = true → counts new = true →
    counts old = true

/-- What is known of a session stays so. -/
structure Keeps (counts : Status → Bool) (session : Nat) (shared shared' : Shared Device) :
    Prop where
  unspawned : shared.statuses session = none → shared'.statuses session = none
  counted : shared'.isCounted counts session = true → shared.isCounted counts session = true
  stops : shared.stops session = true → shared'.stops session = true
  reaches : ∀ device id, shared.isCounted counts session = true →
    shared.Reaches device ⟨session, id⟩ →
    shared'.stops session = true ∨ shared.stops session = true ∨
      shared'.Reaches device ⟨session, id⟩

variable {counts : Status → Bool}

theorem Status.isLive_of_follows {told : Bool} {old new : Status}
    (follows : old.follows told new = true) : old.isLive = true := by
  cases old <;> cases new <;> first | rfl | cases follows

theorem Closed.isLive : Closed Status.isLive :=
  fun _ _ _ follows _ => Status.isLive_of_follows follows

theorem Closed.always : Closed fun _ => true := fun _ _ _ _ _ => rfl

theorem Shared.Vacant.of_free {shared : Shared Device} {device : Device}
    (free : shared.deviceIsLive device = false) : shared.Vacant Status.isLive device := by
  intro handle stored live
  have : shared.isLive handle.session = true := live
  simp [deviceIsLive, stored, this] at free

theorem Shared.Reaches.mono {shared shared' : Shared Device} {device : Device} {handle : Handle}
    (reaches : shared.Reaches device handle) (exit : shared'.exit = shared.exit)
    (lookup : shared.lookup device = some handle → shared'.lookup device = some handle) :
    shared'.Reaches device handle := by
  unfold Shared.Reaches at reaches ⊢
  rw [exit]
  exact reaches.imp_left fun stored => ⟨stored.1, lookup stored.2⟩

theorem Accounted.keeps {me : Nat} {shared shared' : Shared Device} {call : Call Device}
    (accounted : Accounted counts me shared call) (keeps : Keeps counts me shared shared') :
    Accounted counts me shared' call := by
  cases call with
  | idle | spawning | stopped => exact keeps.unspawned accounted
  | spawned => trivial
  | started device id =>
      intro counted
      have before := keeps.counted counted
      rcases accounted before with stopped | reaches
      · exact .inl (keeps.stops stopped)
      · rcases keeps.reaches device id before reaches with stopped | stopped | reaches
        · exact .inl stopped
        · exact .inl (keeps.stops stopped)
        · exact .inr reaches
  | refused => exact accounted.imp keeps.unspawned keeps.stops

/-! ### What the changes of the shared state keep -/

theorem Keeps.of_same {session : Nat} {shared shared' : Shared Device}
    (statuses : shared'.statuses session = shared.statuses session)
    (stops : shared.stops session = true → shared'.stops session = true)
    (exit : shared'.exit = shared.exit) (store : shared'.store = shared.store) :
    Keeps counts session shared shared' := by
  refine ⟨?_, ?_, stops, fun device id _ reaches => ?_⟩
  · simp only [statuses, imp_self]
  · simp only [Shared.isCounted, statuses, imp_self]
  · refine .inr (.inr (reaches.mono exit fun stored => ?_))
    simpa only [Shared.lookup, store] using stored

theorem Keeps.refl (session : Nat) (shared : Shared Device) : Keeps counts session shared shared :=
  .of_same rfl id rfl rfl

theorem Keeps.setStatus (closed : Closed counts) (session : Nat) {shared : Shared Device}
    {other : Nat} {old status : Status} (was : shared.statuses other = some old)
    (follows : old.follows (shared.stops other) status = true) :
    Keeps counts session shared (shared.setStatus other status) := by
  by_cases same : session = other
  · subst same
    refine ⟨fun unspawned => ?_, fun counted => ?_, id, fun device number _ reaches => ?_⟩
    · cases was.symm.trans unspawned
    · have counted' : counts status = true := by
        simpa [Shared.isCounted, Shared.setStatus] using counted
      simpa [Shared.isCounted, was] using closed _ old status follows counted'
    · exact .inr (.inr (reaches.mono rfl id))
  · exact .of_same (by simp [Shared.setStatus, Function.update_of_ne same]) id rfl rfl

/-- A session that is spawned is another one. -/
theorem Keeps.spawn {session other : Nat} (apart : session ≠ other) (shared : Shared Device) :
    Keeps counts session shared (shared.setStatus other .running) :=
  .of_same (by simp [Shared.setStatus, Function.update_of_ne apart]) id rfl rfl

omit [DecidableEq Device] in
theorem Shared.stops_requestStop {shared : Shared Device} {session other : Nat}
    (stopped : shared.stops session = true) : (shared.requestStop other).stops session = true := by
  by_cases same : session = other
  · subst same
    simp [requestStop]
  · simpa [requestStop, Function.update_of_ne same] using stopped

theorem Keeps.requestStop (session other : Nat) (shared : Shared Device) :
    Keeps counts session shared (shared.requestStop other) :=
  .of_same rfl Shared.stops_requestStop rfl rfl

theorem Keeps.stopDevice (session : Nat) (shared : Shared Device) (device : Device) :
    Keeps counts session shared (shared.stopDevice device) := by
  unfold Shared.stopDevice
  split
  · exact .refl ..
  · exact .requestStop ..

/-- A vacant device's handle goes, or another takes its place. -/
theorem Keeps.replace {session : Nat} {shared shared' : Shared Device} {device : Device}
    (vacant : shared.Vacant counts device) (statuses : shared'.statuses = shared.statuses)
    (stops : shared'.stops = shared.stops) (exit : shared'.exit = shared.exit)
    (elsewhere : ∀ other, other ≠ device → shared'.lookup other = shared.lookup other) :
    Keeps counts session shared shared' := by
  refine ⟨?_, ?_, ?_, fun other id counted reaches => ?_⟩
  · simp only [statuses, imp_self]
  · simp only [Shared.isCounted, statuses, imp_self]
  · simp only [stops, imp_self]
  · rcases reaches with ⟨undrained, stored⟩ | pending
    · by_cases same : other = device
      · subst same
        exact .inr (.inl (vacant ⟨session, id⟩ stored counted))
      · refine .inr (.inr (.inl ⟨?_, (elsewhere other same).trans stored⟩))
        rw [exit]
        exact undrained
    · refine .inr (.inr (.inr ?_))
      rw [exit]
      exact pending

theorem Keeps.number (session : Nat) {shared : Shared Device} {device : Device}
    (vacant : shared.Vacant counts device) :
    Keeps counts session shared (shared.number device) :=
  .replace vacant rfl rfl rfl fun _ apart => AList.lookup_erase_ne apart

theorem Keeps.insert (session : Nat) {shared : Shared Device} {device : Device} (handle : Handle)
    (vacant : shared.Vacant counts device) :
    Keeps counts session shared (shared.insert device handle) :=
  .replace vacant rfl rfl rfl fun _ apart => AList.lookup_insert_ne apart

/-- The handles that are drained are told to stop, and no other step of the exiting
    process lets go of one. -/
theorem Exiting.keeps {shared shared' : Shared Device} (exiting : Exiting shared shared')
    (session : Nat) : Keeps counts session shared shared' := by
  cases exiting with
  | begin running =>
      refine ⟨id, id, id, fun device id _ reaches => .inr (.inr ?_)⟩
      rcases reaches with stored | pending
      · exact .inl ⟨rfl, stored.2⟩
      · rw [running] at pending
        cases pending
  | drain begun =>
      refine ⟨id, id, id, fun device id _ reaches => .inr (.inr ?_)⟩
      rcases reaches with stored | pending
      · refine .inr (List.mem_map.mpr ⟨⟨device, ⟨session, id⟩⟩, ?_, rfl⟩)
        exact AList.mem_lookup_iff.mp stored.2
      · rw [begun] at pending
        cases pending
  | request handle exit held onward pending =>
      refine ⟨id, id, Shared.stops_requestStop, fun device id _ reaches => ?_⟩
      rcases reaches with stored | waits
      · cases onward.drained.symm.trans stored.1
      · rcases pending _ waits with rfl | waits
        · exact .inl (by simp [Shared.requestStop, Shared.setExit])
        · exact .inr (.inr (.inr waits))
  | turn exit onward pending | receive handle exit onward pending
  | report handle exit held onward pending =>
      refine ⟨id, id, id, fun device id _ reaches => ?_⟩
      rcases reaches with stored | waits
      · cases onward.drained.symm.trans stored.1
      · rw [pending] at waits
        cases waits

/-- Steps of others keep what is known of a session. -/
theorem Step.keeps {me session : Nat} {shared shared' : Shared Device} {call call' : Call Device}
    {action : Action Device} (closed : Closed counts)
    (step : Step me shared call action shared' call') (inTime : InTime counts shared call action)
    (other : session ≠ me) : Keeps counts session shared shared' := by
  cases step with
  | supervise call id status old was follows => exact .setStatus closed session was follows
  | finish => exact .of_same rfl id rfl rfl
  | reclaim call shared' exiting | expire call shared' exiting => exact exiting.keeps session
  | number device free => exact .number session (inTime free)
  | spawn device id => exact .spawn other shared
  | turnAway device id live => exact .requestStop ..
  | insert device id free => exact .insert session _ (inTime free).2
  | stop device => exact .stopDevice ..
  | refuse | fail => exact .refl ..

theorem Accounted.own {me : Nat} {shared shared' : Shared Device} {call call' : Call Device}
    {action : Action Device} (closed : Closed counts)
    (step : Step me shared call action shared' call') (inTime : InTime counts shared call action)
    (accounted : Accounted counts me shared call) : Accounted counts me shared' call' := by
  cases step with
  | supervise call id status old was follows =>
      exact accounted.keeps (.setStatus closed me was follows)
  | finish => exact accounted.keeps (.of_same rfl id rfl rfl)
  | reclaim call shared' exiting | expire call shared' exiting =>
      exact accounted.keeps (exiting.keeps me)
  | number device free => exact accounted
  | spawn device id => trivial
  | turnAway device id live => exact .inr (by simp [Shared.requestStop])
  | insert device id free =>
      intro counted
      exact .inr (.inl ⟨(inTime free).1, by simp [Shared.lookup, Shared.insert]⟩)
  | stop device =>
      have kept : Keeps counts me shared (shared.stopDevice device) := .stopDevice ..
      exact kept.unspawned accounted
  | refuse device | fail device id code => exact .inl accounted

def AllAccounted (counts : Status → Bool) : Pool (Shared Device) (Call Device) → Prop :=
  Everywhere (fun _ => True) (Accounted counts)

theorem AllAccounted.initial : AllAccounted counts (initial : Pool (Shared Device) (Call Device)) :=
  ⟨trivial, fun _ => rfl⟩

theorem AllAccounted.step (closed : Closed counts) {pool next : Pool (Shared Device) (Call Device)}
    {event : Event (Action Device)} (accounted : AllAccounted counts pool)
    (inTime : InTime counts pool.shared (pool.threads event.1) event.2)
    (stepped : Interleaving.step advance pool event = some next) : AllAccounted counts next :=
  Everywhere.step accounted stepped
    (fun _ _ acted =>
      ⟨trivial, .own closed (.of_advance acted) inTime (accounted.2 event.1)⟩)
    (fun _ _ _ acted apart their =>
      their.keeps (Step.keeps closed (.of_advance acted) inTime apart))

/-! ### Until the shell exits -/

/-- The exiting process has not come to `reclaim_sessions`. -/
def StaysOpen (_pool : Pool (Shared Device) (Call Device)) (event : Event (Action Device)) : Prop :=
  event.2.isExit = false

/-- Every live session can be stopped. -/
structure Controlled (pool : Pool (Shared Device) (Call Device)) : Prop where
  /-- The handle of a live session stays where it is. -/
  kept : ∀ event next device handle, event.2.isExit = false →
    step advance pool event = some next → pool.shared.lookup device = some handle →
    pool.shared.isLive handle.session = true → next.shared.lookup device = some handle
  /-- A live session was sent stop, or its handle is in its call's hands, or stored. -/
  held : ∀ i, pool.shared.isLive i = true → pool.shared.stops i = true ∨
    (pool.threads i).inHand = true ∨ ∃ device id, (pool.threads i).device = some device ∧
      pool.shared.lookup device = some ⟨i, id⟩
  /-- Two live sessions of a device are not both left alone once its start calls are over. -/
  single : ∀ device, (∀ i, (pool.threads i).starting ≠ some device) → ∀ i j,
    (pool.threads i).device = some device → (pool.threads j).device = some device →
    pool.shared.isLive i = true → pool.shared.isLive j = true →
    pool.shared.stops i = false → pool.shared.stops j = false → i = j

theorem Shared.apart_of_free {shared : Shared Device} {device other : Device} {handle : Handle}
    (free : shared.deviceIsLive device = false) (stored : shared.lookup other = some handle)
    (live : shared.isLive handle.session = true) : other ≠ device := by
  rintro rfl
  simp [deviceIsLive, stored, live] at free

theorem Step.lookup_kept {me : Nat} {shared shared' : Shared Device} {call call' : Call Device}
    {action : Action Device} (step : Step me shared call action shared' call')
    (running : action.isExit = false) {device : Device} {handle : Handle}
    (stored : shared.lookup device = some handle) (live : shared.isLive handle.session = true) :
    shared'.lookup device = some handle := by
  cases step with
  | reclaim | expire => cases running
  | number other free =>
      have apart := Shared.apart_of_free free stored live
      exact (AList.lookup_erase_ne apart).trans stored
  | insert other id free =>
      have apart := Shared.apart_of_free free stored live
      exact (AList.lookup_insert_ne apart).trans stored
  | stop other =>
      unfold Shared.stopDevice
      split <;> exact stored
  | supervise | finish | spawn | turnAway | refuse | fail => exact stored

theorem Step.exit_eq {me : Nat} {shared shared' : Shared Device} {call call' : Call Device}
    {action : Action Device} (step : Step me shared call action shared' call')
    (running : action.isExit = false) : shared'.exit = shared.exit := by
  cases step with
  | reclaim | expire => cases running
  | stop other =>
      unfold Shared.stopDevice
      split <;> rfl
  | supervise | finish | number | spawn | turnAway | insert | refuse | fail => rfl

/-- Before the map is drained a start call is in time for all that live. -/
theorem InTime.of_undrained {shared : Shared Device} (undrained : shared.exit.isDrained = false)
    (call : Call Device) (action : Action Device) : InTime Status.isLive shared call action := by
  unfold InTime
  split
  · exact .of_free
  · intro free
    exact ⟨undrained, .of_free free⟩
  · trivial

/-- What holds until the shell exits. -/
structure Open (pool : Pool (Shared Device) (Call Device)) : Prop where
  accounted : AllAccounted Status.isLive pool
  running : pool.shared.exit = .running

theorem Open.step {pool next : Pool (Shared Device) (Call Device)} {event : Event (Action Device)}
    (before : Open pool) (running : StaysOpen pool event)
    (stepped : Interleaving.step advance pool event = some next) : Open next := by
  have undrained : pool.shared.exit.isDrained = false := by
    rw [before.running]
    rfl
  have inTime := InTime.of_undrained undrained (pool.threads event.1) event.2
  refine ⟨before.accounted.step .isLive inTime stepped, ?_⟩
  obtain ⟨shared, own, acted, rfl⟩ := step_some stepped
  exact ((Step.of_advance acted).exit_eq running).trans before.running

theorem Open.held {pool : Pool (Shared Device) (Call Device)} (before : Open pool) (i : Nat)
    (live : pool.shared.isLive i = true) :
    pool.shared.stops i = true ∨ (pool.threads i).inHand = true ∨
      ∃ device id, (pool.threads i).device = some device ∧
        pool.shared.lookup device = some ⟨i, id⟩ := by
  have mine := before.accounted.2 i
  have spawned : pool.shared.statuses i ≠ none := by
    intro unspawned
    simp [Shared.isLive, unspawned] at live
  cases call : pool.threads i with
  | idle | spawning | stopped =>
      rw [call] at mine
      exact absurd mine spawned
  | spawned => exact .inr (.inl rfl)
  | started device id =>
      rw [call] at mine
      rcases mine live with stopped | ⟨-, stored⟩ | pending
      · exact .inl stopped
      · exact .inr (.inr ⟨device, id, rfl, stored⟩)
      · rw [before.running] at pending
        cases pending
  | refused =>
      rw [call] at mine
      exact .inl (mine.resolve_left spawned)

theorem Open.controlled {pool : Pool (Shared Device) (Call Device)} (before : Open pool) :
    Controlled pool where
  kept := by
    intro event next device handle running stepped stored live
    obtain ⟨shared, own, acted, rfl⟩ := step_some stepped
    exact (Step.of_advance acted).lookup_kept running stored live
  held := before.held
  single := by
    intro device settled i j ofI ofJ liveI liveJ unstoppedI unstoppedJ
    have stored : ∀ k, (pool.threads k).device = some device → pool.shared.isLive k = true →
        pool.shared.stops k = false → ∃ id, pool.shared.lookup device = some ⟨k, id⟩ := by
      intro k ofK live unstopped
      rcases before.held k live with stopped | inHand | ⟨other, id, ofK', stored⟩
      · cases stopped.symm.trans unstopped
      · refine absurd ?_ (settled k)
        cases call : pool.threads k with
        | spawned => rwa [call] at ofK
        | _ =>
            rw [call] at inHand
            cases inHand
      · obtain rfl := Option.some.inj (ofK.symm.trans ofK')
        exact ⟨id, stored⟩
    obtain ⟨idI, storedI⟩ := stored i ofI liveI unstoppedI
    obtain ⟨idJ, storedJ⟩ := stored j ofJ liveJ unstoppedJ
    exact congrArg Handle.session (Option.some.inj (storedI.symm.trans storedJ))

/-- In every run before the shell exits, every live session can be stopped. -/
theorem sessions_controlled (events : List (Event (Action Device)))
    (final : Pool (Shared Device) (Call Device)) (staysOpen : Meets advance StaysOpen initial events)
    (ran : run advance initial events = some final) : Controlled final := by
  have start : Open (initial : Pool (Shared Device) (Call Device)) := ⟨.initial, rfl⟩
  have last : Open final :=
    run_invariant (fun _ _ _ before running stepped => before.step running stepped) start staysOpen
      ran
  exact last.controlled

instance (pool : Pool (Shared Device) (Call Device)) (event : Event (Action Device)) :
    Decidable (StaysOpen pool event) :=
  inferInstanceAs (Decidable (event.2.isExit = false))

/-- Two start calls for device 7 spawn a session each, and the later one is turned away;
    the session is stopped then. -/
def twoStarts : List (Event (Action Nat)) :=
  [(0, .start 7), (1, .start 7), (0, .spawned (.ok ())), (1, .spawned (.ok ())), (1, .go), (0, .go),
    (2, .stop 7), (0, .supervise 1 .stopping)]

theorem sessions_controlled_twoStarts :
    ∃ final, run advance initial twoStarts = some final ∧ Controlled final :=
  ⟨_, rfl, sessions_controlled twoStarts _ (by decide) rfl⟩

/-- The session on device 7 ends by itself, and the next start call takes its place. -/
def replaced : List (Event (Action Nat)) :=
  [(0, .start 7), (0, .spawned (.ok ())), (0, .go), (0, .supervise 0 .exited), (1, .start 7)]

/-- The handle of a live session on device 7 is still in the hands of its call. -/
def notYetStored : List (Event (Action Nat)) := [(0, .start 7), (0, .spawned (.ok ()))]

theorem sessions_not_stored :
    (∃ final, run advance initial notYetStored = some final ∧ final.shared.isLive 0 = true ∧
      final.shared.store.sessions.entries = [] ∧ final.shared.stops 0 = false) ∧
    ¬ ∀ (events : List (Event (Action Nat))) final, Meets advance StaysOpen initial events →
      run advance initial events = some final → ∀ session status,
        final.shared.statuses session = some status →
          (∃ device id, final.shared.lookup device = some ⟨session, id⟩) ∨
            final.shared.stops session = true := by
  refine ⟨⟨_, rfl, rfl, rfl, rfl⟩, fun claimed => ?_⟩
  obtain ⟨final, ran, exited, sessions, unstopped⟩ : ∃ final,
      run advance initial replaced = some final ∧ final.shared.statuses 0 = some .exited ∧
      final.shared.store.sessions.entries = [] ∧ final.shared.stops 0 = false :=
    ⟨_, rfl, rfl, rfl, rfl⟩
  rcases claimed replaced final (by decide) ran 0 .exited exited with ⟨device, id, stored⟩ | stopped
  · simp [Shared.lookup, AList.lookup, sessions] at stored
  · cases unstopped.symm.trans stopped

end QuadControl.Gui.Sessions
