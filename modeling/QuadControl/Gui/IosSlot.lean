import QuadControl.Gui.IosSession

/-! # The slot and its placeholder

A start call leaves a placeholder in the slot while it spawns its session outside the
lock. The placeholder is the only right to spawn, and goes when its call comes back;
so sessions are started one at a time, and one is live at most.
-/

namespace QuadControl.Gui.Ios

open Lib Lib.Interleaving

variable {Device : Type}

theorem Shared.stopSlot_stopped {shared : Shared Device} {id : Nat}
    (stopped : id ∈ shared.stopSlot.ledger.stopped) :
    id ∈ shared.ledger.stopped ∨ ∃ udid, shared.session = some (id, udid) := by
  unfold stopSlot at stopped
  split at stopped
  · exact .inl stopped
  · rename_i other udid inSlot
    rcases List.mem_cons.mp stopped with rfl | stopped
    · exact .inr ⟨udid, inSlot⟩
    · exact .inl stopped

theorem Status.isLive_of_follows {old new : Status} (follows : old.follows new = true) :
    old.isLive = true := by
  cases old <;> cases new <;> first | rfl | cases follows

theorem Shared.slotIsLive_of_starting {shared : Shared Device} {caller id : Nat} {udid : Device}
    (placeholder : shared.store.slot = some (.starting caller id udid)) :
    shared.slotIsLive = true := by
  simp [slotIsLive, placeholder, iosSlotIsLive]

/-! ### One session at a time -/

/-- The session a start call has not spawned yet, or could not. -/
def Call.unspawned : Call Device → Option Nat
  | .spawning _ id | .failing _ id _ => some id
  | _ => none

/-- A live session is the one in the slot, and the sessions seen are those numbered. -/
structure Single (shared : Shared Device) : Prop where
  live : ∀ id, (shared.statuses id).isLive = true → ∃ udid, shared.session = some (id, udid)
  numbered : ∀ id udid, shared.session = some (id, udid) → id < shared.store.nextId
  stopped : ∀ id ∈ shared.ledger.stopped, id < shared.store.nextId

/-- A start call has its placeholder in the slot exactly while it is at it, and what it
    has not spawned is not live. -/
structure Placed (me : Nat) (shared : Shared Device) (call : Call Device) : Prop where
  holds : ∀ id udid,
    shared.store.slot = some (.starting me id udid) ↔ call.installing = some (id, udid)
  unspawned : ∀ id, call.unspawned = some id → (shared.statuses id).isLive = false

theorem Call.installing_of_unspawned {call : Call Device} {id : Nat}
    (unspawned : call.unspawned = some id) : ∃ udid, call.installing = some (id, udid) := by
  cases call with
  | spawning start | failing start =>
      obtain rfl := Option.some.inj unspawned
      exact ⟨start.udid, rfl⟩
  | _ => cases unspawned

theorem Call.installing_of_isPoll {call : Call Device} (poll : call.isPoll = true) :
    call.installing = none := by
  cases call <;> first | rfl | cases poll

theorem Call.installing_of_isQuery {call : Call Device} (query : call.isQuery = true) :
    call.installing = none := by
  cases call <;> first | rfl | cases query

/-- Without a placeholder of its own a call has nothing to answer for. -/
theorem Placed.of_none {me : Nat} {shared : Shared Device} {call : Call Device}
    (absent : ∀ id udid, shared.store.slot ≠ some (.starting me id udid))
    (away : call.installing = none) : Placed me shared call where
  holds := fun id udid =>
    ⟨fun placeholder => absurd placeholder (absent id udid), fun installing => by
      rw [away] at installing
      cases installing⟩
  unspawned := by
    intro id unspawned
    obtain ⟨udid, installing⟩ := Call.installing_of_unspawned unspawned
    rw [away] at installing
    cases installing

theorem Placed.absent {me : Nat} {shared : Shared Device} {call : Call Device}
    (placed : Placed me shared call) (away : call.installing = none) (id : Nat) (udid : Device) :
    shared.store.slot ≠ some (.starting me id udid) := by
  intro placeholder
  have installing := (placed.holds id udid).mp placeholder
  rw [away] at installing
  cases installing

/-- A step that leaves the slot and its own placeholder leaves the call in order. -/
theorem Placed.same {me : Nat} {shared shared' : Shared Device} {call call' : Call Device}
    (placed : Placed me shared call) (away : call.installing = none)
    (away' : call'.installing = none) (slot : shared'.store.slot = shared.store.slot) :
    Placed me shared' call' :=
  .of_none (fun id udid => slot ▸ placed.absent away id udid) away'

theorem Single.same {shared shared' : Shared Device} (single : Single shared)
    (slot : shared'.store.slot = shared.store.slot)
    (statuses : shared'.statuses = shared.statuses)
    (nextId : shared'.store.nextId = shared.store.nextId)
    (stopped : ∀ id ∈ shared'.ledger.stopped,
      id ∈ shared.ledger.stopped ∨ ∃ udid, shared.session = some (id, udid)) :
    Single shared' where
  live := by
    simpa only [statuses, Shared.session, slot] using single.live
  numbered := by
    simpa only [nextId, Shared.session, slot] using single.numbered
  stopped := by
    intro id inside
    rw [nextId]
    rcases stopped id inside with inside | ⟨udid, inSlot⟩
    · exact single.stopped id inside
    · exact single.numbered id udid inSlot

/-- No session is live that the slot does not show to be. -/
theorem Single.free {shared : Shared Device} (single : Single shared)
    (free : shared.slotIsLive = false) (id : Nat) : (shared.statuses id).isLive = false := by
  by_contra live
  obtain ⟨udid, inSlot⟩ := single.live id (Bool.not_eq_false _ ▸ live)
  simp only [Shared.session, Option.bind_eq_some_iff] at inSlot
  obtain ⟨slot, present, session⟩ := inSlot
  simp only [Shared.slotIsLive, present, Option.any_some] at free
  cases slot with
  | starting => cases free
  | failed => cases session
  | handle other =>
      obtain ⟨rfl, -⟩ := Prod.mk.inj (Option.some.inj session)
      exact live free

theorem Placed.own {me : Nat} {shared shared' : Shared Device} {call call' : Call Device}
    {action : Action Device} (step : Step me shared call action shared' call')
    (single : Single shared) (placed : Placed me shared call) :
    Single shared' ∧ Placed me shared' call' := by
  cases step with
  | supervise call id status follows =>
      have wasLive := Status.isLive_of_follows follows
      refine ⟨⟨fun other live => ?_, single.numbered, single.stopped⟩, placed.holds,
        fun other unspawned => ?_⟩
      · by_cases same : other = id
        · exact single.live other (same ▸ wasLive)
        · apply single.live other
          simpa [Shared.setStatus, Function.update_of_ne same] using live
      · have dead := placed.unspawned other unspawned
        have different : other ≠ id := by
          rintro rfl
          cases dead.symm.trans wasLive
        simpa [Shared.setStatus, Function.update_of_ne different] using dead
  | refuse | reject =>
      exact ⟨single, placed.same rfl rfl rfl⟩
  | record =>
      exact ⟨single.same rfl rfl rfl fun _ => .inl, placed.same rfl rfl rfl⟩
  | place start free =>
      refine ⟨⟨fun id live => ?_, fun id udid inSlot => ?_, fun id stopped => ?_⟩,
        fun id udid => ?_, fun id unspawned => ?_⟩
      · cases (single.free free id).symm.trans live
      · obtain ⟨rfl, -⟩ := Prod.mk.inj (Option.some.inj inSlot)
        exact Nat.lt_succ_self _
      · exact Nat.lt_succ_of_lt (single.stopped id stopped)
      · simp [Shared.place, Call.installing]
      · exact single.free free id
  | spawnFailed start id error =>
      exact ⟨single, placed.holds, placed.unspawned⟩
  | spawn start id =>
      have placeholder := (placed.holds id start.udid).mpr rfl
      have inSlot : shared.session = some (id, start.udid) := by
        simp [Shared.session, placeholder, Slot.session]
      refine ⟨⟨fun other live => ?_, single.numbered, single.stopped⟩, placed.holds,
        fun other unspawned => by cases unspawned⟩
      by_cases same : other = id
      · exact ⟨start.udid, same ▸ inSlot⟩
      · apply single.live other
        simpa [Shared.setStatus, Function.update_of_ne same] using live
  | fail start id error =>
      have placeholder := (placed.holds id start.udid).mpr rfl
      refine ⟨⟨fun other live => ?_, fun other udid inSlot => (by cases inSlot), single.stopped⟩,
        .of_none (fun other udid impossible => by cases impossible) rfl⟩
      obtain ⟨udid, inSlot⟩ := single.live other live
      have same : other = id := by
        simp only [Shared.session, placeholder, Option.bind_some, Slot.session,
          Option.some.injEq, Prod.mk.injEq] at inSlot
        exact inSlot.1.symm
      cases (placed.unspawned id rfl).symm.trans (same ▸ live)
  | fallBack start id live =>
      have placeholder := (placed.holds id start.udid).mpr rfl
      simp [Shared.handleIsLive, placeholder] at live
  | adopt start id free =>
      have placeholder := (placed.holds id start.udid).mpr rfl
      have inSlot : shared.session = (shared.adopt id start.udid).session := by
        simp [Shared.session, placeholder, Slot.session, Shared.adopt]
      refine ⟨⟨?_, ?_, single.stopped⟩,
        .of_none (fun other udid impossible => by cases impossible) rfl⟩
      · exact inSlot ▸ single.live
      · exact inSlot ▸ single.numbered
  | clear =>
      exact ⟨single.same (by simp [Shared.setDeviceId]) (by simp [Shared.setDeviceId])
        (by simp [Shared.setDeviceId]) fun _ => Shared.stopSlot_stopped,
        placed.same rfl rfl (by simp [Shared.setDeviceId])⟩
  | stop =>
      exact ⟨single.same (by simp) (by simp) (by simp) fun _ => Shared.stopSlot_stopped,
        placed.same rfl rfl (by simp)⟩
  | discard | cache | launch | name =>
      exact ⟨single.same rfl rfl rfl fun _ => .inl, placed.same rfl rfl rfl⟩
  | reset status next poll | mark id client next poll =>
      exact ⟨single.same rfl rfl rfl fun _ => .inl,
        placed.same rfl (Call.installing_of_isPoll poll) rfl⟩
  | poll client next poll =>
      exact ⟨single, placed.same rfl (Call.installing_of_isPoll poll) rfl⟩
  | look call next action query poll =>
      exact ⟨single, placed.same (Call.installing_of_isQuery query)
        (Call.installing_of_isPoll poll) rfl⟩

/-- A placeholder is left alone by every call but its own. -/
theorem Placed.other {me i : Nat} {shared shared' : Shared Device}
    {call call' theirs : Call Device} {action : Action Device}
    (step : Step me shared call action shared' call') (different : i ≠ me)
    (placed : Placed me shared call) (their : Placed i shared theirs) :
    Placed i shared' theirs := by
  -- While this call has its placeholder in the slot, theirs is not there.
  have alone : ∀ id udid, call.installing = some (id, udid) → theirs.installing = none := by
    intro id udid installing
    have placeholder := (placed.holds id udid).mpr installing
    cases their' : theirs.installing with
    | none => rfl
    | some session =>
        have both := (their.holds session.1 session.2).mpr their'
        rw [placeholder, Option.some.injEq, Slot.starting.injEq] at both
        exact absurd both.1.symm different
  cases step with
  | supervise call id status follows =>
      refine ⟨their.holds, fun other unspawned => ?_⟩
      have dead := their.unspawned other unspawned
      have apart : other ≠ id := by
        rintro rfl
        cases dead.symm.trans (Status.isLive_of_follows follows)
      simpa [Shared.setStatus, Function.update_of_ne apart] using dead
  | place start free =>
      refine .of_none (fun id udid same => ?_) ?_
      · simp only [Shared.place, Option.some.injEq, Slot.starting.injEq] at same
        exact different same.1.symm
      · cases their' : theirs.installing with
        | none => rfl
        | some session =>
            have placeholder := (their.holds session.1 session.2).mpr their'
            cases free.symm.trans (Shared.slotIsLive_of_starting placeholder)
  | spawn start id =>
      have away := alone id start.udid rfl
      exact .of_none (their.absent away) away
  | fail start id error =>
      exact .of_none (fun id udid impossible => by cases impossible) (alone id start.udid rfl)
  | adopt start id free =>
      exact .of_none (fun id udid impossible => by cases impossible) (alone id start.udid rfl)
  | clear =>
      exact ⟨by simpa [Shared.setDeviceId] using their.holds,
        by simpa [Shared.setDeviceId] using their.unspawned⟩
  | stop => exact ⟨by simpa using their.holds, by simpa using their.unspawned⟩
  | refuse | record | reject | spawnFailed | fallBack | discard | reset | mark | cache | launch
  | name | poll | look => exact ⟨their.holds, their.unspawned⟩

/-- What holds of every pool that runs lead to. -/
abbrev Serialized : Pool (Shared Device) (Call Device) → Prop := Everywhere Single Placed

theorem Serialized.initial : Serialized (initial : Pool (Shared Device) (Call Device)) :=
  ⟨⟨fun _ live => (by cases live), fun _ _ inSlot => (by cases inSlot),
      fun _ inside => (by cases inside)⟩,
    fun _ => .of_none (fun _ _ impossible => by cases impossible) rfl⟩

theorem Serialized.step {pool next : Pool (Shared Device) (Call Device)}
    {event : Event (Action Device)} (serialized : Serialized pool)
    (stepped : Interleaving.step advance pool event = some next) : Serialized next :=
  Everywhere.step serialized stepped
    (fun _ _ acted => Placed.own (.of_advance acted) serialized.1 (serialized.2 event.1))
    (fun _ _ _ acted different their =>
      .other (.of_advance acted) different (serialized.2 event.1) their)

/-- A placeholder goes with its own call, on whichever path the call has come back. -/
theorem Step.placeholder {me i id : Nat} {udid : Device} {shared shared' : Shared Device}
    {call call' : Call Device} {action : Action Device}
    (step : Step me shared call action shared' call') (placed : Placed me shared call)
    (placeholder : shared.store.slot = some (.starting i id udid)) :
    shared'.store.slot = some (.starting i id udid) ∨
      me = i ∧
        ((∃ start error, call = .failing start id error ∧
            shared'.store.slot = some (.failed error.code)) ∨
          ∃ start, call = .spawned start id ∧ shared'.store.slot = some (.handle id udid)) := by
  cases step with
  | place start free =>
      cases free.symm.trans (Shared.slotIsLive_of_starting placeholder)
  | fail start other error =>
      have mine := (placed.holds other start.udid).mpr rfl
      rw [placeholder, Option.some.injEq, Slot.starting.injEq] at mine
      obtain ⟨rfl, rfl, rfl⟩ := mine
      exact .inr ⟨rfl, .inl ⟨start, error, rfl, rfl⟩⟩
  | adopt start other free =>
      have mine := (placed.holds other start.udid).mpr rfl
      rw [placeholder, Option.some.injEq, Slot.starting.injEq] at mine
      obtain ⟨rfl, rfl, rfl⟩ := mine
      exact .inr ⟨rfl, .inr ⟨start, rfl, rfl⟩⟩
  | clear | stop => exact .inl (by simpa [Shared.setDeviceId] using placeholder)
  | supervise | refuse | record | reject | spawnFailed | spawn | fallBack | discard | reset | mark
  | cache | launch | name | poll | look => exact .inl placeholder

/-- What a start call needs its placeholder for. -/
structure OneAtATime (pool : Pool (Shared Device) (Call Device)) : Prop where
  spawning : ∀ i j, (pool.threads i).isSpawning = true → (pool.threads j).isSpawning = true → i = j
  live : ∀ a b, (pool.shared.statuses a).isLive = true → (pool.shared.statuses b).isLive = true →
    a = b
  owned : ∀ i id udid, pool.shared.store.slot = some (.starting i id udid) ↔
    (pool.threads i).installing = some (id, udid)
  replaced : ∀ i id udid, pool.shared.store.slot = some (.starting i id udid) →
    ∀ event next, step advance pool event = some next →
      next.shared.store.slot = some (.starting i id udid) ∨
      event.1 = i ∧
        ((∃ start error, pool.threads i = .failing start id error ∧
            next.shared.store.slot = some (.failed error.code)) ∨
          ∃ start, pool.threads i = .spawned start id ∧
            next.shared.store.slot = some (.handle id udid))
  failed : ∀ i start id error, pool.threads i = .failing start id error →
    ∃ next, step advance pool (i, .go) = some next ∧
      next.shared.store.slot = some (.failed error.code) ∧
      next.threads i = .startReturned start (.error (.spawn error))
  /-- The fallback, that a live handle is in the slot, is not reached. -/
  adopted : ∀ i start id, pool.threads i = .spawned start id →
    pool.shared.handleIsLive = false ∧ ∃ next, step advance pool (i, .go) = some next ∧
      next.shared.store.slot = some (.handle id start.udid) ∧
      next.threads i = .startReturned start (.ok ())

theorem Serialized.oneAtATime {pool : Pool (Shared Device) (Call Device)}
    (serialized : Serialized pool) : OneAtATime pool where
  spawning := by
    intro i j atI atJ
    have placeholder : ∀ k, (pool.threads k).isSpawning = true →
        ∃ id udid, pool.shared.store.slot = some (.starting k id udid) := by
      intro k spawning
      cases call : pool.threads k with
      | spawning start id =>
          exact ⟨id, start.udid, ((serialized.2 k).holds id start.udid).mpr (by rw [call]; rfl)⟩
      | _ =>
          rw [call] at spawning
          cases spawning
    obtain ⟨id, udid, ofI⟩ := placeholder i atI
    obtain ⟨id', udid', ofJ⟩ := placeholder j atJ
    rw [ofI, Option.some.injEq, Slot.starting.injEq] at ofJ
    exact ofJ.1
  live := by
    intro a b liveA liveB
    obtain ⟨udid, ofA⟩ := serialized.1.live a liveA
    obtain ⟨udid', ofB⟩ := serialized.1.live b liveB
    rw [ofA, Option.some.injEq, Prod.mk.injEq] at ofB
    exact ofB.1
  owned := fun i => (serialized.2 i).holds
  replaced := by
    intro i id udid placeholder event next stepped
    obtain ⟨shared, own, acted, rfl⟩ := step_some stepped
    have placed := serialized.2 event.1
    rcases (Step.of_advance acted).placeholder placed placeholder with same | ⟨rfl, path⟩
    · exact .inl same
    · exact .inr ⟨rfl, path⟩
  failed := by
    intro i start id error call
    refine ⟨⟨pool.shared.setSlot (.failed error.code), Function.update pool.threads i
      (.startReturned start (.error (.spawn error)))⟩, ?_, rfl, Function.update_self ..⟩
    simp only [Interleaving.step, call, advance, Option.map_some]
  adopted := by
    intro i start id call
    have placeholder := ((serialized.2 i).holds id start.udid).mpr (by rw [call]; rfl)
    have free : pool.shared.handleIsLive = false := by
      simp [Shared.handleIsLive, placeholder]
    refine ⟨free, ⟨pool.shared.adopt id start.udid, Function.update pool.threads i
      (.startReturned start (.ok ()))⟩, ?_, rfl, Function.update_self ..⟩
    simp only [Interleaving.step, call, advance, free, Bool.false_eq_true, if_false,
      Option.map_some]

/-- In every run, sessions are started one at a time: one spawning at most is under way,
    one session at most is live, and the placeholder of a start call is its own. -/
theorem iosSession_oneAtATime (events : List (Event (Action Device)))
    (final : Pool (Shared Device) (Call Device)) (ran : run advance initial events = some final) :
    OneAtATime final :=
  (run_invariant (fun _ _ _ serialized _ stepped => Serialized.step serialized stepped) .initial
    (meets_trivial _ _) ran : Serialized final).oneAtATime

/-- Device 7's session is spawned while a second start call is turned away. -/
def twoStarts : List (Event (Action Nat)) :=
  [(0, .start (.ok ()) 7), (0, .go), (1, .start (.ok ()) 7), (1, .go), (0, .spawned (.ok ())),
    (2, .stop), (0, .go)]

theorem iosSession_oneAtATime_twoStarts :
    ∃ final, run advance initial twoStarts = some final ∧ OneAtATime final :=
  ⟨_, rfl, iosSession_oneAtATime twoStarts _ rfl⟩

end QuadControl.Gui.Ios
