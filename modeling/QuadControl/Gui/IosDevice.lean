import QuadControl.Gui.IosSlot

/-! # The recorded device

The UDID of the session's device lies beside the slot, under a lock of its own. A
start call writes it before it knows whether the slot is free, a stop and the poll of
an ended session clear it; the slot is looked at in another section each time.
-/

namespace QuadControl.Gui.Ios

open Lib Lib.Interleaving

variable {Device : Type}

/-- The device of the live session in the slot, if no stop was requested for it. -/
def Shared.wanted (shared : Shared Device) : Option Device :=
  match shared.session with
  | none => none
  | some (id, udid) =>
      if shared.slotIsLive ∧ id ∉ shared.ledger.stopped then some udid else none

def Recorded (shared : Shared Device) : Prop :=
  ∀ udid, shared.wanted = some udid → shared.store.deviceId = some udid

/-- A start call that was turned away has written the UDID it found. -/
def Untouched (call : Call Device) : Prop :=
  ∀ start, call = .startReturned start (.error .alreadyRunning) → start.before = some start.udid

/-- A live session that is not being stopped has its device recorded, and calls that are
    turned away leave the record. -/
def DeviceRecorded : Pool (Shared Device) (Call Device) → Prop :=
  Everywhere Recorded fun _ _ call => Untouched call

/-- While a session is wanted, start calls come for its device only and no poll clears
    the record; a call that is turned away came for the device on record; and the UDID a
    call wrote is still there when its placeholder takes the slot. -/
def KeepsRecord (shared : Shared Device) : Call Device → Action Device → Prop
  | .idle, .start (.ok ()) udid => shared.wanted = none ∨ shared.wanted = some udid
  | .recorded start, .go =>
      if shared.slotIsLive then start.before = some start.udid
      else shared.store.deviceId = some start.udid
  | .discarding, .go => shared.wanted = none
  | _, _ => True

def Orderly (pool : Pool (Shared Device) (Call Device)) (event : Event (Action Device)) : Prop :=
  KeepsRecord pool.shared (pool.threads event.1) event.2

theorem Shared.wanted_eq_some {shared : Shared Device} {udid : Device} :
    shared.wanted = some udid ↔
      shared.slotIsLive = true ∧
        ∃ id, shared.session = some (id, udid) ∧ id ∉ shared.ledger.stopped := by
  unfold wanted
  split
  · rename_i empty
    simp [empty]
  · rename_i id other inSlot
    simp only [inSlot, Option.some.injEq, Prod.mk.injEq]
    constructor
    · intro wanted
      split at wanted
      · rename_i live
        exact ⟨live.1, id, ⟨rfl, Option.some.inj wanted⟩, live.2⟩
      · cases wanted
    · rintro ⟨live, id, ⟨rfl, rfl⟩, unstopped⟩
      exact if_pos ⟨live, unstopped⟩

theorem Shared.wanted_mono {shared shared' : Shared Device} {udid : Device}
    (live : shared'.slotIsLive = true → shared.slotIsLive = true)
    (session : shared'.session = shared.session)
    (stopped : ∀ id ∈ shared.ledger.stopped, id ∈ shared'.ledger.stopped)
    (wanted : shared'.wanted = some udid) : shared.wanted = some udid := by
  obtain ⟨live', id, inSlot, unstopped⟩ := wanted_eq_some.mp wanted
  exact wanted_eq_some.mpr
    ⟨live live', id, session ▸ inSlot, fun inside => unstopped (stopped id inside)⟩

theorem Shared.slotIsLive_of_setStatus {shared : Shared Device} {id : Nat} {status : Status}
    (follows : (shared.statuses id).follows status = true)
    (live : (shared.setStatus id status).slotIsLive = true) : shared.slotIsLive = true := by
  simp only [slotIsLive, setStatus] at live ⊢
  cases slot : shared.store.slot with
  | none => simp [slot] at live
  | some held =>
      cases held with
      | starting => rfl
      | failed => simp [slot, iosSlotIsLive] at live
      | handle other =>
          by_cases same : other = id
          · subst same
            exact Status.isLive_of_follows follows
          · simpa [slot, iosSlotIsLive, Function.update_of_ne same] using live

theorem Shared.stopSlot_wanted (shared : Shared Device) : shared.stopSlot.wanted = none := by
  cases wanted : shared.stopSlot.wanted with
  | none => rfl
  | some udid =>
      obtain ⟨-, id, inSlot, unstopped⟩ := wanted_eq_some.mp wanted
      rw [session, stopSlot_store] at inSlot
      refine absurd ?_ unstopped
      simp [stopSlot, session, inSlot, stop]

theorem Untouched.of_other {call : Call Device}
    (other : ∀ start, call ≠ .startReturned start (.error .alreadyRunning)) : Untouched call :=
  fun start same => absurd same (other start)

theorem Untouched.of_isPoll {call : Call Device} (poll : call.isPoll = true) : Untouched call :=
  .of_other fun start same => by
    subst same
    cases poll

theorem Recorded.of_mono {shared shared' : Shared Device} (recorded : Recorded shared)
    (wanted : ∀ udid, shared'.wanted = some udid → shared.wanted = some udid)
    (deviceId : shared'.store.deviceId = shared.store.deviceId) : Recorded shared' :=
  fun udid want => deviceId.trans (recorded udid (wanted udid want))

theorem Recorded.of_unwanted {shared : Shared Device} (unwanted : shared.wanted = none) :
    Recorded shared := by
  intro udid wanted
  rw [unwanted] at wanted
  cases wanted

/-- A step keeps the record just when its condition is met. -/
theorem Recorded.own_iff {me : Nat} {shared shared' : Shared Device} {call call' : Call Device}
    {action : Action Device} (step : Step me shared call action shared' call')
    (single : Single shared) (placed : Placed me shared call)
    (recorded : Recorded shared) (untouched : Untouched call) :
    Recorded shared' ∧ Untouched call' ↔ KeepsRecord shared call action := by
  cases step with
  | supervise call id status follows =>
      refine iff_of_true ⟨recorded.of_mono (fun udid => ?_) rfl, untouched⟩
        (by cases call <;> trivial)
      exact Shared.wanted_mono (Shared.slotIsLive_of_setStatus follows) rfl fun _ inside => inside
  | record udid =>
      constructor
      · rintro ⟨recorded', -⟩
        cases wanted : shared.wanted with
        | none => exact .inl wanted
        | some other => exact .inr (wanted.trans (recorded' other wanted).symm)
      · intro keeps
        refine ⟨fun other wanted => ?_, .of_other fun _ same => by cases same⟩
        rcases keeps with unwanted | same
        · cases unwanted.symm.trans wanted
        · exact same.symm.trans wanted
  | reject start live =>
      simp only [KeepsRecord, live, if_true]
      constructor
      · rintro ⟨-, untouched'⟩
        exact untouched' start rfl
      · intro found
        refine ⟨recorded, fun other same => ?_⟩
        cases same
        exact found
  | place start free =>
      have fresh : shared.store.nextId ∉ shared.ledger.stopped := fun inside =>
        Nat.lt_irrefl _ (single.stopped _ inside)
      have wanted : (shared.place me start.udid).wanted = some start.udid :=
        Shared.wanted_eq_some.mpr ⟨rfl, shared.store.nextId, rfl, fresh⟩
      simp only [KeepsRecord, free, Bool.false_eq_true, if_false]
      constructor
      · rintro ⟨recorded', -⟩
        exact recorded' start.udid wanted
      · intro still
        refine ⟨fun udid want => ?_, .of_other fun _ same => by cases same⟩
        exact still.trans (wanted.symm.trans want)
  | spawn start id =>
      have placeholder := (placed.holds id start.udid).mpr rfl
      refine iff_of_true ⟨recorded.of_mono (fun udid => ?_) rfl,
        .of_other fun _ same => by cases same⟩ trivial
      exact Shared.wanted_mono (fun _ => Shared.slotIsLive_of_starting placeholder) rfl
        fun _ inside => inside
  | fail start id error =>
      exact iff_of_true ⟨.of_unwanted rfl, .of_other fun _ same => by cases same⟩ trivial
  | fallBack start id live =>
      have placeholder := (placed.holds id start.udid).mpr rfl
      simp [Shared.handleIsLive, placeholder] at live
  | adopt start id free =>
      have placeholder := (placed.holds id start.udid).mpr rfl
      refine iff_of_true ⟨recorded.of_mono (fun udid => ?_) rfl,
        .of_other fun _ same => by cases same⟩ trivial
      refine Shared.wanted_mono (fun _ => Shared.slotIsLive_of_starting placeholder) ?_
        fun _ inside => inside
      simp [Shared.session, placeholder, Slot.session, Shared.adopt]
  | clear =>
      exact iff_of_true ⟨.of_unwanted shared.stopSlot_wanted, .of_other fun _ same => by cases same⟩
        trivial
  | stop =>
      exact iff_of_true ⟨.of_unwanted shared.stopSlot_wanted, .of_other fun _ same => by cases same⟩
        trivial
  | discard =>
      constructor
      · rintro ⟨recorded', -⟩
        cases wanted : shared.wanted with
        | none => exact wanted
        | some udid => cases recorded' udid wanted
      · intro unwanted
        exact ⟨.of_unwanted unwanted, .of_other fun _ same => by cases same⟩
  | reset status next poll | mark id client next poll | poll client next poll =>
      exact iff_of_true ⟨recorded, .of_isPoll poll⟩ trivial
  | look call next action query poll =>
      refine iff_of_true ⟨recorded, .of_isPoll poll⟩ ?_
      cases call <;> trivial
  | refuse | spawnFailed | cache | launch | name =>
      exact iff_of_true ⟨recorded, .of_other fun _ same => by cases same⟩ trivial

theorem DeviceRecorded.step_iff {pool next : Pool (Shared Device) (Call Device)}
    {event : Event (Action Device)} (serialized : Serialized pool) (recorded : DeviceRecorded pool)
    (stepped : step advance pool event = some next) :
    DeviceRecorded next ↔ Orderly pool event := by
  obtain ⟨shared, own, acted, rfl⟩ := step_some stepped
  refine (Everywhere.update_iff fun j _ => recorded.2 j).trans ?_
  exact Recorded.own_iff (.of_advance acted) serialized.1 (serialized.2 event.1) recorded.1
    (recorded.2 event.1)

/-- The device of the session is on record throughout a run just when each of the run's
    writes to the record is in order. -/
theorem iosSession_deviceRecorded_iff (events : List (Event (Action Device)))
    (final : Pool (Shared Device) (Call Device)) (ran : run advance initial events = some final) :
    Throughout advance DeviceRecorded initial events ↔ Meets advance Orderly initial events := by
  have start : DeviceRecorded (initial : Pool (Shared Device) (Call Device)) :=
    ⟨.of_unwanted rfl, fun _ => .of_other fun _ same => by cases same⟩
  exact run_throughout_iff (fun _ _ _ serialized stepped => Serialized.step serialized stepped)
    (fun _ _ _ serialized recorded stepped => DeviceRecorded.step_iff serialized recorded stepped)
    .initial start ran

instance [DecidableEq Device] (shared : Shared Device) (call : Call Device)
    (action : Action Device) : Decidable (KeepsRecord shared call action) := by
  induction call using Call.casesOn with
  | idle =>
      induction action using Action.casesOn with
      | start allowed udid =>
          induction allowed using Except.casesOn with
          | ok => exact inferInstanceAs (Decidable (_ ∨ _))
          | error => exact instDecidableTrue
      | _ => exact instDecidableTrue
  | recorded start =>
      induction action using Action.casesOn with
      | go =>
          exact inferInstanceAs (Decidable (if shared.slotIsLive then start.before = some start.udid
            else shared.store.deviceId = some start.udid))
      | _ => exact instDecidableTrue
  | discarding =>
      induction action using Action.casesOn with
      | go => exact inferInstanceAs (Decidable (shared.wanted = none))
      | _ => exact instDecidableTrue
  | _ => exact instDecidableTrue

instance [DecidableEq Device] (pool : Pool (Shared Device) (Call Device))
    (event : Event (Action Device)) : Decidable (Orderly pool event) :=
  inferInstanceAs (Decidable (KeepsRecord pool.shared (pool.threads event.1) event.2))

/-- A session for device 7 starts, runs, is stopped and ends, and a poll sees the end. -/
def startAndStop : List (Event (Action Nat)) :=
  [(0, .start (.ok ()) 7), (0, .go), (0, .spawned (.ok ())), (0, .go), (0, .supervise 1 .running),
    (1, .stop), (1, .go), (0, .supervise 1 .stopping), (0, .supervise 1 .exited),
    (2, .status false), (2, .go), (2, .go)]

theorem iosSession_deviceRecorded_iff_startAndStop :
    ∃ final, run advance initial startAndStop = some final ∧
      Throughout advance DeviceRecorded initial startAndStop :=
  ⟨_, rfl, (iosSession_deviceRecorded_iff startAndStop _ rfl).mpr (by decide)⟩

/-- While the session for device 7 is live, a start call for device 8 is turned away. -/
def turnedAway : List (Event (Action Nat)) :=
  [(0, .start (.ok ()) 7), (0, .go), (0, .spawned (.ok ())), (0, .go), (1, .start (.ok ()) 8),
    (1, .go)]

theorem iosSession_records_other_device :
    ¬ ∀ (events : List (Event (Action Nat))) final, run advance initial events = some final →
      DeviceRecorded final := by
  intro recorded
  obtain ⟨final, ran, wanted, deviceId⟩ : ∃ final, run advance initial turnedAway = some final ∧
      final.shared.wanted = some 7 ∧ final.shared.store.deviceId = some 8 := ⟨_, rfl, rfl, rfl⟩
  have lost := (recorded turnedAway final ran).1 7 wanted
  rw [deviceId] at lost
  cases lost

end QuadControl.Gui.Ios
