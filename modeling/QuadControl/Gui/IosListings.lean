import QuadControl.Gui.IosSession

/-! # The listing of the installed apps

A poll of a running session launches one listing of the apps installed on its device;
the mark that the session had its listing is in the metadata, and the device is the
recorded one, read under its own lock before the mark is looked at. Neither is the
session's own: other calls take the mark away and write other devices, whatever polls
are under way. Which session is whose, and which steps did so, is noted beside the run.
-/

namespace QuadControl.Gui.Ios

open Lib Lib.Interleaving

variable {Device : Type}

/-- What is noted of a run. -/
structure Notes (Device : Type) where
  /-- The devices that sessions were started for, by session id. -/
  started : Nat → Option Device
  /-- The sessions whose mark was taken away. -/
  unmarked : Nat → Bool
  /-- The sessions since whose start another device was recorded. -/
  displaced : Nat → Bool
  /-- The polls that read the recorded device when their session was displaced. -/
  misled : Nat → Bool

/-- The session whose mark a step takes away: a poll of a session that does not run starts
    the metadata over, as does a handle that takes the slot, and the poll of another session
    puts its own mark there. -/
def takesMark (shared : Shared Device) : Call Device → Action Device → Option Nat
  | .resetting _, .go => shared.store.metadata.installedRequested
  | .spawned _ _, .go =>
      if shared.handleIsLive then none else shared.store.metadata.installedRequested
  | .requesting id _, .go =>
      shared.store.metadata.installedRequested.filter fun marked => marked ≠ id
  | _, _ => none

section

variable [DecidableEq Device]

namespace Notes

variable (notes : Notes Device)

def unmark : Option Nat → Notes Device
  | none => notes
  | some id => { notes with unmarked := Function.update notes.unmarked id true }

/-- A start call records its device, for whatever session there is. -/
def record (udid : Device) : Notes Device :=
  { notes with displaced := fun id => notes.started id ≠ some udid }

/-- The start call that puts its placeholder into the slot starts a session. Another device
    may have been recorded since it recorded its own. -/
def place (id : Nat) (udid : Device) (recorded : Option Device) : Notes Device :=
  { notes with
    started := Function.update notes.started id (some udid)
    displaced := Function.update notes.displaced id (recorded.any (· ≠ udid)) }

def read (me id : Nat) : Notes Device :=
  { notes with misled := Function.update notes.misled me (notes.displaced id) }

end Notes

def noteStep (me : Nat) (shared : Shared Device) (call : Call Device) (action : Action Device)
    (notes : Notes Device) : Notes Device :=
  match call, action with
  | .idle, .start (.ok ()) udid => notes.record udid
  | .recorded start, .go =>
      if shared.slotIsLive then notes
      else notes.place shared.store.nextId start.udid shared.store.deviceId
  | .loading id, .go => notes.read me id
  | call, action => notes.unmark (takesMark shared call action)

/-- The calls beside the notes. -/
def advanceNoted : Thread (Shared Device × Notes Device) (Call Device) (Action Device) :=
  noted noteStep advance

end

/-- No session is started yet, and no device is one's own. -/
def initialNoted : Pool (Shared Device × Notes Device) (Call Device) :=
  ⟨(initial.shared, ⟨fun _ => none, fun _ => false, fun _ => true, fun _ => false⟩),
    initial.threads⟩

/-- A listing at most for every session, and of the device that session was started for. -/
structure ListedOnce (pool : Pool (Shared Device × Notes Device) (Call Device)) : Prop where
  once : (pool.shared.1.ledger.listings.map Prod.fst).Nodup
  own : ∀ id udid, (id, udid) ∈ pool.shared.1.ledger.listings → pool.shared.2.started id = some udid

/-- A poll that comes to look at the mark, and does not find its session's there, has not been
    overtaken: no step took the mark away before, and no start for another device had recorded
    that when it read the device. -/
def NotOvertaken (me : Nat) (shared : Shared Device) (notes : Notes Device) :
    Call Device → Action Device → Prop
  | .requesting id _, .go =>
      shared.store.metadata.installedRequested ≠ some id →
        notes.unmarked id = false ∧ notes.misled me = false
  | _, _ => True

def InTime (pool : Pool (Shared Device × Notes Device) (Call Device))
    (event : Event (Action Device)) : Prop :=
  NotOvertaken event.1 pool.shared.1 pool.shared.2 (pool.threads event.1) event.2

theorem run_advanceNoted [DecidableEq Device] (events : List (Event (Action Device))) :
    (run advanceNoted initialNoted events).map Pool.unnoted = run advance initial events :=
  run_noted noteStep initialNoted events

@[simp] theorem Shared.stopSlot_listings (shared : Shared Device) :
    shared.stopSlot.ledger.listings = shared.ledger.listings := by
  unfold stopSlot
  split <;> rfl

/-! ### What a step does to the numbers, the slot and the mark -/

/-- The session whose mark is there. -/
def Shared.marked (shared : Shared Device) : Option Nat := shared.store.metadata.installedRequested

/-- The session of a call. -/
def Call.number : Call Device → Option Nat
  | .spawning _ id | .failing _ id _ | .spawned _ id | .marking id _ | .querying id _
  | .storing id _ | .loading id | .requesting id _ => some id
  | _ => none

section

variable {me : Nat} {shared shared' : Shared Device} {call call' : Call Device}
  {action : Action Device}

theorem Step.nextId_le (step : Step me shared call action shared' call') :
    shared.store.nextId ≤ shared'.store.nextId := by
  cases step with
  | place start free => exact Nat.le_succ _
  | clear | stop => simp [Shared.setDeviceId]
  | _ => exact Nat.le_refl _

/-- A handle comes into the slot from the call that has spawned its session. -/
theorem Step.handle (step : Step me shared call action shared' call') {id : Nat} {udid : Device}
    (stored : shared'.store.slot = some (.handle id udid)) :
    shared.store.slot = some (.handle id udid) ∨ call.number = some id := by
  cases step with
  | adopt start number free =>
      cases stored
      exact .inr rfl
  | place | fail => cases stored
  | clear | stop => exact .inl (by simpa [Shared.setDeviceId] using stored)
  | _ => exact .inl stored

/-- A call gets its session from the slot, or is the first to have the number. -/
theorem number_of_advance (acted : advance me shared call action = some (shared', call')) {id : Nat}
    (own : call'.number = some id) :
    call.number = some id ∨ (∃ udid, shared.store.slot = some (.handle id udid)) ∨
      shared'.store.nextId = id + 1 := by
  unfold advance at acted
  split at acted
  case h_1 =>
    split at acted <;> cases acted
    exact .inl own
  case h_4 =>
    split at acted <;> cases acted <;> cases own
    exact .inr (.inr rfl)
  case h_11 =>
    split at acted <;> cases acted <;> cases own
    rename_i found
    obtain ⟨slot, stored, snapshot⟩ := Option.map_eq_some_iff.mp found
    cases slot with
    | starting | failed => cases snapshot
    | handle number udid => exact .inr (.inl ⟨udid, by rw [stored, (Prod.mk.inj snapshot).2]⟩)
  case h_14 =>
    cases acted
    split at own <;> exact .inl own
  case h_18 | h_19 | h_8 | h_22 | h_12 =>
    split at acted <;> cases acted <;> first | exact .inl own | cases own
  all_goals cases acted
  all_goals first | exact .inl own | cases own

/-- A poll has the device that was recorded when it read it. -/
theorem requesting_of_advance (acted : advance me shared call action = some (shared', call'))
    {id : Nat} {udid : Device} (passes : call' = .requesting id udid) :
    call = .loading id ∧ action = .go ∧ shared' = shared ∧ shared.store.deviceId = some udid ∨
      call = call' ∧ ∃ number status, action = .supervise number status := by
  subst passes
  unfold advance at acted
  split at acted
  case h_1 =>
    split at acted <;> cases acted
    exact .inr ⟨rfl, _, _, rfl⟩
  case h_18 =>
    split at acted <;> cases acted
    exact .inl ⟨rfl, rfl, rfl, by assumption⟩
  case h_4 | h_8 | h_11 | h_19 | h_22 => split at acted <;> cases acted
  case h_12 | h_14 =>
    simp only [Option.some.injEq, Prod.mk.injEq] at acted
    obtain ⟨-, own⟩ := acted
    split at own <;> cases own
  all_goals cases acted

/-- A listing is launched, or the mark stays, or it is taken away. -/
theorem mark_of_advance (acted : advance me shared call action = some (shared', call')) :
    (∃ id udid, call = .requesting id udid ∧ action = .go ∧ shared.marked ≠ some id ∧
        shared' = shared.launch id udid) ∨
      shared'.ledger.listings = shared.ledger.listings ∧
        (shared'.marked = shared.marked ∧ takesMark shared call action = none ∨
          shared'.marked = none ∧ takesMark shared call action = shared.marked) := by
  by_cases gate : ∃ id udid, call = .requesting id udid ∧ action = .go
  · obtain ⟨id, udid, rfl, rfl⟩ := gate
    simp only [advance] at acted
    split at acted <;> cases acted
    · rename_i marked
      exact .inr ⟨rfl, .inl ⟨rfl, by simp [takesMark, marked]⟩⟩
    · rename_i unmarked
      exact .inl ⟨id, udid, rfl, rfl, unmarked, rfl⟩
  · refine .inr ?_
    cases Step.of_advance acted with
    | launch id udid => exact absurd ⟨id, udid, rfl, rfl⟩ gate
    | clear | stop => simp [Shared.setDeviceId, Shared.marked, takesMark]
    | fallBack start id live => exact ⟨rfl, .inl ⟨rfl, by simp [takesMark, live]⟩⟩
    | adopt start id free => exact ⟨rfl, .inr ⟨rfl, by simp [takesMark, free, Shared.marked]⟩⟩
    | reset => exact ⟨rfl, .inr ⟨rfl, rfl⟩⟩
    | cache id answer => cases answer <;> exact ⟨rfl, .inl ⟨rfl, rfl⟩⟩
    | supervise call => exact ⟨rfl, .inl ⟨rfl, by cases call <;> rfl⟩⟩
    | look call next action query =>
        refine ⟨rfl, .inl ⟨rfl, ?_⟩⟩
        unfold takesMark
        split
        case h_1 | h_2 => exact absurd query Bool.false_ne_true
        case h_3 id udid => exact absurd ⟨id, udid, rfl, rfl⟩ gate
        case h_4 => rfl
    | _ => exact ⟨rfl, .inl ⟨rfl, rfl⟩⟩

/-- But for a start call, a step records nothing. -/
theorem Step.deviceId (step : Step me shared call action shared' call')
    (other : ∀ udid, ¬ (call = .idle ∧ action = .start (.ok ()) udid)) {udid : Device}
    (recorded : shared'.store.deviceId = some udid) : shared.store.deviceId = some udid := by
  cases step with
  | record udid => exact absurd ⟨rfl, rfl⟩ (other udid)
  | clear | discard => cases recorded
  | stop => simpa using recorded
  | _ => exact recorded

end

/-! ### What the notes tell -/

@[simp] theorem Notes.unmark_started (notes : Notes Device) (taken : Option Nat) :
    (notes.unmark taken).started = notes.started := by
  cases taken <;> rfl

@[simp] theorem Notes.unmark_displaced (notes : Notes Device) (taken : Option Nat) :
    (notes.unmark taken).displaced = notes.displaced := by
  cases taken <;> rfl

@[simp] theorem Notes.unmark_misled (notes : Notes Device) (taken : Option Nat) :
    (notes.unmark taken).misled = notes.misled := by
  cases taken <;> rfl

theorem Notes.unmark_unmarked (notes : Notes Device) (taken : Option Nat) (id : Nat) :
    (notes.unmark taken).unmarked id = true ↔ taken = some id ∨ notes.unmarked id = true := by
  cases taken with
  | none => simp [unmark]
  | some other =>
      by_cases same : id = other
      · simp [unmark, same]
      · simp [unmark, same, Ne.symm same]

/-- Where a step launches nothing and sessions stay whose they are, so do the listings. -/
theorem ListedOnce.of_eq {shared shared' : Shared Device} {notes after : Notes Device}
    {threads threads' : Nat → Call Device}
    (listed : ListedOnce ⟨(shared, notes), threads⟩)
    (listings : shared'.ledger.listings = shared.ledger.listings)
    (keeps : ∀ id udid, notes.started id = some udid → after.started id = some udid) :
    ListedOnce ⟨(shared', after), threads'⟩ := by
  refine ⟨?_, fun id udid inside => ?_⟩
  · simpa only [listings] using listed.once
  · have before : (id, udid) ∈ shared.ledger.listings := listings ▸ inside
    exact keeps id udid (listed.own id udid before)

theorem ListedOnce.launch_iff {shared : Shared Device} {notes after : Notes Device}
    {threads threads' : Nat → Call Device} (listed : ListedOnce ⟨(shared, notes), threads⟩)
    (same : after.started = notes.started)
    (id : Nat) (udid : Device) :
    ListedOnce ⟨(shared.launch id udid, after), threads'⟩ ↔
      id ∉ shared.ledger.listings.map Prod.fst ∧ notes.started id = some udid := by
  constructor
  · intro listed'
    exact ⟨(List.nodup_cons.mp listed'.once).1, same ▸ listed'.own id udid (.head _)⟩
  · rintro ⟨unlisted, own⟩
    refine ⟨List.nodup_cons.mpr ⟨unlisted, listed.once⟩, fun other device inside => ?_⟩
    dsimp only
    rw [same]
    rcases List.mem_cons.mp inside with here | before
    · cases here
      exact own
    · exact listed.own other device before

/-- What holds of the store and the notes. -/
structure Tracked (state : Shared Device × Notes Device) : Prop where
  /-- No session is started that has no number yet. -/
  numbered : ∀ id, state.1.store.nextId ≤ id → state.2.started id = none
  handle : ∀ id udid, state.1.store.slot = some (.handle id udid) → id < state.1.store.nextId
  recorded : ∀ udid, state.1.store.deviceId = some udid → ∀ id,
    state.2.displaced id = false ↔ state.2.started id = some udid
  listed : ∀ id, id ∈ state.1.ledger.listings.map Prod.fst ↔
    state.1.marked = some id ∨ state.2.unmarked id = true

/-- And of a poll. -/
structure Following (me : Nat) (state : Shared Device × Notes Device) (call : Call Device) :
    Prop where
  numbered : ∀ id, call.number = some id → id < state.1.store.nextId
  led : ∀ id udid, call = .requesting id udid →
    (state.2.misled me = false ↔ state.2.started id = some udid)

def AllTracked : Pool (Shared Device × Notes Device) (Call Device) → Prop :=
  Everywhere Tracked Following

theorem AllTracked.initial : AllTracked (initialNoted : Pool (_ × Notes Device) _) :=
  ⟨⟨fun _ _ => rfl, nofun, nofun, by simp [initialNoted, Ios.initial, Shared.marked, IosMeta.default]⟩,
    fun _ => ⟨nofun, nofun⟩⟩

section

variable [DecidableEq Device] {me : Nat} {shared shared' : Shared Device}
  {call call' : Call Device} {action : Action Device} {notes : Notes Device}

/-- What a step leaves of the notes. -/
inductive Noting (i : Nat) (before : Shared Device) (past : Notes Device) :
    Call Device → Action Device → Notes Device → Prop
  | record (udid) : Noting i before past .idle (.start (.ok ()) udid) (past.record udid)
  | place (start) (free : before.slotIsLive = false) :
      Noting i before past (.recorded start) .go
        (past.place before.store.nextId start.udid before.store.deviceId)
  | read (id) : Noting i before past (.loading id) .go (past.read i id)
  | unmark (at_ taken) (other : ∀ udid, ¬ (at_ = .idle ∧ taken = .start (.ok ()) udid)) :
      Noting i before past at_ taken (past.unmark (takesMark before at_ taken))

theorem noting_noteStep (me : Nat) (shared : Shared Device) (call : Call Device)
    (action : Action Device) (notes : Notes Device) :
    Noting me shared notes call action (noteStep me shared call action notes) := by
  unfold noteStep
  split
  · exact .record _
  · split
    · exact .unmark _ _ fun udid started => by cases started.1
    · rename_i free
      exact .place _ (Bool.not_eq_true _ ▸ free)
  · exact .read _
  · rename_i other _ _
    refine .unmark _ _ fun udid started => ?_
    exact other udid started.1 started.2

/-- Sessions stay those of the start calls that they were started by. -/
theorem Noting.started {after : Notes Device} (noting : Noting me shared notes call action after)
    {id : Nat} (known : id < shared.store.nextId) : after.started id = notes.started id := by
  cases noting with
  | place start free => exact Function.update_of_ne (Nat.ne_of_lt known) ..
  | record | read => rfl
  | unmark => simp

theorem Noting.misled {after : Notes Device} (noting : Noting me shared notes call action after)
    {other : Nat} (apart : other ≠ me) : after.misled other = notes.misled other := by
  cases noting with
  | read id => exact Function.update_of_ne apart ..
  | record | place => rfl
  | unmark => simp

theorem Noting.unmarked {after : Notes Device} (noting : Noting me shared notes call action after)
    (id : Nat) :
    after.unmarked id = true ↔ takesMark shared call action = some id ∨ notes.unmarked id = true := by
  cases noting with
  | record | place | read => exact (or_iff_right nofun).symm
  | unmark => exact notes.unmark_unmarked _ id

theorem Tracked.own (tracked : Tracked (shared, notes)) (following : Following me (shared, notes) call)
    (acted : advance me shared call action = some (shared', call')) :
    Tracked (shared', noteStep me shared call action notes) := by
  have step := Step.of_advance acted
  have noting := noting_noteStep me shared call action notes
  have further := step.nextId_le
  refine ⟨fun id above => ?_, fun id udid stored => ?_, fun udid recorded id => ?_, fun id => ?_⟩
  · have unstarted := tracked.numbered id (further.trans above)
    generalize noteStep me shared call action notes = after at noting
    cases noting with
    | place start free =>
        have numbered : shared'.store.nextId = shared.store.nextId + 1 := by
          simp only [advance, free, Bool.false_eq_true, if_false, Option.some.injEq,
            Prod.mk.injEq] at acted
          obtain ⟨rfl, -⟩ := acted
          rfl
        have apart : id ≠ shared.store.nextId := by
          dsimp only at above
          omega
        exact (Function.update_of_ne apart ..).trans unstarted
    | record | read => exact unstarted
    | unmark => simpa using unstarted
  · rcases step.handle stored with before | own
    · exact (tracked.handle id udid before).trans_le further
    · exact (following.numbered id own).trans_le further
  · generalize noteStep me shared call action notes = after at noting ⊢
    cases noting with
    | record udid =>
        cases acted
        cases recorded
        simp [Notes.record]
    | place start free =>
        simp only [advance, free, Bool.false_eq_true, if_false, Option.some.injEq,
          Prod.mk.injEq] at acted
        obtain ⟨rfl, -⟩ := acted
        have before : shared.store.deviceId = some udid := recorded
        by_cases same : id = shared.store.nextId
        · simp only [Notes.place, same, before, Function.update_self, Option.any_some,
            decide_eq_false_iff_not, ne_eq, not_not, Option.some.injEq]
          exact eq_comm
        · simpa [Notes.place, same] using tracked.recorded udid before id
    | read number =>
        exact tracked.recorded udid (step.deviceId (by simp) recorded) id
    | unmark at_ taken other =>
        simpa using tracked.recorded udid (step.deviceId other recorded) id
  · have before := tracked.listed id
    rw [noting.unmarked id]
    rcases mark_of_advance acted with ⟨number, udid, rfl, rfl, unmarked, rfl⟩ |
      ⟨listings, ⟨marked, untaken⟩ | ⟨marked, taken⟩⟩
    · by_cases same : id = number
      · simp [Shared.launch, Shared.marked, IosMeta.request, same]
      · have elsewhere : takesMark shared (.requesting number udid) .go = some id ↔
            shared.marked = some id := by
          simp only [takesMark, Shared.marked, Option.filter_eq_some_iff, decide_eq_true_eq]
          exact and_iff_left same
        have own : (shared.launch number udid).marked ≠ some id := fun eq =>
          same (Option.some.inj eq).symm
        rw [elsewhere, or_iff_right own, ← before]
        simp [Shared.launch, same]
    · dsimp only
      rw [listings, marked, untaken, before]
      simp
    · dsimp only
      rw [listings, marked, taken, before]
      simp

theorem Following.own (tracked : Tracked (shared, notes))
    (following : Following me (shared, notes) call)
    (acted : advance me shared call action = some (shared', call')) :
    Following me (shared', noteStep me shared call action notes) call' := by
  have step := Step.of_advance acted
  have noting := noting_noteStep me shared call action notes
  refine ⟨fun id own => ?_, fun id udid passes => ?_⟩
  · rcases number_of_advance acted own with before | ⟨udid, stored⟩ | numbered
    · exact (following.numbered id before).trans_le step.nextId_le
    · exact (tracked.handle id udid stored).trans_le step.nextId_le
    · exact numbered ▸ Nat.lt_succ_self id
  · rcases requesting_of_advance acted passes with
      ⟨rfl, rfl, rfl, recorded⟩ | ⟨same, number, status, rfl⟩
    · dsimp only [noteStep, Notes.read]
      rw [Function.update_self]
      exact tracked.recorded udid recorded id
    · dsimp only [noteStep]
      simpa using following.led id udid (same.trans passes)

theorem Following.other {other : Nat} {their : Call Device}
    (following : Following other (shared, notes) their) (apart : other ≠ me)
    (acted : advance me shared call action = some (shared', call')) :
    Following other (shared', noteStep me shared call action notes) their := by
  have noting := noting_noteStep me shared call action notes
  refine ⟨fun id own => ?_, fun id udid passes => ?_⟩
  · exact (following.numbered id own).trans_le (Step.of_advance acted).nextId_le
  · have known : id < shared.store.nextId := following.numbered id (passes ▸ rfl)
    dsimp only
    rw [noting.misled apart, noting.started known]
    exact following.led id udid passes

/-- A step keeps one listing a session just when the poll it is of has not been overtaken. -/
theorem ListedOnce.own_iff {threads threads' : Nat → Call Device}
    (tracked : Tracked (shared, notes)) (following : Following me (shared, notes) call)
    (acted : advance me shared call action = some (shared', call'))
    (listed : ListedOnce ⟨(shared, notes), threads⟩) :
    ListedOnce ⟨(shared', noteStep me shared call action notes), threads'⟩ ↔
      NotOvertaken me shared notes call action := by
  rcases mark_of_advance acted with ⟨id, udid, rfl, rfl, unmarked, rfl⟩ | ⟨listings, marks⟩
  · have first : id ∉ shared.ledger.listings.map Prod.fst ↔ notes.unmarked id = false := by
      rw [tracked.listed id, or_iff_right unmarked, Bool.not_eq_true]
    have own := following.led id udid rfl
    refine (listed.launch_iff (by simp [noteStep]) id udid).trans ?_
    rw [first, ← own]
    exact ⟨fun inTime _ => inTime, fun inTime => inTime unmarked⟩
  · have keeps : ∀ id udid, notes.started id = some udid →
        (noteStep me shared call action notes).started id = some udid := by
      intro id udid started
      have known : id < shared.store.nextId := by
        by_contra above
        rw [tracked.numbered id (Nat.le_of_not_lt above)] at started
        cases started
      rw [(noting_noteStep me shared call action notes).started known]
      exact started
    refine iff_of_true (listed.of_eq listings keeps) ?_
    unfold NotOvertaken
    split
    · rename_i id udid
      intro unmarked
      simp only [advance, unmarked, if_false, Option.some.injEq, Prod.mk.injEq] at acted
      obtain ⟨rfl, -⟩ := acted
      exact absurd listings (List.cons_ne_self _ _)
    · trivial

theorem AllTracked.step {pool next : Pool (Shared Device × Notes Device) (Call Device)}
    {event : Event (Action Device)} (tracked : AllTracked pool)
    (stepped : Interleaving.step advanceNoted pool event = some next) : AllTracked next := by
  refine Everywhere.step tracked stepped (fun after own acted => ?_)
    (fun after own other acted apart following => ?_)
  · obtain ⟨shared', own', acted, same⟩ := noted_some acted
    obtain ⟨rfl, rfl⟩ := Prod.mk.inj same
    exact ⟨tracked.1.own (tracked.2 event.1) acted, (tracked.2 event.1).own tracked.1 acted⟩
  · obtain ⟨shared', own', acted, same⟩ := noted_some acted
    obtain ⟨rfl, rfl⟩ := Prod.mk.inj same
    exact following.other apart acted

theorem ListedOnce.step_iff {pool next : Pool (Shared Device × Notes Device) (Call Device)}
    {event : Event (Action Device)} (tracked : AllTracked pool) (listed : ListedOnce pool)
    (stepped : Interleaving.step advanceNoted pool event = some next) :
    ListedOnce next ↔ InTime pool event := by
  obtain ⟨after, own, acted, rfl⟩ := step_some stepped
  obtain ⟨shared', own', acted, same⟩ := noted_some acted
  obtain ⟨rfl, rfl⟩ := Prod.mk.inj same
  exact ListedOnce.own_iff tracked.1 (tracked.2 event.1) acted listed

/-- Throughout a run every session has one listing at most, and of its own device, just
    when no poll that comes to look at its session's mark and misses it has been overtaken by a
    step that took the mark away, or by a start for another device. -/
theorem iosSession_listedOnce_iff (events : List (Event (Action Device)))
    (final : Pool (Shared Device × Notes Device) (Call Device))
    (ran : run advanceNoted initialNoted events = some final) :
    Throughout advanceNoted ListedOnce initialNoted events ↔
      Meets advanceNoted InTime initialNoted events := by
  have start : ListedOnce (initialNoted : Pool (Shared Device × Notes Device) (Call Device)) :=
    ⟨List.nodup_nil, fun _ _ inside => by cases inside⟩
  exact run_throughout_iff (fun _ _ _ tracked stepped => AllTracked.step tracked stepped)
    (fun _ _ _ tracked listed stepped => ListedOnce.step_iff tracked listed stepped)
    .initial start ran

end

instance (me : Nat) (shared : Shared Device) (notes : Notes Device) (call : Call Device)
    (action : Action Device) : Decidable (NotOvertaken me shared notes call action) := by
  induction call using Call.casesOn with
  | requesting id udid =>
      induction action using Action.casesOn with
      | go => exact inferInstanceAs (Decidable (_ → _))
      | _ => exact instDecidableTrue
  | _ => exact instDecidableTrue

instance (pool : Pool (Shared Device × Notes Device) (Call Device)) (event : Event (Action Device)) :
    Decidable (InTime pool event) :=
  inferInstanceAs (Decidable (NotOvertaken event.1 pool.shared.1 pool.shared.2 _ _))

/-- A session for device 7 runs. -/
def startAndRun : List (Event (Action Nat)) :=
  [(0, .start (.ok ()) 7), (0, .go), (0, .spawned (.ok ())), (0, .go), (0, .supervise 1 .running)]

/-- The second poll of the session finds the mark of the first. It is stopped, a poll drops its
    mark, and the next session, on device 8, has a listing of its own. -/
def twoListings : List (Event (Action Nat)) :=
  startAndRun ++ [(1, Action.status false), (1, .go), (1, .go), (1, .go),
    (2, .status false), (2, .go), (2, .go), (2, .go), (3, .stop), (3, .go),
    (3, .supervise 1 .stopping), (3, .supervise 1 .exited), (4, .status false), (4, .go), (4, .go),
    (5, .start (.ok ()) 8), (5, .go), (5, .spawned (.ok ())), (5, .go), (5, .supervise 2 .running),
    (6, .status false), (6, .go), (6, .go), (6, .go)]

theorem iosSession_listedOnce_iff_twoListings :
    ∃ final, run advanceNoted initialNoted twoListings = some final ∧
      final.shared.1.ledger.listings = [(2, 8), (1, 7)] ∧ final.shared.2.unmarked 1 = true ∧
      Throughout advanceNoted ListedOnce initialNoted twoListings :=
  ⟨_, rfl, rfl, rfl, (iosSession_listedOnce_iff twoListings _ rfl).mpr (by decide)⟩

/-- A poll that has read the device is held up while the session is listed, is asked to
    stop, and another poll drops the metadata with the mark. -/
def markDropped : List (Event (Action Nat)) :=
  startAndRun ++ [(1, Action.status false), (1, .go), (1, .go), (2, .status false), (2, .go), (2, .go),
    (2, .go), (3, .stop), (3, .go), (3, .supervise 1 .stopping), (4, .status false), (4, .go),
    (1, .go)]

/-- A poll of a session on device 7 is held up until the next session starts on device 8. -/
def otherDevice : List (Event (Action Nat)) :=
  startAndRun ++ [(1, Action.status false), (1, .go), (2, .supervise 1 .stopping),
    (2, .supervise 1 .exited), (3, .start (.ok ()) 8), (3, .go), (1, .go), (1, .go)]

theorem iosSession_lists_twice_and_other_device :
    (∃ final, run advanceNoted initialNoted markDropped = some final ∧
      final.shared.1.ledger.listings = [(1, 7), (1, 7)]) ∧
    (∃ final, run advanceNoted initialNoted otherDevice = some final ∧
      final.shared.1.ledger.listings = [(1, 8)] ∧ final.shared.2.started 1 = some 7) ∧
    ¬ ∀ (events : List (Event (Action Nat))) final,
      run advanceNoted initialNoted events = some final → ListedOnce final := by
  have twice : ∃ final, run advanceNoted initialNoted markDropped = some final ∧
      final.shared.1.ledger.listings = [(1, 7), (1, 7)] := ⟨_, rfl, rfl⟩
  refine ⟨twice, ⟨_, rfl, rfl, rfl⟩, fun listedOnce => ?_⟩
  obtain ⟨final, ran, listings⟩ := twice
  have once := (listedOnce markDropped final ran).once
  rw [listings] at once
  exact (List.nodup_cons.mp once).1 (.head _)

end QuadControl.Gui.Ios
