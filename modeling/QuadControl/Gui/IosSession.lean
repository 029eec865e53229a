import QuadControl.Lib.Interleaving
import QuadControl.Lib.Text

/-! # The desktop shell's iOS session

Calls of `start_ios_session`, `stop_ios_session` and `ios_session_status` share one
slot for the session, the UDID of its device and the metadata of the status polls,
each under a lock of its own. A thread is one call, with the listing of the installed
apps a poll leaves behind; each of its lock sections and each answer from outside is
one step. A lock that is taken inside another's section belongs to that section.

Clones of a handle are told apart by the id the start gave them; the counter is not
taken to wrap. What only the front end sees of a poll (the answer it builds, the frame
rate, the reasons of an exit) is left out.
-/

namespace QuadControl.Gui.Ios

open Lib

variable {Device : Type}

/-! ### Sessions and their slot -/

/-- `IosSessionStatus`. -/
inductive Status where
  | starting
  | running
  | stopping
  | exited
  | failed
  deriving Repr, DecidableEq

/-- `ios_session_is_live`. -/
def Status.isLive : Status → Bool
  | .starting | .running | .stopping => true
  | .exited | .failed => false

/-- What the supervising thread makes of a status. -/
def Status.follows : Status → Status → Bool
  | .starting, .running | .starting, .stopping | .running, .stopping => true
  | .stopping, .exited | .stopping, .failed => true
  | _, _ => false

/-- Why a handle has not come back from the spawning of a session. -/
inductive SpawnError where
  | workerFailed
  | spawnFailed (code : Text)
  deriving Repr, DecidableEq

inductive StartError where
  | refused (code : Text)
  | alreadyRunning
  | spawn (error : SpawnError)
  deriving Repr, DecidableEq

def SpawnError.code : SpawnError → Text
  | .workerFailed => "ios_process_error".toList
  | .spawnFailed code => code

def StartError.code : StartError → Text
  | .refused code => code
  | .alreadyRunning => "ios_session_already_running".toList
  | .spawn error => error.code

/-- `IosSlot`. What the slot is for besides the handle (the call that put the
    placeholder there, its session and its device) is not kept by the code. -/
inductive Slot (Device : Type) where
  | starting (caller id : Nat) (udid : Device)
  | failed (code : Text)
  | handle (id : Nat) (udid : Device)
  deriving Repr, DecidableEq

def Slot.session : Slot Device → Option (Nat × Device)
  | .starting _ id udid | .handle id udid => some (id, udid)
  | .failed _ => none

/-- `slot_status`, and the session id the poll takes with it. -/
def Slot.snapshot (statuses : Nat → Status) : Slot Device → Status × Nat
  | .starting _ _ _ => (.starting, 0)
  | .failed _ => (.failed, 0)
  | .handle id _ => (statuses id, id)

/-- `ios_slot_is_live`. -/
def iosSlotIsLive (statuses : Nat → Status) : Slot Device → Bool
  | .starting _ _ _ => true
  | .failed _ => false
  | .handle id _ => (statuses id).isLive

/-! ### Metadata of the polls -/

structure WindowSize where
  width : Nat
  height : Nat
  deriving Repr, DecidableEq

/-- A value, and the session whose client was asked for it, which the code does not keep. -/
structure Cached (α : Type) where
  value : α
  source : Nat
  deriving Repr, DecidableEq

/-- With the session whose client reported the app. -/
structure RecentApp where
  bundleId : Text
  name : Option Text
  source : Nat
  deriving Repr, DecidableEq

structure InstalledApp where
  bundleId : Text
  name : Text
  deriving Repr, DecidableEq

/-- Display names by bundle id. -/
abbrev Names := Text → Option Text

/-- `IosMeta`. -/
structure IosMeta where
  window : Option (Cached WindowSize)
  locked : Option (Cached Bool)
  recentApps : List RecentApp
  installed : Option (Cached Names)
  installedRequested : Option Nat
  polls : Nat
  sessionId : Option Nat

/-- `IosMeta::default()`. -/
def IosMeta.default : IosMeta := ⟨none, none, [], none, none, 0, none⟩

def recentAppsLimit : Nat := 8

def springboardBundleId : Text := "com.apple.springboard".toList

/-- `remember_recent_app`. -/
def rememberRecentApp (list : List RecentApp) (bundleId : Text) (installed : Option Names)
    (source : Nat) : List RecentApp :=
  if bundleId = [] ∨ Text.eqIgnoreAsciiCase bundleId springboardBundleId then list
  else
    let others := list.filter fun app => app.bundleId ≠ bundleId
    (⟨bundleId, installed.bind fun map => map bundleId, source⟩ :: others).take recentAppsLimit

/-- The names a listing gives; of two for one bundle id the later stands. -/
def displayNames (apps : List InstalledApp) : Names :=
  (apps.filter fun app => app.name.trim ≠ []).foldl
    (fun names app => Function.update names app.bundleId (some app.name)) fun _ => none

/-- One answer of the poll's queries that is stored. -/
inductive Answer where
  | locked (value : Bool)
  | window (size : WindowSize)
  | app (bundleId : Text)
  deriving Repr, DecidableEq

namespace IosMeta

variable (metadata : IosMeta)

/-- The running poll counts itself and names its session. -/
def mark (id : Nat) : IosMeta :=
  { metadata with sessionId := some id, polls := (metadata.polls + 1) % 2 ^ 64 }

/-- The session `source` was asked; the code stores its answer whatever session the
    metadata is of. -/
def cache (source : Nat) : Answer → IosMeta
  | .locked value => { metadata with locked := some ⟨value, source⟩ }
  | .window size => { metadata with window := some ⟨size, source⟩ }
  | .app bundleId =>
      { metadata with
        recentApps := rememberRecentApp metadata.recentApps bundleId
          (metadata.installed.map Cached.value) source }

def request (id : Nat) : IosMeta := { metadata with installedRequested := some id }

def install (id : Nat) (apps : List InstalledApp) : IosMeta :=
  { metadata with installed := some ⟨displayNames apps, id⟩ }

end IosMeta

/-! ### Calls -/

/-- A start call past the writing of `device_id`, with what it found there, which it
    does not look at. -/
structure Start (Device : Type) where
  udid : Device
  before : Option Device
  deriving Repr, DecidableEq

/-- Where a call stands. -/
inductive Call (Device : Type) where
  | idle
  -- `start_ios_session`: past `device_id`, in `spawn_supervised`, and with what came back.
  | recorded (start : Start Device)
  | spawning (start : Start Device) (id : Nat)
  | failing (start : Start Device) (id : Nat) (error : SpawnError)
  | spawned (start : Start Device) (id : Nat)
  | startReturned (start : Start Device) (result : Except StartError Unit)
  -- `stop_ios_session`: past `device_id`.
  | stopping
  -- `ios_session_status` of a session that does not run: the metadata, then `device_id`.
  | resetting (status : Status)
  | discarding
  -- `ios_session_status` of a session that runs, with or without a client.
  | marking (id : Nat) (client : Bool)
  | querying (id : Nat) (active : Bool)
  | storing (id : Nat) (answers : List Answer)
  -- `spawn_installed_apps_load`, the last two in the background.
  | loading (id : Nat)
  | requesting (id : Nat) (udid : Device)
  | listing (id : Nat) (udid : Device)
  | naming (id : Nat) (apps : List InstalledApp)
  | done
  deriving Repr, DecidableEq

inductive Action (Device : Type) where
  /-- With what `ios_launch_allowed` says. -/
  | start (allowed : Except Text Unit) (udid : Device)
  | stop
  /-- With or without a client in the handle, if the session runs. -/
  | status (client : Bool)
  /-- The next section of the call. -/
  | go
  | spawned (result : Except SpawnError Unit)
  /-- What the queries bring; none where one fails. -/
  | answered (locked : Option Bool) (window : Option WindowSize) (app : Option Text)
  | listed (apps : Option (List InstalledApp))
  /-- The supervising thread of a session changes its status. -/
  | supervise (id : Nat) (status : Status)

/-- `IosSessionStore`. -/
structure Store (Device : Type) where
  slot : Option (Slot Device)
  nextId : Nat
  metadata : IosMeta
  deviceId : Option Device

/-- What a run has done: the sessions that a stop was requested for while they were in
    the slot, the session whose handle came into the slot last, and the listings of
    installed apps with their session and device. No step reads it. -/
structure Ledger (Device : Type) where
  stopped : List Nat
  latest : Option Nat
  listings : List (Nat × Device)

structure Shared (Device : Type) where
  store : Store Device
  /-- By session id; `exited` where no session has been spawned. -/
  statuses : Nat → Status
  ledger : Ledger Device

namespace Shared

variable (shared : Shared Device)

def slotIsLive : Bool := shared.store.slot.any (iosSlotIsLive shared.statuses)

/-- The session in the slot, live or not. -/
def session : Option (Nat × Device) := shared.store.slot.bind Slot.session

/-- The fallback's question: is there a handle of a live session? -/
def handleIsLive : Bool :=
  match shared.store.slot with
  | some (.handle id _) => (shared.statuses id).isLive
  | _ => false

def setDeviceId (udid : Option Device) : Shared Device :=
  { shared with store.deviceId := udid }

def setSlot (slot : Slot Device) : Shared Device := { shared with store.slot := some slot }

def setMetadata (metadata : IosMeta) : Shared Device := { shared with store.metadata := metadata }

def setStatus (id : Nat) (status : Status) : Shared Device :=
  { shared with statuses := Function.update shared.statuses id status }

/-- The placeholder of a start call, and its session's id. -/
def place (caller : Nat) (udid : Device) : Shared Device :=
  { shared with
    store.slot := some (.starting caller shared.store.nextId udid)
    store.nextId := shared.store.nextId + 1 }

/-- The handle takes the slot, and the metadata starts over. -/
def adopt (id : Nat) (udid : Device) : Shared Device :=
  { shared with
    store.slot := some (.handle id udid)
    store.metadata := .default
    ledger.latest := some id }

/-- A stop is requested for a session. -/
def stop (id : Nat) : Shared Device :=
  { shared with ledger.stopped := id :: shared.ledger.stopped }

/-- A stop is requested for the session in the slot, if there is one. -/
def stopSlot : Shared Device :=
  match shared.session with
  | none => shared
  | some (id, _) => shared.stop id

@[simp] theorem stopSlot_store : shared.stopSlot.store = shared.store := by
  unfold stopSlot
  split <;> rfl

@[simp] theorem stopSlot_statuses : shared.stopSlot.statuses = shared.statuses := by
  unfold stopSlot
  split <;> rfl

@[simp] theorem stopSlot_latest : shared.stopSlot.ledger.latest = shared.ledger.latest := by
  unfold stopSlot
  split <;> rfl

/-- A listing of the installed apps is launched. -/
def launch (id : Nat) (udid : Device) : Shared Device :=
  { shared with
    store.metadata := shared.store.metadata.request id
    ledger.listings := (id, udid) :: shared.ledger.listings }

end Shared

/-- The answers of a poll's queries, in the order they are stored. -/
def answers (locked : Option Bool) (window : Option WindowSize) (app : Option Text) :
    List Answer :=
  (locked.map Answer.locked).toList ++ (window.map Answer.window).toList ++
    (app.map Answer.app).toList

/-- One step of a call. -/
def advance : Interleaving.Thread (Shared Device) (Call Device) (Action Device) :=
  fun me shared call action =>
  match call, action with
  | call, .supervise id status =>
      if (shared.statuses id).follows status then some (shared.setStatus id status, call) else none
  -- `start_ios_session`
  | .idle, .start (.error code) udid =>
      some (shared, .startReturned ⟨udid, shared.store.deviceId⟩ (.error (.refused code)))
  | .idle, .start (.ok ()) udid =>
      some (shared.setDeviceId (some udid), .recorded ⟨udid, shared.store.deviceId⟩)
  | .recorded start, .go =>
      if shared.slotIsLive then some (shared, .startReturned start (.error .alreadyRunning))
      else some (shared.place me start.udid, .spawning start shared.store.nextId)
  | .spawning start id, .spawned (.error error) => some (shared, .failing start id error)
  | .spawning start id, .spawned (.ok ()) =>
      some (shared.setStatus id .starting, .spawned start id)
  | .failing start _ error, .go =>
      some (shared.setSlot (.failed error.code), .startReturned start (.error (.spawn error)))
  | .spawned start id, .go =>
      if shared.handleIsLive then
        some (shared.stop id, .startReturned start (.error .alreadyRunning))
      else some (shared.adopt id start.udid, .startReturned start (.ok ()))
  -- `stop_ios_session`
  | .idle, .stop => some (shared.stopSlot.setDeviceId none, .stopping)
  | .stopping, .go => some (shared.stopSlot, .done)
  -- `ios_session_status`
  | .idle, .status client =>
      match shared.store.slot.map (Slot.snapshot shared.statuses) with
      | none => some (shared, .done)
      | some (.running, id) => some (shared, .marking id client)
      | some (status, _) => some (shared, .resetting status)
  | .resetting status, .go =>
      some (shared.setMetadata .default,
        if status = .exited ∨ status = .failed then .discarding else .done)
  | .discarding, .go => some (shared.setDeviceId none, .done)
  | .marking id client, .go =>
      let metadata := shared.store.metadata.mark id
      some (shared.setMetadata metadata,
        if client then .querying id (metadata.polls % 2 = 1) else .loading id)
  | .querying id active, .answered locked window app =>
      some (shared, .storing id (answers locked window (if active then app else none)))
  | .storing id [], .go => some (shared, .loading id)
  | .storing id (answer :: rest), .go =>
      some (shared.setMetadata (shared.store.metadata.cache id answer), .storing id rest)
  -- `spawn_installed_apps_load`
  | .loading id, .go =>
      match shared.store.deviceId with
      | none => some (shared, .done)
      | some udid => some (shared, .requesting id udid)
  | .requesting id udid, .go =>
      if shared.store.metadata.installedRequested = some id then some (shared, .done)
      else some (shared.launch id udid, .listing id udid)
  | .listing _ _, .listed none => some (shared, .done)
  | .listing id _, .listed (some apps) => some (shared, .naming id apps)
  | .naming id apps, .go =>
      if shared.store.metadata.sessionId ≠ some id then some (shared, .done)
      else some (shared.setMetadata (shared.store.metadata.install id apps), .done)
  | _, _ => none

/-- The session a start call has put its placeholder into the slot for. -/
def Call.installing : Call Device → Option (Nat × Device)
  | .spawning start id | .failing start id _ | .spawned start id => some (id, start.udid)
  | _ => none

/-- A call in `spawn_supervised`. -/
def Call.isSpawning : Call Device → Bool
  | .spawning _ _ => true
  | _ => false

/-- The calls that are in the hands of a poll, or of nobody. -/
def Call.isPoll : Call Device → Bool
  | .recorded _ | .spawning _ _ | .failing _ _ _ | .spawned _ _ | .startReturned _ _
  | .stopping => false
  | _ => true

/-- The calls of a poll that have found a running session. -/
def Call.isQuery : Call Device → Bool
  | .querying _ _ | .storing _ _ | .loading _ | .requesting _ _ | .listing _ _ | .naming _ _ => true
  | _ => false

/-- What a step can do, one constructor a kind of step. -/
inductive Step (me : Nat) (shared : Shared Device) :
    Call Device → Action Device → Shared Device → Call Device → Prop
  | supervise (call id status) (follows : (shared.statuses id).follows status = true) :
      Step me shared call (.supervise id status) (shared.setStatus id status) call
  | refuse (code udid) :
      Step me shared .idle (.start (.error code) udid) shared
        (.startReturned ⟨udid, shared.store.deviceId⟩ (.error (.refused code)))
  | record (udid) :
      Step me shared .idle (.start (.ok ()) udid) (shared.setDeviceId (some udid))
        (.recorded ⟨udid, shared.store.deviceId⟩)
  | reject (start) (live : shared.slotIsLive = true) :
      Step me shared (.recorded start) .go shared (.startReturned start (.error .alreadyRunning))
  | place (start) (free : shared.slotIsLive = false) :
      Step me shared (.recorded start) .go (shared.place me start.udid)
        (.spawning start shared.store.nextId)
  | spawnFailed (start id error) :
      Step me shared (.spawning start id) (.spawned (.error error)) shared (.failing start id error)
  | spawn (start id) :
      Step me shared (.spawning start id) (.spawned (.ok ())) (shared.setStatus id .starting)
        (.spawned start id)
  | fail (start id error) :
      Step me shared (.failing start id error) .go (shared.setSlot (.failed error.code))
        (.startReturned start (.error (.spawn error)))
  | fallBack (start id) (live : shared.handleIsLive = true) :
      Step me shared (.spawned start id) .go (shared.stop id)
        (.startReturned start (.error .alreadyRunning))
  | adopt (start id) (free : shared.handleIsLive = false) :
      Step me shared (.spawned start id) .go (shared.adopt id start.udid)
        (.startReturned start (.ok ()))
  | clear : Step me shared .idle .stop (shared.stopSlot.setDeviceId none) .stopping
  | stop : Step me shared .stopping .go shared.stopSlot .done
  | discard : Step me shared .discarding .go (shared.setDeviceId none) .done
  | reset (status next) (poll : next.isPoll = true) :
      Step me shared (.resetting status) .go (shared.setMetadata .default) next
  | mark (id client next) (poll : next.isPoll = true) :
      Step me shared (.marking id client) .go
        (shared.setMetadata (shared.store.metadata.mark id)) next
  | cache (id answer rest) :
      Step me shared (.storing id (answer :: rest)) .go
        (shared.setMetadata (shared.store.metadata.cache id answer)) (.storing id rest)
  | launch (id udid) : Step me shared (.requesting id udid) .go (shared.launch id udid)
      (.listing id udid)
  | name (id apps) (current : shared.store.metadata.sessionId = some id) :
      Step me shared (.naming id apps) .go
        (shared.setMetadata (shared.store.metadata.install id apps)) .done
  | poll (client next) (poll : next.isPoll = true) :
      Step me shared .idle (.status client) shared next
  | look (call next : Call Device) (action) (query : call.isQuery = true)
      (poll : next.isPoll = true) : Step me shared call action shared next

/-- No session, and no call under way. -/
def initial : Interleaving.Pool (Shared Device) (Call Device) :=
  ⟨⟨⟨none, 1, .default, none⟩, fun _ => .exited, ⟨[], none, []⟩⟩, fun _ => .idle⟩

theorem Step.of_advance {me : Nat} {shared shared' : Shared Device} {call call' : Call Device}
    {action : Action Device} (h : advance me shared call action = some (shared', call')) :
    Step me shared call action shared' call' := by
  unfold advance at h
  split at h
  · split at h
    · cases h
      exact .supervise _ _ _ ‹_›
    · cases h
  · cases h
    exact .refuse ..
  · cases h
    exact .record _
  · split at h
    · cases h
      exact .reject _ ‹_›
    · cases h
      exact .place _ (Bool.not_eq_true _ ▸ ‹_›)
  · cases h
    exact .spawnFailed ..
  · cases h
    exact .spawn ..
  · cases h
    exact .fail ..
  · split at h
    · cases h
      exact .fallBack _ _ ‹_›
    · cases h
      exact .adopt _ _ (Bool.not_eq_true _ ▸ ‹_›)
  · cases h
    exact .clear
  · cases h
    exact .stop
  · split at h <;> cases h <;> exact .poll _ _ rfl
  · cases h
    exact .reset _ _ (by split <;> rfl)
  · cases h
    exact .discard
  · cases h
    exact .mark _ _ _ (by split <;> rfl)
  · cases h
    exact .look _ _ _ rfl rfl
  · cases h
    exact .look _ _ _ rfl rfl
  · cases h
    exact .cache ..
  · split at h <;> cases h <;> exact .look _ _ _ rfl rfl
  · split at h
    · cases h
      exact .look _ _ _ rfl rfl
    · cases h
      exact .launch ..
  · cases h
    exact .look _ _ _ rfl rfl
  · cases h
    exact .look _ _ _ rfl rfl
  · split at h
    · cases h
      exact .look _ _ _ rfl rfl
    · rename_i same
      cases h
      exact .name _ _ (not_not.mp same)
  · cases h

end QuadControl.Gui.Ios
