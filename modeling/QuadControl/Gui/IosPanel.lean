import QuadControl.Gui.IosSession

/-! # The iOS panel of the window

The window's script is one thread that runs its handlers from one await to the next. The
ticks of the status poll and the clicks on the session button are its tasks; each awaits
one call of the back end at a time, which is served in sections of its own. Which device
the session is of is known to the window only.
-/

namespace QuadControl.Gui.Ios

open Lib

variable {Device : Type} [DecidableEq Device]

/-! ### The window -/

/-- `iosSessionIsLive`; a state of `none` is `idle`. -/
def iosSessionIsLive (state : Option Status) : Bool := state.any Status.isLive

/-- The variables of the script that tell of the session. -/
structure Front (Device : Type) where
  iosSessionDeviceId : Option Device
  /-- `iosStatus.state`. -/
  iosStatus : Option Status
  iosPollInFlight : Bool
  deriving Repr, DecidableEq

namespace Front

variable (front : Front Device)

/-- `iosOwnsSelectedDevice`, for the device that is selected. -/
def owns (device : Device) : Bool := front.iosSessionDeviceId = some device

/-- What `iosViewModel` takes the state of the device to be. -/
def stateOf (device : Device) : Option Status := if front.owns device then front.iosStatus else none

/-- `iosSessionIsUnowned`. -/
def isUnowned (device : Device) : Bool := !front.owns device && iosSessionIsLive front.iosStatus

def isDisconnect (device : Device) : Bool :=
  front.stateOf device = some .running || front.stateOf device = some .stopping ||
    front.isUnowned device

/-- `actionDisabled`. -/
def actionDisabled (windows : Bool) (device : Device) : Bool :=
  front.stateOf device = some .starting || front.stateOf device = some .stopping ||
    (windows && !front.isDisconnect device)

/-- A click on the button stops a session, or it starts one. -/
def clickStops (device : Device) : Bool :=
  iosSessionIsLive (front.stateOf device) || front.isUnowned device

/-- The poll's first two guards. -/
def polls (selected : Bool) : Bool :=
  (selected || front.iosSessionDeviceId.isSome) && !front.iosPollInFlight

def keepLocalFailure (next : Option Status) : Bool :=
  next = none && front.iosStatus = some .failed && front.iosSessionDeviceId.isSome

/-- What `pollIosStatus` makes of an answer. -/
def receive (next : Option Status) : Front Device :=
  let front := { front with iosPollInFlight := false }
  if front.keepLocalFailure next then front
  else
    { front with
      iosStatus := next
      iosSessionDeviceId := if next = none then none else front.iosSessionDeviceId }

def begin (device : Device) : Front Device :=
  { front with iosSessionDeviceId := some device, iosStatus := some .starting }

/-- The end of a stop. -/
def settle : Front Device := { front with iosSessionDeviceId := none, iosStatus := none }

def setStatus (status : Status) : Front Device := { front with iosStatus := some status }

end Front

/-! ### Tasks -/

inductive Request (Device : Type) where
  | start (udid : Device)
  | stop
  | status
  deriving Repr, DecidableEq

/-- Where a task awaits what, by the number of the call. -/
inductive Task (Device : Type) where
  | unused
  -- `pollIosStatus`
  | polling (call : Nat)
  -- `handleIosSessionAction`, the last two in `waitForIosSettled`.
  | starting (call : Nat) (device : Device)
  | stopping (call : Nat)
  | settling (call : Nat)
  | sleeping
  | done
  deriving Repr, DecidableEq

/-- The window and the back end, with the calls that were made and the states that the
    status calls have found. The last two are nobody's: the starts that are awaited, by
    task, and the sessions that were started, live on and were not stopped by the user. -/
structure Desktop (Device : Type) where
  back : Interleaving.Pool (Shared Device) (Call Device)
  front : Front Device
  tasks : Nat → Task Device
  requests : Nat → Option (Request Device)
  answers : Nat → Option (Option Status)
  starts : List (Nat × Device)
  kept : List (Nat × Device)

inductive Input (Device : Type) where
  /-- The second of the poll; an iPhone may be selected. -/
  | tick (task call : Nat) (selected : Bool)
  /-- The session button, with the device that is selected, perhaps on Windows. -/
  | click (task call : Nat) (device : Device) (windows : Bool)
  /-- A section of a call in the back end. -/
  | serve (call : Nat) (action : Action Device)
  /-- The answer of the call that a task awaits, which for a stop may be a failure; with
      the number of a call that may follow. -/
  | reply (task next : Nat) (selected stopFailed : Bool)
  | wake (task call : Nat)
  /-- The deadline of `waitForIosSettled` has passed. -/
  | expire (task : Nat)

/-- A call begins as it was made. -/
def Action.answersTo (request : Option (Request Device)) : Action Device → Bool
  | .start _ udid => request = some (.start udid)
  | .stop => request = some .stop
  | .status _ => request = some .status
  | _ => true

/-- A status call whose answer has been sent. -/
def Call.isAnswered : Call Device → Bool
  | .done | .listing _ _ | .naming _ _ => true
  | _ => false

namespace Desktop

def initial : Desktop Device :=
  ⟨Ios.initial, ⟨none, none, false⟩, fun _ => .unused, fun _ => none, fun _ => none, [], []⟩

variable (desktop : Desktop Device)

def setTask (i : Nat) (task : Task Device) : Desktop Device :=
  { desktop with tasks := Function.update desktop.tasks i task }

def setFront (front : Front Device) : Desktop Device := { desktop with front := front }

/-- A task makes a call and awaits it. -/
def send (i call : Nat) (task : Task Device) (request : Request Device) : Option (Desktop Device) :=
  if desktop.requests call = none then
    some { desktop.setTask i task with
      requests := Function.update desktop.requests call (some request) }
  else none

/-- `pollIosStatus` as it is called. -/
def poll (i call : Nat) (selected : Bool) : Option (Desktop Device) :=
  if desktop.front.polls selected then
    (desktop.setFront { desktop.front with iosPollInFlight := true }).send i call (.polling call)
      .status
  else some (desktop.setTask i .done)

/-- `handleIosSessionAction` as it is called. -/
def act (i call : Nat) (device : Device) : Option (Desktop Device) :=
  if desktop.front.clickStops device then
    { desktop.setFront (desktop.front.setStatus .stopping) with kept := [] }.send i call
      (.stopping call) .stop
  else
    { desktop.setFront (desktop.front.begin device) with
      starts := (i, device) :: desktop.starts }.send i call (.starting call device) (.start device)

/-- The sessions kept after a section: a handle that comes into the slot, an end. -/
def keptAfter (call : Nat) (action : Action Device) : List (Nat × Device) :=
  match desktop.back.threads call, action with
  | .spawned start id, .go =>
      if !desktop.back.shared.handleIsLive && (desktop.back.shared.statuses id).isLive then
        (id, start.udid) :: desktop.kept
      else desktop.kept
  | _, .supervise id status =>
      if status.isLive then desktop.kept else desktop.kept.filter fun entry => entry.1 ≠ id
  | _, _ => desktop.kept

/-- The state that a status call finds. -/
def answersAfter (call : Nat) : Action Device → Nat → Option (Option Status)
  | .status _ =>
      let shared := desktop.back.shared
      Function.update desktop.answers call
        (some (shared.store.slot.map fun slot => (slot.snapshot shared.statuses).1))
  | _ => desktop.answers

def serve (call : Nat) (action : Action Device) : Option (Desktop Device) :=
  if action.answersTo (desktop.requests call) then
    (Interleaving.step advance desktop.back (call, action)).map fun back =>
      { desktop with
        back := back
        answers := desktop.answersAfter call action
        kept := desktop.keptAfter call action }
  else none

/-- The answer of a status call. -/
def statusAnswer (call : Nat) : Option (Option Status) :=
  if (desktop.back.threads call).isAnswered then desktop.answers call else none

/-- The session is taken to be over. -/
def settle (i : Nat) : Desktop Device := (desktop.setFront desktop.front.settle).setTask i .done

/-- The start is not awaited any more. -/
def forget (i : Nat) : Desktop Device :=
  { desktop with starts := desktop.starts.filter fun entry => entry.1 ≠ i }

/-- A task goes on with what it awaited. -/
def reply (i next : Nat) (selected stopFailed : Bool) : Option (Desktop Device) :=
  match desktop.tasks i with
  | .polling call =>
      (desktop.statusAnswer call).map fun state =>
        (desktop.setFront (desktop.front.receive state)).setTask i .done
  | .starting call _ =>
      match desktop.back.threads call with
      | .startReturned _ (.ok ()) => (desktop.forget i).poll i next selected
      | .startReturned _ (.error _) =>
          some (((desktop.forget i).setFront (desktop.front.setStatus .failed)).setTask i .done)
      | _ => none
  | .stopping call =>
      match desktop.back.threads call with
      | .done =>
          if stopFailed then some (desktop.settle i) else desktop.send i next (.settling next) .status
      | _ => none
  | .settling call =>
      (desktop.statusAnswer call).map fun state =>
        if iosSessionIsLive state then desktop.setTask i .sleeping else desktop.settle i
  | _ => none

/-- One step of the window or the back end. -/
def step (desktop : Desktop Device) : Input Device → Option (Desktop Device)
  | .tick i call selected =>
      if desktop.tasks i = .unused then desktop.poll i call selected else none
  | .click i call device windows =>
      if desktop.tasks i = .unused ∧ desktop.front.actionDisabled windows device = false then
        desktop.act i call device
      else none
  | .serve call action => desktop.serve call action
  | .reply i next selected stopFailed => desktop.reply i next selected stopFailed
  | .wake i call =>
      if desktop.tasks i = .sleeping then desktop.send i call (.settling call) .status else none
  | .expire i => if desktop.tasks i = .sleeping then some (desktop.settle i) else none

end Desktop

end QuadControl.Gui.Ios
