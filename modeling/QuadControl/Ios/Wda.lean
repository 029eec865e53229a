import QuadControl.Lib.Interleaving
import QuadControl.Lib.Text

/-! # The WebDriverAgent client

Clones of one client share the session id, the recorded MJPEG settings and the
lock that serialises recreation. A session call that is answered "invalid session"
recreates the session, unless another clone already has, and is sent once more.
Each clone runs one method at a time; a method is a few session calls in a row,
and every access to the shared state and every answer of the device is one step.

What the methods look for in an answer stands for the answer. `Ledger` and
`attempts` record a run for the statements about it; no step reads them.
-/

namespace QuadControl.Ios.Wda

open Lib

variable {Session Element : Type}

inductive Error where
  | wdaSessionFailed (message : Text)
  | activateAppFailed (message : Text)
  | noActiveElement
  | deviceLocked
  | textUnconfirmed
  deriving Repr, DecidableEq

/-- `(fps, quality)`. -/
abbrev Settings := Nat × Nat

/-- What the methods look for in the JSON value of an answer. -/
structure Answer (Element : Type) where
  bool : Option Bool
  element : Option Element
  text : Option Text
  bundleId : Option Text
  pid : Option Nat
  width : Option Nat
  height : Option Nat

/-- The device's answer, or the text of the failure. -/
abbrev Response (Element : Type) := Except Text (Answer Element)

/-- What a method returns. -/
inductive Value where
  | done
  | window (width height : Nat)
  | locked (locked : Bool)
  | app (bundleId : Text) (pid : Nat)
  deriving Repr, DecidableEq

/-- The commands that are not forwarded to a locked device. -/
inductive Command where
  | tap
  | swipe
  | activate (bundleId : Text)
  deriving Repr, DecidableEq

inductive Method where
  | windowSize
  | locked
  | activeApp
  | home
  | command (command : Command)
  | wake
  | sendText (text : Text)
  | configureMjpeg (settings : Settings)
  deriving Repr, DecidableEq

/-- What a session call is made for: its request, and the place in its method. -/
inductive Task where
  | windowSize
  | locked
  | activeApp
  | home
  | beforeCommand (command : Command)
  | command (command : Command)
  | beforeWake
  | unlockFailed
  | unlocked
  | beforeText (text : Text)
  | activeElement (text : Text)
  | settings (settings : Settings)
  deriving Repr, DecidableEq

/-- Where a clone stands. -/
inductive Call (Session Element : Type) where
  | idle (last : Option (Except Error Value))
  -- The session call: about to read the session id, and its first request.
  | calling (task : Task)
  | asking (task : Task) (session : Session)
  -- Recreation: waiting for the lock, and what is done under it.
  | blocked (task : Task) (stale : Session)
  | comparing (task : Task) (stale : Session)
  | creating (task : Task) (stale : Session)
  | storing (task : Task) (stale id : Session)
  | created (task : Task) (stale : Session)
  | replaying (task : Task) (stale : Session) (settings : Settings)
  | configuring (task : Task) (stale session : Session) (settings : Settings)
  -- The session call again: the second request.
  | retrying (task : Task) (stale : Session)
  | reasking (task : Task) (stale session : Session)
  -- `wake` between its session calls.
  | waking
  | unlocking (session : Session)
  | settling
  -- `send_text` behind its session calls. `source` is the session whose answer
  -- held the element; the code does not keep it.
  | holding (text : Text) (element : Element) (source : Session)
  | typing (text : Text) (element : Element) (source session : Session)
  | confirming (text : Text) (element : Element) (source session : Session)

structure Client (Session : Type) where
  sessionId : Option Session
  mjpeg : Option Settings
  /-- The clone that holds `recreate_lock`. -/
  recreateLock : Option Nat

/-- What a run has done, latest first: the ids `POST /session` was issued to replace,
    the sessions the device created for it, the ids stored, the stale ids with which
    recreation has returned, the settings recreation found recorded for a session it
    stored, and the settings a recreation has put into effect. -/
structure Ledger (Session : Type) where
  posts : List Session
  minted : List Session
  stored : List Session
  returned : List Session
  replays : List (Session × Option Settings)
  applied : List (Session × Settings)

structure Shared (Session : Type) where
  client : Client Session
  ledger : Ledger Session

structure Local (Session Element : Type) where
  call : Call Session Element
  /-- The sessions the latest session call has sent its request to, latest first. -/
  attempts : List Session

inductive Action (Session Element : Type) where
  | begin (method : Method)
  /-- The next step of the clone itself. -/
  | go
  /-- The device answers the clone's request. -/
  | answer (response : Response Element)
  /-- The device answers `POST /session`, with or without an id. -/
  | mint (response : Except Text (Option Session))
  /-- The budget of `wake` is used up. -/
  | expire

/-! ### Answers -/

def lower (message : Text) : Text := message.map Char.toLower

def isInvalidSession (message : Text) : Bool :=
  "returned 404".toList <:+: lower message &&
    ("invalid session".toList <:+: lower message ||
      "session does not exist".toList <:+: lower message)

def failed (error : Error) : Call Session Element := .idle (some (.error error))

def succeeded (value : Value) : Call Session Element := .idle (some (.ok value))

def sessionFailed (message : String) : Call Session Element :=
  failed (.wdaSessionFailed message.toList)

def noSession : Call Session Element := sessionFailed "no WDA session has been created"

/-- How a session call wraps the text of a failure. -/
def Task.wrap (task : Task) (message : Text) : Error :=
  match task with
  | .activeElement _ =>
      if "nosuchelement".toList <:+: message then .noActiveElement else .wdaSessionFailed message
  | .command (.activate _) => .activateAppFailed message
  | _ => .wdaSessionFailed message

/-- `locked`'s reading of its answer, and what is done with it. -/
def Answer.whenLocked (answer : Answer Element) (locked unlocked : Call Session Element) :
    Call Session Element :=
  match answer.bool with
  | none => sessionFailed "locked response has no boolean value"
  | some true => locked
  | some false => unlocked

/-- What a method does with the answer to a session call. `source` is the session
    that answered. -/
def Task.proceed (task : Task) (source : Session) (answer : Answer Element) :
    Call Session Element :=
  match task with
  | .windowSize =>
      match answer.width, answer.height with
      | none, _ => sessionFailed "window size has no width"
      | some _, none => sessionFailed "window size has no height"
      | some width, some height => succeeded (.window (width % 2 ^ 32) (height % 2 ^ 32))
  | .locked => answer.whenLocked (succeeded (.locked true)) (succeeded (.locked false))
  | .activeApp =>
      match answer.bundleId with
      | none | some [] => sessionFailed "activeAppInfo has no bundleId"
      | some bundleId => succeeded (.app bundleId (answer.pid.getD 0 % 2 ^ 32))
  | .home | .command _ | .settings _ => succeeded .done
  | .beforeCommand order => answer.whenLocked (failed .deviceLocked) (.calling (.command order))
  | .beforeWake => answer.whenLocked .waking (succeeded .done)
  | .unlockFailed => answer.whenLocked (failed .deviceLocked) (succeeded .done)
  | .unlocked => answer.whenLocked .settling (succeeded .done)
  | .beforeText text => answer.whenLocked (failed .deviceLocked) (.calling (.activeElement text))
  | .activeElement text =>
      match answer.element with
      | none => failed .noActiveElement
      | some element => .holding text element source

/-- The first step of a method, up to its first access to the session. -/
def Method.start : Method → Call Session Element
  | .windowSize => .calling .windowSize
  | .locked => .calling .locked
  | .activeApp => .calling .activeApp
  | .home => .calling .home
  | .command (.activate []) => failed (.activateAppFailed "empty bundle id".toList)
  | .command order => .calling (.beforeCommand order)
  | .wake => .calling .beforeWake
  | .sendText [] => sessionFailed "empty text"
  | .sendText text => .calling (.beforeText text)
  | .configureMjpeg settings => .calling (.settings settings)

/-- `configure_mjpeg` records its settings before it sends them. -/
def Client.record (client : Client Session) : Method → Client Session
  | .configureMjpeg settings => { client with mjpeg := some settings }
  | _ => client

/-- `send_text` compares what it reads back. -/
def readBack (text : Text) (answer : Answer Element) : Call Session Element :=
  if text <:+: answer.text.getD [] then succeeded .done else failed .textUnconfirmed

/-! ### Steps -/

namespace Shared

variable (shared : Shared Session)

def withLock (holder : Option Nat) : Shared Session :=
  { shared with client.recreateLock := holder }

/-- `recreate_session_unless_replaced` returns and drops its guard. -/
def leave (stale : Session) : Shared Session :=
  { client := { shared.client with recreateLock := none }
    ledger := { shared.ledger with returned := stale :: shared.ledger.returned } }

def record (method : Method) : Shared Session :=
  { shared with client := shared.client.record method }

def post (stale : Session) : Shared Session :=
  { shared with ledger.posts := stale :: shared.ledger.posts }

def mint (id : Session) : Shared Session :=
  { shared with ledger.minted := id :: shared.ledger.minted }

/-- `create_session` stores the id it was answered. -/
def store (id : Session) : Shared Session :=
  { client := { shared.client with sessionId := some id }
    ledger := { shared.ledger with stored := id :: shared.ledger.stored } }

def replay (session : Session) : Shared Session :=
  { shared with ledger.replays := (session, shared.client.mjpeg) :: shared.ledger.replays }

def apply (session : Session) (settings : Settings) : Shared Session :=
  { shared with ledger.applied := (session, settings) :: shared.ledger.applied }

end Shared

def Local.at (own : Local Session Element) (call : Call Session Element) : Local Session Element :=
  { own with call := call }

variable [DecidableEq Session]

/-- One step of a clone. -/
def advance : Interleaving.Thread (Shared Session) (Local Session Element)
    (Action Session Element) := fun me shared own action =>
  match own.call, action with
  | .idle _, .begin method => some (shared.record method, own.at method.start)
  -- `session_call`
  | .calling task, .go =>
      match shared.client.sessionId with
      | none => some (shared, own.at noSession)
      | some session => some (shared, ⟨.asking task session, [session]⟩)
  | .asking task session, .answer (.ok answer) => some (shared, own.at (task.proceed session answer))
  | .asking task session, .answer (.error message) =>
      if isInvalidSession message then some (shared, own.at (.blocked task session))
      else some (shared, own.at (failed (task.wrap message)))
  -- `recreate_session_unless_replaced`
  | .blocked task stale, .go =>
      match shared.client.recreateLock with
      | none => some (shared.withLock (some me), own.at (.comparing task stale))
      | some _ => none
  | .comparing task stale, .go =>
      match shared.client.sessionId with
      | none => some (shared.leave stale, own.at noSession)
      | some session =>
          if session ≠ stale then some (shared.leave stale, own.at (.retrying task stale))
          else some (shared.post stale, own.at (.creating task stale))
  | .creating _ stale, .mint (.error message) =>
      some (shared.leave stale, own.at (failed (.wdaSessionFailed message)))
  | .creating _ stale, .mint (.ok none) =>
      some (shared.leave stale, own.at (sessionFailed "WDA response has no sessionId"))
  | .creating task stale, .mint (.ok (some id)) =>
      some (shared.mint id, own.at (.storing task stale id))
  | .storing task stale id, .go => some (shared.store id, own.at (.created task stale))
  | .created task stale, .go =>
      match shared.client.sessionId, shared.client.mjpeg with
      | none, none => some (shared.leave stale, own.at (.retrying task stale))
      | none, some settings => some (shared, own.at (.replaying task stale settings))
      | some session, none =>
          some ((shared.replay session).leave stale, own.at (.retrying task stale))
      | some session, some settings =>
          some (shared.replay session, own.at (.replaying task stale settings))
  | .replaying task stale settings, .go =>
      match shared.client.sessionId with
      | none => some (shared.leave stale, own.at noSession)
      | some session => some (shared, own.at (.configuring task stale session settings))
  | .configuring task stale session settings, .answer (.ok _) =>
      some ((shared.apply session settings).leave stale, own.at (.retrying task stale))
  | .configuring _ stale _ _, .answer (.error message) =>
      some (shared.leave stale, own.at (failed (.wdaSessionFailed message)))
  -- `session_call`, once more
  | .retrying task stale, .go =>
      match shared.client.sessionId with
      | none => some (shared, own.at noSession)
      | some session =>
          some (shared, ⟨.reasking task stale session, session :: own.attempts⟩)
  | .reasking task _ session, .answer (.ok answer) =>
      some (shared, own.at (task.proceed session answer))
  | .reasking task _ _, .answer (.error message) =>
      some (shared, own.at (failed (task.wrap message)))
  -- `wake`
  | .waking, .go =>
      match shared.client.sessionId with
      | none => some (shared, own.at noSession)
      | some session => some (shared, own.at (.unlocking session))
  | .unlocking _, .answer (.ok _) => some (shared, own.at (.calling .unlocked))
  | .unlocking _, .answer (.error _) => some (shared, own.at (.calling .unlockFailed))
  | .settling, .go => some (shared, own.at (.calling .unlocked))
  | .settling, .expire => some (shared, own.at (failed .deviceLocked))
  -- `send_text`
  | .holding text element source, .go =>
      match shared.client.sessionId with
      | none => some (shared, own.at noSession)
      | some session => some (shared, own.at (.typing text element source session))
  | .typing text element source session, .answer (.ok _) =>
      some (shared, own.at (.confirming text element source session))
  | .confirming text _ _ _, .answer (.ok answer) => some (shared, own.at (readBack text answer))
  | .typing _ _ _ _, .answer (.error message) | .confirming _ _ _ _, .answer (.error message) =>
      some (shared, own.at (failed (.wdaSessionFailed message)))
  | _, _ => none

/-- The stale id a call holds the lock for. -/
def Call.recreating : Call Session Element → Option Session
  | .comparing _ stale | .creating _ stale | .storing _ stale _ | .created _ stale
  | .replaying _ stale _ | .configuring _ stale _ _ => some stale
  | _ => none

/-- The calls that have nothing of a session in their hands. -/
def Call.quiet : Call Session Element → Bool
  | .idle _ | .calling _ | .waking | .unlocking _ | .settling => true
  | _ => false

/-- What a step can do, one constructor a kind of step. -/
inductive Step (me : Nat) (shared : Shared Session) :
    Local Session Element → Action Session Element → Shared Session → Local Session Element → Prop
  | begin (last tried method) :
      Step me shared ⟨.idle last, tried⟩ (.begin method) (shared.record method) ⟨method.start, tried⟩
  | ask (task tried session) (current : shared.client.sessionId = some session) :
      Step me shared ⟨.calling task, tried⟩ .go shared ⟨.asking task session, [session]⟩
  | answered (task session answer tried) :
      Step me shared ⟨.asking task session, tried⟩ (.answer (.ok answer)) shared
        ⟨task.proceed session answer, tried⟩
  | invalid (task session message tried) :
      Step me shared ⟨.asking task session, tried⟩ (.answer (.error message)) shared
        ⟨.blocked task session, tried⟩
  | lock (task stale tried) (free : shared.client.recreateLock = none) :
      Step me shared ⟨.blocked task stale, tried⟩ .go (shared.withLock (some me))
        ⟨.comparing task stale, tried⟩
  | replaced (task stale session tried) (current : shared.client.sessionId = some session)
      (other : session ≠ stale) :
      Step me shared ⟨.comparing task stale, tried⟩ .go (shared.leave stale)
        ⟨.retrying task stale, tried⟩
  | post (task stale tried) (current : shared.client.sessionId = some stale) :
      Step me shared ⟨.comparing task stale, tried⟩ .go (shared.post stale)
        ⟨.creating task stale, tried⟩
  | mint (task stale id tried) :
      Step me shared ⟨.creating task stale, tried⟩ (.mint (.ok (some id))) (shared.mint id)
        ⟨.storing task stale id, tried⟩
  | store (task stale id tried) :
      Step me shared ⟨.storing task stale id, tried⟩ .go (shared.store id)
        ⟨.created task stale, tried⟩
  | unrecorded (task stale session tried) (current : shared.client.sessionId = some session)
      (recorded : shared.client.mjpeg = none) :
      Step me shared ⟨.created task stale, tried⟩ .go ((shared.replay session).leave stale)
        ⟨.retrying task stale, tried⟩
  | recorded (task stale session settings tried)
      (current : shared.client.sessionId = some session)
      (recorded : shared.client.mjpeg = some settings) :
      Step me shared ⟨.created task stale, tried⟩ .go (shared.replay session)
        ⟨.replaying task stale settings, tried⟩
  | unstored (task stale tried) (current : shared.client.sessionId = none)
      (recorded : shared.client.mjpeg = none) :
      Step me shared ⟨.created task stale, tried⟩ .go (shared.leave stale)
        ⟨.retrying task stale, tried⟩
  | unstoredRecorded (task stale settings tried) (current : shared.client.sessionId = none)
      (recorded : shared.client.mjpeg = some settings) :
      Step me shared ⟨.created task stale, tried⟩ .go shared ⟨.replaying task stale settings, tried⟩
  | configure (task stale session settings tried)
      (current : shared.client.sessionId = some session) :
      Step me shared ⟨.replaying task stale settings, tried⟩ .go shared
        ⟨.configuring task stale session settings, tried⟩
  | configured (task stale session settings answer tried) :
      Step me shared ⟨.configuring task stale session settings, tried⟩ (.answer (.ok answer))
        ((shared.apply session settings).leave stale) ⟨.retrying task stale, tried⟩
  | postFailed (task stale response tried error) (idless : ∀ id, response ≠ .ok (some id)) :
      Step me shared ⟨.creating task stale, tried⟩ (.mint response) (shared.leave stale)
        ⟨failed error, tried⟩
  | replayFailed (task stale session settings message tried error) :
      Step me shared ⟨.configuring task stale session settings, tried⟩ (.answer (.error message))
        (shared.leave stale) ⟨failed error, tried⟩
  | orphaned (call stale tried error) (recreating : call.recreating = some stale)
      (current : shared.client.sessionId = none) :
      Step me shared ⟨call, tried⟩ .go (shared.leave stale) ⟨failed error, tried⟩
  | retry (task stale session tried) (current : shared.client.sessionId = some session) :
      Step me shared ⟨.retrying task stale, tried⟩ .go shared
        ⟨.reasking task stale session, session :: tried⟩
  | reanswered (task stale session answer tried) :
      Step me shared ⟨.reasking task stale session, tried⟩ (.answer (.ok answer)) shared
        ⟨task.proceed session answer, tried⟩
  | type (text element source session tried) (current : shared.client.sessionId = some session) :
      Step me shared ⟨.holding text element source, tried⟩ .go shared
        ⟨.typing text element source session, tried⟩
  | confirm (text element source session answer tried) :
      Step me shared ⟨.typing text element source session, tried⟩ (.answer (.ok answer)) shared
        ⟨.confirming text element source session, tried⟩
  | quiet (call next : Call Session Element) (tried action) (free : call.recreating = none)
      (quiet : next.quiet = true) :
      Step me shared ⟨call, tried⟩ action shared ⟨next, tried⟩

/-- The clones of a client with a session, all idle. -/
def initial (sessionId : Option Session) (mjpeg : Option Settings) :
    Interleaving.Pool (Shared Session) (Local Session Element) :=
  ⟨⟨⟨sessionId, mjpeg, none⟩, ⟨[], sessionId.toList, sessionId.toList, [], [], []⟩⟩,
    fun _ => ⟨.idle none, []⟩⟩

theorem Step.of_advance {me : Nat} {shared shared' : Shared Session}
    {own own' : Local Session Element} {action : Action Session Element}
    (h : advance me shared own action = some (shared', own')) :
    Step me shared own action shared' own' := by
  obtain ⟨call, tried⟩ := own
  unfold advance at h
  split at h
  all_goals
    try simp only at *
    subst_vars
    try simp only [Local.at] at h
  · cases h
    exact .begin ..
  · split at h
    · cases h
      exact .quiet _ _ _ _ rfl rfl
    · cases h
      exact .ask _ _ _ ‹_›
  · cases h
    exact .answered ..
  · split at h
    · cases h
      exact .invalid ..
    · cases h
      exact .quiet _ _ _ _ rfl rfl
  · split at h
    · cases h
      exact .lock _ _ _ ‹_›
    · cases h
  · split at h
    · cases h
      exact .orphaned _ _ _ _ rfl ‹_›
    · rename_i session current
      split at h
      · cases h
        exact .replaced _ _ _ _ current ‹_›
      · rename_i same
        cases h
        exact .post _ _ _ (not_not.mp same ▸ current)
  · cases h
    exact .postFailed _ _ _ _ _ fun id impossible => by cases impossible
  · cases h
    exact .postFailed _ _ _ _ _ fun id impossible => by cases impossible
  · cases h
    exact .mint ..
  · cases h
    exact .store ..
  · split at h
    · cases h
      exact .unstored _ _ _ ‹_› ‹_›
    · cases h
      exact .unstoredRecorded _ _ _ _ ‹_› ‹_›
    · cases h
      exact .unrecorded _ _ _ _ ‹_› ‹_›
    · cases h
      exact .recorded _ _ _ _ _ ‹_› ‹_›
  · split at h
    · cases h
      exact .orphaned _ _ _ _ rfl ‹_›
    · cases h
      exact .configure _ _ _ _ _ ‹_›
  · cases h
    exact .configured ..
  · cases h
    exact .replayFailed ..
  · split at h
    · cases h
      exact .quiet _ _ _ _ rfl rfl
    · cases h
      exact .retry _ _ _ _ ‹_›
  · cases h
    exact .reanswered ..
  · cases h
    exact .quiet _ _ _ _ rfl rfl
  · split at h
    · cases h
      exact .quiet _ _ _ _ rfl rfl
    · cases h
      exact .quiet _ _ _ _ rfl rfl
  · cases h
    exact .quiet _ _ _ _ rfl rfl
  · cases h
    exact .quiet _ _ _ _ rfl rfl
  · cases h
    exact .quiet _ _ _ _ rfl rfl
  · cases h
    exact .quiet _ _ _ _ rfl rfl
  · split at h
    · cases h
      exact .quiet _ _ _ _ rfl rfl
    · cases h
      exact .type _ _ _ _ _ ‹_›
  · cases h
    exact .confirm ..
  · cases h
    unfold readBack
    split
    · exact .quiet _ _ _ _ rfl rfl
    · exact .quiet _ _ _ _ rfl rfl
  · cases h
    exact .quiet _ _ _ _ rfl rfl
  · cases h
    exact .quiet _ _ _ _ rfl rfl
  · cases h

end QuadControl.Ios.Wda
