import QuadControl.Apple.AndroidDisplay
import QuadControl.Apple.PairingPayload

/-! # The phone's connection model

The model runs on the main actor, one operation or callback after the other. A session's
callbacks come as tasks of their own, in any order and at any time after the attempt,
also when another attempt is under way. An attempt's UUID is taken as its number; the
session goes on by itself, and only whether the model holds it is followed here.
-/

namespace QuadControl.Apple.Connection

open Lib Lib.Utf8 Diagnostic Diagnostic.Constants

inductive ConnectionStatus where
  | notConnected
  | invalidHostOrPort
  | invalidToken
  | connecting
  | authenticating
  | connected
  | disconnected
  | setupFailed
  | invalidScannedCode
  | rejectedScannedHost
  | cameraUnavailable
  | failed (failure : Failure)
  deriving Repr, DecidableEq

/-- A session, with the attempt whose callbacks it was given. -/
structure Session where
  attempt : Nat
  client : Client
  deriving DecidableEq

structure ConnectionModel where
  host : Text
  port : Text
  token : Text
  status : ConnectionStatus
  isConnected : Bool
  isSessionActive : Bool
  session : Option Session
  attemptID : Option Nat
  deriving DecidableEq

/-- What a session is told. -/
inductive Told where
  | start (attempt : Nat)
  | close (attempt : Nat)
  deriving Repr, DecidableEq

/-- The model, the number of the next attempt, and what sessions were told, the latest first. -/
structure App where
  model : ConnectionModel
  nextAttempt : Nat
  told : List Told
  deriving DecidableEq

/-- `UInt16(_:)` of a string. -/
def parseUInt16 (s : Text) : Option UInt16 := do
  let value ← parseInt s
  if 0 ≤ value ∧ value < 2 ^ 16 then some (UInt16.ofNat value.toNat) else none

namespace ConnectionModel

variable (model : ConnectionModel)

def clearToken : ConnectionModel := { model with token := [] }

/-- The model refuses, or a scanned code is refused. -/
def refuse (status : ConnectionStatus) : ConnectionModel :=
  { model with status := status }.clearToken

/-- The attempt is over. -/
def finish (status : ConnectionStatus) : ConnectionModel :=
  { model with
    attemptID := none
    session := none
    isSessionActive := false
    isConnected := false
    status := status }

/-- The port, if there is no session and the fields of the endpoint can be used. -/
def endpointPort : Option UInt16 :=
  if model.session.isSome ∨ model.host = [] then none
  else do
    let port ← parseUInt16 model.port
    if 0 < port then some port else none

/-- `apply(_:attemptID:)`, for the current attempt. -/
def applyState : DiagnosticClientState → ConnectionModel
  | .connecting => { model with status := .connecting }.clearToken
  | .authenticating => { model with status := .authenticating }.clearToken
  | .connected => { model with isConnected := true, status := .connected }.clearToken
  | .disconnected => (model.finish .disconnected).clearToken
  | .failed failure => (model.finish (.failed failure)).clearToken

/-- The completion of `start`, for the current attempt. -/
def complete : Except Failure Unit → ConnectionModel
  | .error failure => (model.finish (.failed failure)).clearToken
  | .ok () => model.clearToken

end ConnectionModel

namespace App

/-- `ConnectionModel()`. -/
def launched : App :=
  ⟨⟨[], "47100".toList, [], .notConnected, false, false, none, none⟩, 0, []⟩

variable (platform : Platform) (app : App)

/-- The attempt itself, once the endpoint and the token are read. -/
def attempt (port : UInt16) (enteredToken : Bytes) (connectionID : RandomData identifierLength)
    (clientNonce : RandomData nonceLength) : App :=
  let nextAttemptID := app.nextAttempt
  let model := { app.model.clearToken with attemptID := some nextAttemptID }
  match newSession platform model.host port enteredToken connectionID clientNonce with
  | .ok client =>
      { model := { model with
          session := some ⟨nextAttemptID, client⟩
          isSessionActive := true
          status := .connecting }
        nextAttempt := nextAttemptID + 1
        told := .start nextAttemptID :: app.told }
  | .error _ =>
      { app with model := (model.finish .setupFailed).clearToken, nextAttempt := nextAttemptID + 1 }

def connect (connectionID : RandomData identifierLength) (clientNonce : RandomData nonceLength) :
    App :=
  match app.model.endpointPort with
  | none => { app with model := app.model.refuse .invalidHostOrPort }
  | some port =>
      match PairingToken.decode platform app.model.token with
      | .error _ => { app with model := app.model.refuse .invalidToken }
      | .ok enteredToken => app.attempt platform port enteredToken connectionID clientNonce

/-- `apply(scannedPayload:)`. -/
def scan (data : Bytes) (connectionID : RandomData identifierLength)
    (clientNonce : RandomData nonceLength) : App :=
  match DiagnosticPairingPayload.decode platform data with
  | .error _ => { app with model := app.model.refuse .invalidScannedCode }
  | .ok payload =>
      if DiagnosticAddressPolicy.isAllowedClientHost platform payload.host = false then
        { app with model := app.model.refuse .rejectedScannedHost }
      else
        let model := { app.model with
          host := payload.host
          port := Nat.toDigits 10 payload.port.toNat
          token := payload.token }
        { app with model := model }.connect platform connectionID clientNonce

def disconnect : App :=
  { app with
    model := (app.model.finish .disconnected).clearToken
    told := (app.model.session.map fun session => Told.close session.attempt).toList ++ app.told }

end App

/-- An operation, a callback, or what the screen does to the model by itself. -/
inductive Event where
  | connect (connectionID : RandomData identifierLength) (clientNonce : RandomData nonceLength)
  | disconnect
  | scan (data : Bytes) (connectionID : RandomData identifierLength)
      (clientNonce : RandomData nonceLength)
  | state (attempt : Nat) (state : DiagnosticClientState)
  | completion (attempt : Nat) (result : Except Failure Unit)
  | edit (host port token : Text)
  | cameraUnavailable

namespace Event

def isOperation : Event → Bool
  | .connect _ _ | .disconnect | .scan _ _ _ => true
  | _ => false

/-- The attempt that calls back. -/
def caller : Event → Option Nat
  | .state attempt _ | .completion attempt _ => some attempt
  | _ => none

end Event

variable (platform : Platform)

def step (app : App) : Event → App
  | .connect connectionID clientNonce => app.connect platform connectionID clientNonce
  | .disconnect => app.disconnect
  | .scan data connectionID clientNonce => app.scan platform data connectionID clientNonce
  | .state attempt state =>
      if app.model.attemptID ≠ some attempt then app
      else { app with model := app.model.applyState state }
  | .completion attempt result =>
      if app.model.attemptID ≠ some attempt then app
      else { app with model := app.model.complete result }
  | .edit host port token => { app with model := { app.model with host, port, token } }
  | .cameraUnavailable => { app with model := { app.model with status := .cameraUnavailable } }

def run (app : App) (events : List Event) : App := events.foldl (step platform) app

/-! ### The fields of an attempt -/

/-- The session is that of the attempt under way, which was the last to begin. -/
structure Consistent (app : App) : Prop where
  session : app.model.session.map Session.attempt = app.model.attemptID
  active : app.model.isSessionActive = app.model.attemptID.isSome
  connected : app.model.isConnected = true → app.model.isSessionActive = true
  newest : ∀ attempt, app.model.attemptID = some attempt → attempt + 1 = app.nextAttempt

theorem consistent_launched : Consistent App.launched := by
  constructor
  · rfl
  · rfl
  · nofun
  · nofun

/-- Where the fields of the attempt stay, so does their agreement. -/
theorem Consistent.of_same {app next : App} (consistent : Consistent app)
    (session : next.model.session = app.model.session)
    (attemptID : next.model.attemptID = app.model.attemptID)
    (active : next.model.isSessionActive = app.model.isSessionActive)
    (connected : next.model.isConnected = true → app.model.isSessionActive = true)
    (count : next.nextAttempt = app.nextAttempt) : Consistent next where
  session := by rw [session, attemptID, consistent.session]
  active := by rw [active, attemptID, consistent.active]
  connected := active ▸ connected
  newest := by rw [attemptID, count]; exact consistent.newest

/-- Without an attempt there is nothing to agree on. -/
theorem Consistent.of_none {app : App} (session : app.model.session = none)
    (attemptID : app.model.attemptID = none) (active : app.model.isSessionActive = false)
    (connected : app.model.isConnected = false) : Consistent app where
  session := by rw [session, attemptID]; rfl
  active := by rw [active, attemptID]; rfl
  connected := by rw [connected]; nofun
  newest := by rw [attemptID]; nofun

variable {platform : Platform} {app : App}

theorem consistent_attempt (port : UInt16) (enteredToken : Bytes)
    (connectionID : RandomData identifierLength) (clientNonce : RandomData nonceLength) :
    Consistent (app.attempt platform port enteredToken connectionID clientNonce) := by
  dsimp only [App.attempt]
  split
  · refine ⟨rfl, rfl, fun _ => rfl, fun attempt same => ?_⟩
    obtain rfl := Option.some.inj same
    rfl
  · exact .of_none rfl rfl rfl rfl

theorem Consistent.connect (consistent : Consistent app)
    (connectionID : RandomData identifierLength) (clientNonce : RandomData nonceLength) :
    Consistent (app.connect platform connectionID clientNonce) := by
  unfold App.connect
  split
  · exact consistent.of_same rfl rfl rfl consistent.connected rfl
  · split
    · exact consistent.of_same rfl rfl rfl consistent.connected rfl
    · exact consistent_attempt ..

theorem Consistent.step (consistent : Consistent app) (event : Event) :
    Consistent (step platform app event) := by
  cases event with
  | connect connectionID clientNonce => exact consistent.connect connectionID clientNonce
  | disconnect => exact .of_none rfl rfl rfl rfl
  | scan data connectionID clientNonce =>
      simp only [Connection.step, App.scan]
      split
      · exact consistent.of_same rfl rfl rfl consistent.connected rfl
      · split
        · exact consistent.of_same rfl rfl rfl consistent.connected rfl
        · refine Consistent.connect ?_ connectionID clientNonce
          exact consistent.of_same rfl rfl rfl consistent.connected rfl
  | state attempt state =>
      simp only [Connection.step]
      split
      · exact consistent
      case isFalse current =>
        have active : app.model.isSessionActive = true := by
          rw [consistent.active, not_not.mp current]
          rfl
        cases state with
        | connecting | authenticating =>
            exact consistent.of_same rfl rfl rfl consistent.connected rfl
        | connected => exact consistent.of_same rfl rfl rfl (fun _ => active) rfl
        | disconnected | failed => exact .of_none rfl rfl rfl rfl
  | completion attempt result =>
      simp only [Connection.step]
      split
      · exact consistent
      · cases result with
        | error failure => exact .of_none rfl rfl rfl rfl
        | ok => exact consistent.of_same rfl rfl rfl consistent.connected rfl
  | edit | cameraUnavailable => exact consistent.of_same rfl rfl rfl consistent.connected rfl

theorem consistent_run (consistent : Consistent app) (events : List Event) :
    Consistent (run platform app events) := by
  induction events generalizing app with
  | nil => exact consistent
  | cons event events ih => exact ih (consistent.step event)

/-! ### The token -/

theorem token_connect (connectionID : RandomData identifierLength)
    (clientNonce : RandomData nonceLength) :
    (app.connect platform connectionID clientNonce).model.token = [] := by
  unfold App.connect
  split
  · rfl
  · split
    · rfl
    · dsimp only [App.attempt]
      split <;> rfl

theorem token_of_operation {event : Event} (operation : event.isOperation = true) :
    (step platform app event).model.token = [] := by
  cases event with
  | connect connectionID clientNonce => exact token_connect connectionID clientNonce
  | disconnect => rfl
  | scan data connectionID clientNonce =>
      simp only [step, App.scan]
      split
      · rfl
      · split
        · rfl
        · exact token_connect connectionID clientNonce
  | _ => cases operation

theorem token_of_current {event : Event} {attempt : Nat} (called : event.caller = some attempt)
    (current : app.model.attemptID = some attempt) :
    (step platform app event).model.token = [] := by
  cases event with
  | state caller state =>
      obtain rfl := Option.some.inj called
      simp only [step, current, ne_eq, not_true_eq_false, if_false]
      cases state <;> rfl
  | completion caller result =>
      obtain rfl := Option.some.inj called
      simp only [step, current, ne_eq, not_true_eq_false, if_false]
      cases result <;> rfl
  | _ => cases called

theorem step_of_stale {event : Event} {attempt : Nat} (called : event.caller = some attempt)
    (stale : app.model.attemptID ≠ some attempt) : step platform app event = app := by
  cases event with
  | state caller state =>
      obtain rfl := Option.some.inj called
      exact if_pos stale
  | completion caller result =>
      obtain rfl := Option.some.inj called
      exact if_pos stale
  | _ => cases called

/-- Whatever the model is told and called back, in whatever order: the session, the
    attempt and the flag go together, a connection needs them, attempts that are not
    current (all but the newest among them) change nothing, and no token is left. -/
theorem connectionModel_consistent (platform : Platform) (events : List Event) (event : Event) :
    let before := run platform App.launched events
    let after := step platform before event
    ((after.model.session.isSome ∧ after.model.attemptID.isSome ∧
        after.model.isSessionActive = true) ∨
      after.model.session = none ∧ after.model.attemptID = none ∧
        after.model.isSessionActive = false) ∧
    (after.model.isConnected = true → after.model.isSessionActive = true) ∧
    (∀ attempt, event.caller = some attempt →
      before.model.attemptID ≠ some attempt ∨ attempt + 1 ≠ before.nextAttempt →
      after = before) ∧
    (event.isOperation = true ∨ (∃ attempt, event.caller = some attempt ∧
      before.model.attemptID = some attempt) → after.model.token = []) := by
  intro before after
  have start : Consistent before := consistent_run consistent_launched events
  have consistent : Consistent after := start.step event
  refine ⟨?_, consistent.connected, ?_, ?_⟩
  · have together := consistent.session
    have active := consistent.active
    cases current : after.model.attemptID with
    | none =>
        rw [current, Option.map_eq_none_iff] at together
        rw [current] at active
        exact .inr ⟨together, rfl, active⟩
    | some attempt =>
        rw [current, Option.map_eq_some_iff] at together
        rw [current] at active
        obtain ⟨session, held, -⟩ := together
        exact .inl ⟨by rw [held]; rfl, rfl, active⟩
  · intro attempt called stale
    refine step_of_stale called ?_
    rcases stale with other | old
    · exact other
    · exact fun current => old (start.newest attempt current)
  · rintro (operation | ⟨attempt, called, current⟩)
    · exact token_of_operation operation
    · exact token_of_current called current

/-- The platform on the token of 32 zeros and on one address. -/
def samplePlatform : Platform where
  count := List.length
  base64Decoded value :=
    if value = List.replicate 43 'A' ++ ['='] then some (List.replicate 32 0) else none
  jsonDecoded _ := none
  ipv4Address host := if host = "10.0.0.7".toList then some [10, 0, 0, 7] else none
  ipv6Address _ := none

example :
    let random (n : Nat) : RandomData n := ⟨List.replicate n 1, List.length_replicate⟩
    let app := run samplePlatform App.launched
      [.edit "10.0.0.7".toList "47100".toList (List.replicate 43 'A'),
        .connect (random _) (random _), .state 0 .connecting, .state 0 .connected]
    app.model.isConnected = true ∧ app.model.token = [] ∧ app.told = [.start 0] := by
  decide

end QuadControl.Apple.Connection
