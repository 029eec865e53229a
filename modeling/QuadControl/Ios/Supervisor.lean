import QuadControl.Ios.Wda

/-! # The supervisor of an iOS session

The supervising thread owns the child processes: the tunnel, the runner and two forwards.
It starts them one after the other, creates the session on the device, runs until it is
asked to stop or something dies, and shuts everything down in one order. Callers hold a
handle; other processes of the host may take and release the tunnel's information port.

Every access to a cell that callers see, every call of the system and every answer is a
step. What a step finds (an answer, an exit, a deadline) comes with it.
-/

namespace QuadControl.Ios.Supervisor

open Lib

/-! ### Errors and statuses -/

/-- `Error`, without the texts of the diagnostics. -/
inductive Error where
  | iosNotFound
  | iosVersion
  | tunnelPortBusy
  | tunnelFailed
  | wdaNotInstalled
  | wdaSignatureExpired
  | wdaUnreachable
  | wdaSessionFailed
  | forwardFailed
  | proxyFailed
  | deviceLocked
  | textUnconfirmed
  | noActiveElement
  | activateAppFailed
  | process
  deriving Repr, DecidableEq

def Error.code : Error → String
  | iosNotFound => "ios_not_found"
  | iosVersion => "ios_version"
  | tunnelPortBusy => "tunnel_port_busy"
  | tunnelFailed => "tunnel_failed"
  | wdaNotInstalled => "wda_not_installed"
  | wdaSignatureExpired => "wda_signature_expired"
  | wdaUnreachable => "wda_unreachable"
  | wdaSessionFailed => "wda_session_failed"
  | forwardFailed => "forward_failed"
  | proxyFailed => "proxy_failed"
  | deviceLocked => "device_locked"
  | textUnconfirmed => "text_unconfirmed"
  | noActiveElement => "no_active_element"
  | activateAppFailed => "activate_app_failed"
  | process => "ios_process_error"

def Error.ofWda : Wda.Error → Error
  | .wdaSessionFailed _ => wdaSessionFailed
  | .activateAppFailed _ => activateAppFailed
  | .noActiveElement => noActiveElement
  | .deviceLocked => deviceLocked
  | .textUnconfirmed => textUnconfirmed

inductive ChildKind where
  | tunnel
  | runWda
  | forwardHttp
  | forwardMjpeg
  deriving Repr, DecidableEq

inductive ExitReason where
  | requested
  | childExited (which : ChildKind) (code : Int)
  | upstreamClosed
  deriving Repr, DecidableEq

/-- `IosSessionStatus`. -/
inductive Status where
  | starting
  | running (proxyPort : Nat)
  | stopping
  | exited (reason : ExitReason)
  | failed (code : String)
  deriving Repr, DecidableEq

/-- What `start_session` returns. -/
abbrev Outcome := Except Error ExitReason

/-- The status `supervise` ends with. -/
def Outcome.status : Outcome → Status
  | .ok reason => .exited reason
  | .error error => .failed error.code

/-! ### Child processes -/

/-- A `SupervisedChild`. -/
structure Child where
  kind : ChildKind
  pid : Nat
  deriving Repr, DecidableEq

/-- Why `spawn_child` fails. -/
inductive SpawnFailure where
  | configure
  | notFound
  | other
  deriving Repr, DecidableEq

/-- `spawn_child` wraps what it has no error of its own for. -/
def SpawnFailure.error (wrap : Error) : SpawnFailure → Error
  | configure => .process
  | notFound => .iosNotFound
  | other => wrap

def signatureKeywords : List Text :=
  ["signature".toList, "certificate".toList, "provisioning".toList, "expired".toList,
    "codesign".toList, "ineligible".toList]

def notInstalledKeywords : List Text :=
  ["not installed".toList, "notinstalled".toList, "could not find".toList,
    "no such bundle".toList, "application not found".toList]

def mentions (tail keyword : Text) : Bool := keyword <:+: Wda.lower tail

def classifyChildFailure (kind : ChildKind) (tail : Text) : Error :=
  match kind with
  | .runWda =>
      if signatureKeywords.any (mentions tail) then .wdaSignatureExpired
      else if notInstalledKeywords.any (mentions tail) then .wdaNotInstalled
      else .wdaUnreachable
  | .tunnel => .tunnelFailed
  | .forwardHttp | .forwardMjpeg => .forwardFailed

def addressInUse (tail : Text) : Bool := mentions tail "address already in use".toList

/-- The two forwards. -/
inductive Forward where
  | http
  | mjpeg
  deriving Repr, DecidableEq

def Forward.kind : Forward → ChildKind
  | http => .forwardHttp
  | mjpeg => .forwardMjpeg

def forwardPortAttempts : Nat := 5

/-! ### The supervisor -/

/-- What `await_tunnel` and `await_status` wait for. -/
inductive Wait where
  | tunnel
  | status
  deriving Repr, DecidableEq

/-- The error at the deadline. -/
def Wait.late : Wait → Error
  | tunnel => .tunnelFailed
  | status => .wdaUnreachable

/-- The rungs of `terminate_all`. -/
inductive Signal where
  | interrupt
  | terminate
  | kill
  deriving Repr, DecidableEq

/-- Where the supervisor stands. -/
inductive Point where
  /-- `spawn_supervised`: there is no handle yet, or never. -/
  | preflight
  | refused (error : Error)
  -- `start_session`
  | spawningTunnel
  | polling (wait : Wait)
  | checking (wait : Wait)
  | asking (wait : Wait)
  | timing (wait : Wait)
  | spawningRunner
  -- `spawn_forward`, with the attempts that are left
  | reserving (forward : Forward) (attempts : Nat)
  | forwarding (forward : Forward) (attempts : Nat)
  | settling (forward : Forward) (attempts pid : Nat)
  | losing (forward : Forward) (attempts pid : Nat) (tail : Text)
  -- `start_session` again
  | creating
  | beginning
  | configuring
  | startingProxy
  | storing (proxyPort : Nat)
  | publishing (proxyPort : Nat)
  -- `run_until_stop`
  | listening
  | watching
  | looking
  -- `shutdown`
  | ending (outcome : Outcome)
  | stoppingProxy (outcome : Outcome)
  | taking (outcome : Outcome)
  | deleting (outcome : Outcome)
  | signalling (outcome : Outcome) (signal : Signal)
  | leaving (outcome : Outcome) (signal : Signal)
  | reaping (outcome : Outcome) (left : List Child)
  -- `supervise` again
  | reporting (outcome : Outcome)
  | sending
  | finished
  deriving DecidableEq

/-- Who listens on the tunnel's information port. -/
inductive Holder where
  | free
  | foreign
  | child (pid : Nat)
  deriving Repr, DecidableEq

/-- The proxy's upstream, as the supervisor asks for it. -/
inductive Upstream where
  | alive
  | failed
  | closed
  deriving Repr, DecidableEq

/-- What the supervisor has done. -/
inductive Deed where
  | spawned (kind : ChildKind) (pid : Nat)
  /-- The tunnel was found ready, in an answer of this holder of the port. -/
  | tunnelReady (holder : Holder) (listed : List Text)
  | created (id : Text)
  | deleted (id : Text)
  | signalled (signal : Signal)
  deriving Repr, DecidableEq

/-- The device's session, with the clones of the client. -/
abbrev Clones := Interleaving.Pool (Wda.Shared Text) (Wda.Local Text Text)

structure Session where
  point : Point
  /-- `Shared`, as handles read it. -/
  status : Status
  client : Bool
  /-- The messages in the two channels. -/
  stops : Nat
  done : Nat
  children : List Child
  proxy : Option Upstream
  wda : Clones
  /-- Who has a clone of the client, from `IosSessionHandle::client`. -/
  handed : Nat → Bool
  /-- The host: processes are numbered as they are spawned. -/
  spawned : Nat
  exited : Nat → Option Int
  port : Holder
  /-- Notes: the processes that were waited for, what was done and every status written. -/
  waited : List Nat
  deeds : List Deed
  statuses : List Status

/-- `IosLaunchOptions`, as far as the supervisor decides on it. -/
structure Options where
  udid : Text
  /-- `LaunchMode::Launch`; attaching spawns nothing. -/
  launches : Bool
  deriving Repr, DecidableEq

namespace Session

/-- Before `spawn_supervised`, with whatever is on the tunnel's information port. -/
def initial (port : Holder) : Session where
  point := .preflight
  status := .starting
  client := false
  stops := 0
  done := 0
  children := []
  proxy := none
  wda := Wda.initial none none
  handed _ := false
  spawned := 0
  exited _ := none
  port := port
  waited := []
  deeds := []
  statuses := []

/-- What a step of the supervisor finds. -/
inductive Choice where
  | go
  /-- `check_version`. -/
  | version (error : Option Error)
  | spawn (failure : Option SpawnFailure)
  | reserve (reserved : Bool)
  /-- The first child that `try_wait` finds exited, with its tail. -/
  | child (dead : Option (Child × Text))
  /-- The devices that `GET /tunnels` lists, if it answers. -/
  | tunnels (listed : Option (List Text))
  | status (ok : Bool)
  | late (late : Bool)
  /-- The tail of a forward that exits before it has settled. -/
  | settle (tail : Option Text)
  | session (id : Option Text)
  | proxy (port : Option Nat)
  | gone (gone : Bool)
  deriving DecidableEq

inductive Input where
  | go (choice : Choice)
  /-- `IosSessionHandle::request_stop` and `IosSessionHandle::client`. -/
  | requestStop
  | client (caller : Nat)
  | clone (event : Interleaving.Event (Wda.Action Text Text))
  | exits (pid : Nat) (code : Int)
  | upstream (upstream : Upstream)
  | foreignBinds
  | childBinds (pid : Nat)
  | releases

variable (options : Options) (session : Session)

def goto (point : Point) : Session := { session with point }

def fail (error : Error) : Session := session.goto (.ending (.error error))

def finish (reason : ExitReason) : Session := session.goto (.ending (.ok reason))

def setStatus (status : Status) : Session :=
  { session with status, statuses := session.statuses ++ [status] }

def note (deed : Deed) : Session := { session with deeds := session.deeds ++ [deed] }

/-- A process is spawned, that is not among the children yet. -/
def spawn (kind : ChildKind) : Session :=
  { session.note (.spawned kind session.spawned) with spawned := session.spawned + 1 }

def push (kind : ChildKind) (pid : Nat) : Session :=
  { session with children := session.children ++ [⟨kind, pid⟩] }

/-- `spawn_child`, and the push of its child. -/
def spawnChild (kind : ChildKind) (wrap : Error) (next : Point) :
    Option SpawnFailure → Session
  | some failure => session.fail (failure.error wrap)
  | none => ((session.spawn kind).push kind session.spawned).goto next

def wait (pid : Nat) : Session := { session with waited := session.waited ++ [pid] }

def isExited (pid : Nat) : Bool := (session.exited pid).isSome

/-- `try_recv` on the channel of the stops. -/
def receive (next : Point) : Session :=
  match session.stops with
  | 0 => session.goto next
  | stops + 1 => { session.finish .requested with stops }

/-- The preflight of `spawn_supervised`. -/
def preflight (error : Option Error) : Session :=
  if options.launches then
    match error with
    | some error => session.goto (.refused error)
    | none =>
        if session.port = .free then (session.setStatus .starting).goto .spawningTunnel
        else session.goto (.refused .tunnelPortBusy)
  else (session.setStatus .starting).goto (.polling .status)

/-- `tunnel_is_registered`: whoever holds the port answers. -/
def askTunnels (listed : Option (List Text)) : Option Session :=
  match listed with
  | none => some (session.goto (.timing .tunnel))
  | some listed =>
      if session.port = .free then none
      else if options.udid ∈ listed then
        some ((session.note (.tunnelReady session.port listed)).goto .spawningRunner)
      else some (session.goto (.timing .tunnel))

/-- `spawn_forward`, once its child was spawned. -/
def settle (forward : Forward) (attempts pid : Nat) : Option Text → Option Session
  | none =>
      some ((session.push forward.kind pid).goto
        (match forward with
        | .http => .reserving .mjpeg forwardPortAttempts
        | .mjpeg => .polling .status))
  | some tail =>
      if session.isExited pid then some (session.goto (.losing forward attempts pid tail)) else none

/-- `spawn_forward`, behind the wait for a child that exited. -/
def lose (forward : Forward) (attempts : Nat) (tail : Text) : Session :=
  if addressInUse tail then
    match attempts with
    | 0 | 1 => session.fail .forwardFailed
    | attempts + 2 => session.goto (.reserving forward (attempts + 1))
  else session.fail (classifyChildFailure forward.kind tail)

/-- `create_session`. -/
def create (id : Text) : Session :=
  { (session.note (.created id)).goto .beginning with
    wda := { session.wda with shared := (session.wda.shared.mint id).store id } }

/-- `configure_mjpeg(MJPEG_FPS, MJPEG_QUALITY)` begins on the supervisor's own clone. -/
def beginConfigure : Option Session :=
  (Interleaving.step Wda.advance session.wda (0, .begin (.configureMjpeg (30, 30)))).map
    fun wda => { session.goto .configuring with wda }

/-- It has come back. -/
def configured : Option Session :=
  match (session.wda.threads 0).call with
  | .idle (some (.ok _)) => some (session.goto .startingProxy)
  | .idle (some (.error error)) => some (session.fail (.ofWda error))
  | _ => none

/-- Behind the stop of the proxy and the session. -/
def terminate (outcome : Outcome) : Session :=
  session.goto (if session.children = [] then .reaping outcome [] else .signalling outcome .interrupt)

/-- `wait_all_for`, or the waits behind the last signal. -/
def climb (outcome : Outcome) (signal : Signal) (gone : Bool) : Option Session :=
  if gone then
    if session.children.all fun child => session.isExited child.pid then
      some (session.goto (.reaping outcome session.children))
    else none
  else
    match signal with
    | .interrupt => some (session.goto (.signalling outcome .terminate))
    | .terminate => some (session.goto (.signalling outcome .kill))
    | .kill => some (session.goto (.reaping outcome session.children))

/-- A step of the supervising thread. -/
def supervise (choice : Choice) : Option Session :=
  match session.point, choice with
  | .preflight, .version error => some (session.preflight options error)
  | .spawningTunnel, .spawn failure =>
      some (session.spawnChild .tunnel .tunnelFailed (.polling .tunnel) failure)
  -- `await_tunnel` and `await_status`
  | .polling wait, .go => some (session.receive (.checking wait))
  | .checking wait, .child none => some (session.goto (.asking wait))
  | .checking _, .child (some (child, tail)) =>
      if child ∈ session.children ∧ session.isExited child.pid then
        some (session.fail (classifyChildFailure child.kind tail))
      else none
  | .asking .tunnel, .tunnels listed => session.askTunnels options listed
  | .asking .status, .status ok => some (session.goto (if ok then .creating else .timing .status))
  | .timing wait, .late late =>
      some (if late then session.fail wait.late else session.goto (.polling wait))
  | .spawningRunner, .spawn failure =>
      some (session.spawnChild .runWda .wdaUnreachable (.reserving .http forwardPortAttempts)
        failure)
  -- `spawn_forward`
  | .reserving forward attempts, .reserve reserved =>
      some (if reserved then session.goto (.forwarding forward attempts)
        else session.fail .forwardFailed)
  | .forwarding forward attempts, .spawn failure =>
      match failure with
      | some failure => some (session.fail (failure.error .forwardFailed))
      | none =>
          some ((session.spawn forward.kind).goto (.settling forward attempts session.spawned))
  | .settling forward attempts pid, .settle tail => session.settle forward attempts pid tail
  | .losing forward attempts pid tail, .go => some ((session.wait pid).lose forward attempts tail)
  -- the session on the device, and the proxy
  | .creating, .session id =>
      some (match id with
        | some id => session.create id
        | none => session.fail .wdaSessionFailed)
  | .beginning, .go => session.beginConfigure
  | .configuring, .go => session.configured
  | .startingProxy, .proxy port =>
      some (match port with
        | some port => { session.goto (.storing port) with proxy := some .alive }
        | none => session.fail .proxyFailed)
  | .storing port, .go => some { session.goto (.publishing port) with client := true }
  | .publishing port, .go => some ((session.setStatus (.running port)).goto .listening)
  -- `run_until_stop`
  | .listening, .go => some (session.receive .watching)
  | .watching, .go =>
      some (match session.proxy with
        | some .failed => session.fail .proxyFailed
        | some .closed => session.finish .upstreamClosed
        | some .alive | none => session.goto .looking)
  | .looking, .child none => some (session.goto .listening)
  | .looking, .child (some (child, _)) =>
      if child ∈ session.children then
        (session.exited child.pid).map fun code => session.finish (.childExited child.kind code)
      else none
  -- `shutdown`
  | .ending outcome, .go => some ((session.setStatus .stopping).goto (.stoppingProxy outcome))
  | .stoppingProxy outcome, .go => some { session.goto (.taking outcome) with proxy := none }
  | .taking outcome, .go =>
      some (if session.client then { session.goto (.deleting outcome) with client := false }
        else session.terminate outcome)
  | .deleting outcome, .go =>
      some (match session.wda.shared.client.sessionId with
        | some id => (session.note (.deleted id)).terminate outcome
        | none => session.terminate outcome)
  | .signalling outcome signal, .go =>
      some ((session.note (.signalled signal)).goto (.leaving outcome signal))
  | .leaving outcome signal, .gone gone => session.climb outcome signal gone
  | .reaping outcome (child :: left), .go =>
      if session.isExited child.pid then
        some ((session.wait child.pid).goto (.reaping outcome left))
      else none
  | .reaping outcome [], .go => some { session.goto (.reporting outcome) with children := [] }
  -- `supervise`
  | .reporting outcome, .go => some ((session.setStatus outcome.status).goto .sending)
  | .sending, .go => some { session.goto .finished with done := session.done + 1 }
  | _, _ => none

/-- `spawn_supervised` has returned a handle. -/
def hasHandle : Bool :=
  match session.point with
  | .preflight | .refused _ => false
  | _ => true

/-- Clones that were handed out run as their callers like, the supervisor's own runs what it
    began. -/
def mayRun (event : Interleaving.Event (Wda.Action Text Text)) : Bool :=
  match event with
  | (0, .begin _) => false
  | (0, _) => session.point = .configuring
  | (caller + 1, _) => session.handed (caller + 1)

def exit (pid : Nat) (code : Int) : Session :=
  { session with
    exited := Function.update session.exited pid (some code)
    port := if session.port = .child pid then .free else session.port }

def step : Input → Option Session
  | .go choice => session.supervise options choice
  | .requestStop =>
      if session.hasHandle then some { session with stops := session.stops + 1 } else none
  | .client caller =>
      if session.hasHandle then
        some { session with
          handed := Function.update session.handed caller (session.handed caller || session.client) }
      else none
  | .clone event =>
      if session.mayRun event then
        (Interleaving.step Wda.advance session.wda event).map fun wda => { session with wda }
      else none
  | .exits pid code =>
      if pid < session.spawned ∧ session.isExited pid = false then some (session.exit pid code)
      else none
  | .upstream upstream =>
      if session.proxy = some .alive then some { session with proxy := some upstream } else none
  | .foreignBinds => if session.port = .free then some { session with port := .foreign } else none
  | .childBinds pid =>
      if session.port = .free ∧ ⟨.tunnel, pid⟩ ∈ session.children ∧ session.isExited pid = false then
        some { session with port := .child pid }
      else none
  | .releases => some { session with port := .free }

end Session

end QuadControl.Ios.Supervisor
