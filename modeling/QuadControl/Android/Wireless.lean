import QuadControl.Lib.Text

/-! # Wireless pairing: services, errors and rounds

The pure parts of the pairing flow: what mDNS services match, the GUID in the output
of `adb pair`, the errors, and the state of a pairing round. Outputs of `adb` are text,
and processes, clocks and the host's errors are met where they are used.
-/

namespace QuadControl.Android.Wireless

open Lib

/-! ### Services and GUIDs -/

structure MdnsService where
  instanceName : Text
  service : Text
  address : Text
  port : Nat
  deriving Repr, DecidableEq

def pairingService : Text := "_adb-tls-pairing._tcp".toList

def connectService : Text := "_adb-tls-connect._tcp".toList

/-- `find_pairing_services`. -/
def findPairingServices (services : List MdnsService) (name : Text) : List MdnsService :=
  services.filter fun service => service.service = pairingService ∧ service.instanceName = name

/-- `format!("{}:{}", service.address, service.port)`. -/
def MdnsService.endpoint (service : MdnsService) : Text :=
  service.address ++ ':' :: Nat.toDigits 10 service.port

/-- `find_guid`. -/
def findGuid (output : Text) : Option Text :=
  (Text.splitWhitespace output).findSome? fun word => do
    let token ← Text.stripSuffix [']'] (← Text.stripPrefix "[guid=".toList word)
    let rest ← Text.stripPrefix "adb-".toList token
    if rest ≠ [] ∧ rest.all fun c => c.isAlphanum || c = '-' then some token else none

/-- `serial_matches_guid`. -/
def serialMatchesGuid (serial guid : Text) : Bool :=
  serial = guid ||
    match Text.stripPrefix guid serial with
    | some ('.' :: _) => true
    | _ => false

/-- `connect_service_for_guid`. -/
def connectServiceForGuid (services : List MdnsService) (guid : Text) : Option MdnsService :=
  services.find? fun service =>
    service.service = connectService && serialMatchesGuid service.instanceName guid

/-- `stderr_summary`. -/
def stderrSummary (stderr secret : Text) : Text :=
  let redacted := stderr.trim
  let redacted :=
    if secret ≠ [] then Text.replace secret "[redacted]".toList redacted else redacted
  redacted.take 512

/-! ### Errors -/

/-- `WirelessError`, an error of the host by its text. -/
inductive WirelessError where
  | io (error : Text)
  | adbNotFound
  | timedOut
  | outputTooLarge
  | commandFailed (error : Text)
  | invalidAdbVersion
  | adbTooOld (major minor patch : Nat)
  | mdnsUnavailable
  | pairOutputUnparseable
  | noMatchingService
  | devices (error : Text)
  | invalidInput (error : Text)
  | cancelled
  | roundTimedOut
  | serviceLost
  deriving Repr, DecidableEq

/-- `Display` of an error. -/
def WirelessError.text : WirelessError → Text
  | .io error => "ADB process error: ".toList ++ error
  | .adbNotFound => "未找到 adb，请安装 Android platform-tools".toList
  | .timedOut => "adb 命令超时".toList
  | .outputTooLarge => "adb 输出超过限制".toList
  | .commandFailed error => "adb 命令失败: ".toList ++ error
  | .invalidAdbVersion => "无法解析 adb 客户端版本".toList
  | .adbTooOld major minor patch =>
      "adb ".toList ++ Nat.toDigits 10 major ++ '.' :: Nat.toDigits 10 minor ++
        '.' :: Nat.toDigits 10 patch ++ " 过旧，需要 30.0.0 或更高版本".toList
  | .mdnsUnavailable =>
      ("adb mDNS 不可用。可能是已在运行的 adb server 版本较旧；\n" ++
        "加 --restart-adb-server 重跑可重启 adb server 后重试\n" ++
        "（会短暂断开本机其他 adb 会话），或改用 pair-code / USB。").toList
  | .pairOutputUnparseable => "pair 成功但输出无法解析，请重试或手动 connect".toList
  | .noMatchingService => "未发现匹配的无线调试服务".toList
  | .devices error | .invalidInput error => error
  | .cancelled => "已取消 / cancelled".toList
  | .roundTimedOut => "扫码超时 / scan timed out".toList
  | .serviceLost => "配对服务已消失 / pairing service disappeared".toList

/-- How a run of `adb` that is waited for fails (`run_adb`). -/
inductive AdbFailure where
  | notFound
  | io (error : Text)
  | timedOut
  | outputTooLarge
  deriving Repr, DecidableEq

def AdbFailure.error : AdbFailure → WirelessError
  | .notFound => .adbNotFound
  | .io error => .io error
  | .timedOut => .timedOut
  | .outputTooLarge => .outputTooLarge

/-- What a run of `adb` gives: its status, and its output as far as it was read. -/
structure Output (α : Type) where
  status : Int
  stdout : α
  stderr : Text
  deriving Repr, DecidableEq

/-- `adb_mdns_services`, its standard output as services already. -/
def adbMdnsServices (answer : Except AdbFailure (Output (List MdnsService))) :
    Except WirelessError (List MdnsService) :=
  match answer with
  | .error failure => .error failure.error
  | .ok output =>
      if output.status ≠ 0 then .error (.commandFailed output.stderr) else .ok output.stdout

/-! ### Rounds -/

inductive CloseReason where
  | success
  | timeout
  | cancelled
  | serviceLost
  | pairFailed
  | pairTimedOut
  deriving Repr, DecidableEq

inductive RoundEvent where
  | serviceLost
  | pairSucceeded (guid : Text)
  | pairFailed
  | pairTimedOut
  | timeout
  | cancelled
  deriving Repr, DecidableEq

/-- The ends of a round for which its services or pair processes are to blame. -/
def RoundEvent.isFailure : RoundEvent → Bool
  | .serviceLost | .pairFailed | .pairTimedOut => true
  | .pairSucceeded _ | .timeout | .cancelled => false

inductive RoundAction where
  | waitForPair
  | close (reason : CloseReason)
  | ignoredAfterClose
  deriving Repr, DecidableEq

structure RoundState where
  id : Nat
  pairInFlight : Bool
  closed : Bool
  guid : Option Text
  serviceLostPending : Bool
  deriving Repr, DecidableEq

namespace RoundState

def new (id : Nat) : RoundState := ⟨id, false, false, none, false⟩

variable (round : RoundState)

def close (reason : CloseReason) : RoundAction × RoundState :=
  (.close reason,
    { round with pairInFlight := false, closed := true, id := (round.id + 1) % 2 ^ 64 })

/-- Why a round is closed whose pairing fails for a reason of its own. -/
def failing (reason : CloseReason) : RoundAction × RoundState :=
  if round.pairInFlight then
    { round with pairInFlight := false }.close
      (if round.serviceLostPending then .serviceLost else reason)
  else round.close reason

def observe (event : RoundEvent) : RoundAction × RoundState :=
  if round.closed then (.ignoredAfterClose, round)
  else
    match event with
    | .serviceLost =>
        if round.pairInFlight then (.waitForPair, { round with serviceLostPending := true })
        else round.close .serviceLost
    | .cancelled => round.close .cancelled
    | .timeout => round.close .timeout
    | .pairSucceeded guid =>
        { round with pairInFlight := false, guid := some guid }.close .success
    | .pairFailed => round.failing .pairFailed
    | .pairTimedOut => round.failing .pairTimedOut

def observeForRound (roundId : Nat) (event : RoundEvent) : RoundAction × RoundState :=
  if roundId ≠ round.id ∨ round.closed then (.ignoredAfterClose, round) else round.observe event

/-- While a pair process is in flight a lost service is noted, if the round is open. -/
theorem observeForRound_serviceLost (roundId : Nat) (inFlight : round.pairInFlight = true) :
    round.observeForRound roundId .serviceLost = (.ignoredAfterClose, round) ∨
      round.observeForRound roundId .serviceLost =
        (.waitForPair, { round with serviceLostPending := true }) := by
  unfold observeForRound
  split
  · exact .inl rfl
  · rename_i current
    obtain ⟨-, isOpen⟩ := not_or.mp current
    exact .inr (by simp [observe, isOpen, inFlight])

end RoundState

/-- `PairingSecret`. -/
structure PairingSecret where
  serviceName : Text
  password : Text
  payload : Text
  deriving Repr, DecidableEq

/-- `wipe`: every string is overwritten and cleared. -/
def PairingSecret.wipe (_secret : PairingSecret) : PairingSecret := ⟨[], [], []⟩

end QuadControl.Android.Wireless
