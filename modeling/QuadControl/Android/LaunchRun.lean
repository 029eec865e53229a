import QuadControl.Android.Capture
import QuadControl.Android.CommandLine
import QuadControl.Android.ProbeRun
import QuadControl.Android.ScrcpyVersion

/-! # A run of the scrcpy wrapper

Behind the command line: `main` asks `adb` for the devices, selects one, asks scrcpy for its
version, and starts it on that device. What the two programs do is given by the paths they are
found at; each of the three is started at most once.
-/

namespace QuadControl.Android.Launching

open Lib Probe Wireless QuadControl.Process

/-! ### The errors of the probe, as they are displayed -/

def commandText : AdbCommand → String
  | .version => "Version"
  | .devicesLong => "DevicesLong"
  | .mdnsServices => "MdnsServices"

def executionText : ExecutionError → String
  | .adbNotFound => "adb executable was not found"
  | .timedOut command => "adb " ++ commandText command ++ " timed out"
  | .io error => "adb process error: " ++ String.ofList error
  | .outputTooLarge command =>
      "adb " ++ commandText command ++ " exceeded the " ++ toString outputLimit ++
        "-byte output limit"

def probeErrorText : ProbeError → String
  | .execution error => executionText error
  | .commandFailed command status stderr =>
      "adb " ++ commandText command ++ " failed with exit " ++ toString status ++ ": " ++
        String.ofList stderr.trim
  | .invalidOutput command reason =>
      "adb " ++ commandText command ++ " returned invalid output: " ++ String.ofList reason

/-! ### The device -/

def devices (answer : Except ExecutionError CommandOutput) : Except Error (List ProbedDevice) :=
  match answer with
  | .error error => .error (.adb (executionText error))
  | .ok output =>
      if output.status ≠ 0 then
        .error (.adb ("adb devices -l failed with exit " ++ toString output.status ++ ": " ++
          String.ofList output.stderr.trim))
      else (parseDevices output.stdout).mapError fun error => .adb (probeErrorText error)

def isReady (device : ProbedDevice) : Bool := device.state = .device

/-- `select_device` for a serial that is asked for. -/
def selectNamed (list : List ProbedDevice) (serial : Text) : Except Error Text :=
  match list.find? (·.serial = serial) with
  | some device =>
      if device.state = .device then .ok serial
      else
        .error (.wrongState ("device " ++ String.ofList serial ++ " is " ++
          String.ofList (deviceStateText device.state) ++ ", not device"))
  | none =>
      .error (.notFound ("device " ++ String.ofList serial ++
        " is not present in adb devices -l"))

/-- What it tells of a list without a device that is ready. -/
def noneReady (list : List ProbedDevice) : Error :=
  match list.find? (·.state = .unauthorized) with
  | some device =>
      .wrongState ("device " ++ String.ofList device.serial ++
        " is unauthorized; approve this computer on the device")
  | none =>
      match list.find? (·.state = .offline) with
      | some device =>
          .wrongState ("device " ++ String.ofList device.serial ++
            " is offline; reconnect the device")
      | none => .wrongState "no adb device is ready"

def selectDevice (list : List ProbedDevice) : Option Text → Except Error Text
  | some serial => selectNamed list serial
  | none =>
      match list.filter isReady with
      | [one] => .ok one.serial
      | [] => .error (noneReady list)
      | _ => .error (.usage "multiple adb devices are ready; pass --serial")

/-! ### The session -/

/-- What `scrcpy --version` comes to. -/
inductive VersionRun where
  | notFound
  | failed (error : String)
  | done (success : Bool) (stdout stderr : Text)
  deriving Repr, DecidableEq

/-- What a mirroring that was started comes to: its exit code and the end of its errors, or an
    error of the wait. -/
abbrev Ending := Except String (Int × Text)

/-- The programs, by the path they are found at, and the variables that name their paths. -/
structure Programs where
  adbVariable : Option Text
  scrcpyVariable : Option Text
  devicesLong : Text → Except ExecutionError CommandOutput
  version : Text → VersionRun
  mirror : Text → List Text → Text → Except String Ending

/-- What was started: the path, the words of the mirroring, and the `ADB` it is told of. -/
inductive Started where
  | devices (adb : Text)
  | version (scrcpy : Text)
  | mirror (scrcpy : Text) (words : List Text) (adb : Text)
  deriving Repr, DecidableEq

inductive Outcome where
  | helped
  | refused (refusal : Refusal)
  | failed (error : Error)
  | ended (code : Int) (stderr : List Text)
  deriving Repr, DecidableEq

def Outcome.code : Outcome → Int
  | .helped => 0
  | .refused _ | .failed _ => 1
  | .ended code _ => code

def resolveAdb (explicit env : Option Text) : Text := (explicit.or env).getD "adb".toList

def resolveScrcpy (explicit env : Option Text) : Text := (explicit.or env).getD "scrcpy".toList

/-- `validate_scrcpy_with_env`. -/
def validateScrcpy (scrcpy : Text) : VersionRun → Except Error Unit
  | .notFound => .error (.scrcpyNotFound (String.ofList scrcpy))
  | .failed error => .error (.process error)
  | .done success stdout stderr =>
      let text := stdout ++ '\n' :: stderr
      if success then
        (validateVersionText text).mapError fun message => .scrcpyVersion (String.ofList message)
      else
        .error (.scrcpyVersion ("scrcpy --version failed: " ++ String.ofList text.trim ++
          ". Install scrcpy from https://github.com/Genymobile/scrcpy/releases."))

/-- What `main` prints when scrcpy has failed. -/
def farewell (code : Int) (stderr : Text) : List Text :=
  if code = 0 then []
  else
    (if stderr.trim = [] then []
      else ["scrcpy failed (stderr tail):\n".toList ++ stderr.trimEnd]) ++
    [("Check device authorization and connection ownership; see " ++
      "https://github.com/Genymobile/scrcpy/releases.").toList]

def conclude : Ending → Outcome
  | .error error => .failed (.process error)
  | .ok (code, stderr) => .ended code (farewell code stderr)

/-- `Session::start`, and the wait for its end. -/
def session (programs : Programs) (adb scrcpy : Text) (options : LaunchOptions) :
    List Started × Outcome :=
  match validateScrcpy scrcpy (programs.version scrcpy) with
  | .error error => ([.version scrcpy], .failed error)
  | .ok () =>
      match buildArgs options with
      | .error error => ([.version scrcpy], .failed error)
      | .ok words =>
          match programs.mirror scrcpy words adb with
          | .error error => ([.version scrcpy], .failed (.process error))
          | .ok ending => ([.version scrcpy, .mirror scrcpy words adb], conclude ending)

def launch (programs : Programs) (configuration : Configuration) : List Started × Outcome :=
  let adb := resolveAdb configuration.adb programs.adbVariable
  let selected := do selectDevice (← devices (programs.devicesLong adb)) configuration.serial
  match selected with
  | .error error => ([.devices adb], .failed error)
  | .ok serial =>
      let (started, outcome) := session programs adb (resolveScrcpy none programs.scrcpyVariable)
        (configuration.options serial)
      (.devices adb :: started, outcome)

/-- `main`, but for the commands that pair and connect. -/
def run (programs : Programs) (args : List Text) : Option (List Started × Outcome) :=
  match command args with
  | .help => some ([], .helped)
  | .refuse refusal => some ([], .refused refusal)
  | .launch configuration => some (launch programs configuration)
  | .pairQr _ | .pairCode _ | .connect _ => none

/-! ### The device that is selected -/

/-- The first device of the serial that is asked for, if it is ready; or the only one that is. -/
inductive Chosen : List ProbedDevice → Option Text → ProbedDevice → Prop
  | named (before device after) (first : ∀ other ∈ before, other.serial ≠ device.serial)
      (ready : device.state = .device) :
      Chosen (before ++ device :: after) (some device.serial) device
  | only (before device after) (others : ∀ other ∈ before ++ after, other.state ≠ .device)
      (ready : device.state = .device) :
      Chosen (before ++ device :: after) none device

theorem Chosen.mem {list : List ProbedDevice} {serial : Option Text} {device : ProbedDevice}
    (chosen : Chosen list serial device) : device ∈ list := by
  cases chosen <;> exact List.mem_append_right _ (.head _)

theorem Chosen.ready {list : List ProbedDevice} {serial : Option Text} {device : ProbedDevice}
    (chosen : Chosen list serial device) : device.state = .device := by
  cases chosen <;> assumption

theorem selectNamed_eq_ok {list : List ProbedDevice} {serial selected : Text} :
    selectNamed list serial = .ok selected ↔
      ∃ device, Chosen list (some serial) device ∧ device.serial = selected := by
  constructor
  · intro passed
    rw [selectNamed] at passed
    split at passed
    · rename_i device found
      split at passed
      · rename_i ready
        cases passed
        obtain ⟨same, before, after, rfl, first⟩ := List.find?_eq_some_iff_append.mp found
        obtain rfl : device.serial = serial := of_decide_eq_true same
        refine ⟨device, .named before device after (fun other inside => ?_) ready, rfl⟩
        simpa using first other inside
      · cases passed
    · cases passed
  · rintro ⟨device, chosen, rfl⟩
    cases chosen with
    | named before _ after first ready =>
        have found : (before ++ device :: after).find? (·.serial = device.serial) = some device := by
          refine List.find?_eq_some_iff_append.mpr
            ⟨decide_eq_true rfl, before, after, rfl, fun other inside => ?_⟩
          simpa using first other inside
        simp only [selectNamed, found, if_pos ready]

theorem isReady_iff {device : ProbedDevice} : isReady device = true ↔ device.state = .device :=
  decide_eq_true_iff

/-- A device is the only one that is ready just where the filter leaves it alone. -/
theorem filter_isReady_eq {before after : List ProbedDevice} {device : ProbedDevice}
    (ready : device.state = .device) :
    (before ++ device :: after).filter isReady = [device] ↔
      ∀ other ∈ before ++ after, other.state ≠ .device := by
  have parts : (before ++ device :: after).filter isReady =
      before.filter isReady ++ device :: after.filter isReady := by
    rw [List.filter_append, List.filter_cons_of_pos (isReady_iff.mpr ready)]
  rw [parts]
  constructor
  · intro alone other inside there
    have lengths := congrArg List.length alone
    have another : 0 < ((before ++ after).filter isReady).length :=
      List.length_pos_of_mem (List.mem_filter.mpr ⟨inside, isReady_iff.mpr there⟩)
    simp only [List.filter_append, List.length_append, List.length_cons, List.length_nil]
      at lengths another
    omega
  · intro others
    have nobody : (before ++ after).filter isReady = [] :=
      List.filter_eq_nil_iff.mpr fun other inside there =>
        others other inside (isReady_iff.mp there)
    rw [List.filter_append, List.append_eq_nil_iff] at nobody
    rw [nobody.1, nobody.2, List.nil_append]

theorem selectDevice_eq_ok {list : List ProbedDevice} {serial : Option Text} {selected : Text} :
    selectDevice list serial = .ok selected ↔
      ∃ device, Chosen list serial device ∧ device.serial = selected := by
  cases serial with
  | some serial => exact selectNamed_eq_ok
  | none =>
      constructor
      · intro passed
        simp only [selectDevice] at passed
        split at passed
        · rename_i one alone
          cases passed
          have inside : one ∈ list.filter isReady := by rw [alone]; exact .head _
          obtain ⟨known, ready⟩ := List.mem_filter.mp inside
          obtain ⟨before, after, rfl⟩ := List.append_of_mem known
          rw [isReady_iff] at ready
          exact ⟨one, .only before one after ((filter_isReady_eq ready).mp alone) ready, rfl⟩
        · cases passed
        · cases passed
      · rintro ⟨device, chosen, rfl⟩
        cases chosen with
        | only before _ after others ready =>
            simp only [selectDevice, (filter_isReady_eq ready).mpr others]

/-! ### What is started -/

variable {programs : Programs} {configuration : Configuration}

theorem devices_eq_ok {answer : Except ExecutionError CommandOutput} {list : List ProbedDevice} :
    devices answer = .ok list ↔
      ∃ output, answer = .ok output ∧ output.status = 0 ∧ parseDevices output.stdout = .ok list := by
  cases answer with
  | error error => simp [devices]
  | ok output =>
      by_cases passed : output.status = 0
      · cases parsed : parseDevices output.stdout <;> simp [devices, passed, parsed, Except.mapError]
      · simp [devices, passed]

theorem validateScrcpy_eq_ok {scrcpy : Text} {version : VersionRun} :
    validateScrcpy scrcpy version = .ok () ↔
      ∃ stdout stderr, version = .done true stdout stderr ∧
        validateVersionText (stdout ++ '\n' :: stderr) = .ok () := by
  cases version with
  | notFound => simp [validateScrcpy]
  | failed error => simp [validateScrcpy]
  | done success stdout stderr =>
      cases success with
      | false => simp [validateScrcpy]
      | true =>
          cases validated : validateVersionText (stdout ++ '\n' :: stderr) <;>
            simp [validateScrcpy, validated, Except.mapError]

/-- What the run starts when it gets to the mirroring, on this device. -/
structure Mirrors (programs : Programs) (configuration : Configuration) (device : ProbedDevice)
    (adb scrcpy : Text) (words : List Text) : Prop where
  adbPath : adb = resolveAdb configuration.adb programs.adbVariable
  scrcpyPath : scrcpy = resolveScrcpy none programs.scrcpyVariable
  chosen : ∃ output list, programs.devicesLong adb = .ok output ∧ output.status = 0 ∧
    parseDevices output.stdout = .ok list ∧ Chosen list configuration.serial device
  version : ∃ stdout stderr, programs.version scrcpy = .done true stdout stderr ∧
    validateVersionText (stdout ++ '\n' :: stderr) = .ok ()
  built : buildArgs (configuration.options device.serial) = .ok words
  spawned : ∃ ending, programs.mirror scrcpy words adb = .ok ending

/-- How far a launch gets. -/
inductive Launches (programs : Programs) (configuration : Configuration) (adb scrcpy : Text) :
    List Started × Outcome → Prop
  | devices (error) : Launches programs configuration adb scrcpy ([.devices adb], .failed error)
  | version (error) : Launches programs configuration adb scrcpy
      ([.devices adb, .version scrcpy], .failed error)
  | mirror (device words ending) (mirrors : Mirrors programs configuration device adb scrcpy words)
      (given : programs.mirror scrcpy words adb = .ok ending) :
      Launches programs configuration adb scrcpy
        ([.devices adb, .version scrcpy, .mirror scrcpy words adb], conclude ending)

theorem launch_launches (programs : Programs) (configuration : Configuration) :
    Launches programs configuration (resolveAdb configuration.adb programs.adbVariable)
      (resolveScrcpy none programs.scrcpyVariable) (launch programs configuration) := by
  unfold launch
  dsimp only
  split
  · exact .devices _
  · rename_i serial selected
    obtain ⟨list, listed, passed⟩ := Except.bind_eq_ok.mp selected
    obtain ⟨device, chosen, rfl⟩ := selectDevice_eq_ok.mp passed
    obtain ⟨output, answered, zero, parsed⟩ := devices_eq_ok.mp listed
    unfold session
    split
    · exact .version _
    · rename_i validated
      split
      · exact .version _
      · rename_i words built
        split
        · exact .version _
        · rename_i ending spawned
          refine .mirror device words ending ?_ spawned
          exact ⟨rfl, rfl, ⟨output, list, answered, zero, parsed, chosen⟩,
            validateScrcpy_eq_ok.mp validated, built, ending, spawned⟩

theorem launch_of_mirrors {device : ProbedDevice} {adb scrcpy : Text} {words : List Text}
    (mirrors : Mirrors programs configuration device adb scrcpy words) :
    .mirror scrcpy words adb ∈ (launch programs configuration).1 := by
  obtain ⟨adbPath, scrcpyPath, ⟨output, list, answered, zero, parsed, chosen⟩, version, built,
    ending, spawned⟩ := mirrors
  have listed := devices_eq_ok.mpr ⟨output, answered, zero, parsed⟩
  have selected := selectDevice_eq_ok.mpr ⟨device, chosen, rfl⟩
  have validated : validateScrcpy scrcpy (programs.version scrcpy) = .ok () :=
    validateScrcpy_eq_ok.mpr version
  simp only [launch, ← adbPath, ← scrcpyPath, listed, bind, Except.bind, selected, session,
    validated, built, spawned]
  exact .tail _ (.tail _ (.head _))

/-- What a launch starts, and how it ends. -/
theorem launch_started {started : List Started} {outcome : Outcome}
    (launched : launch programs configuration = (started, outcome)) :
    (∃ adb scrcpy words, started <+: [.devices adb, .version scrcpy, .mirror scrcpy words adb]) ∧
      (∀ adb scrcpy words, .mirror scrcpy words adb ∈ started ↔
        ∃ device, Mirrors programs configuration device adb scrcpy words) ∧
      (outcome.code = 0 → ∃ adb scrcpy words stderr, .mirror scrcpy words adb ∈ started ∧
        programs.mirror scrcpy words adb = .ok (.ok (0, stderr))) := by
  have launches := launch_launches programs configuration
  have reached : ∀ {adb scrcpy words},
      (∃ device, Mirrors programs configuration device adb scrcpy words) →
        .mirror scrcpy words adb ∈ started := by
    rintro adb scrcpy words ⟨device, mirrors⟩
    have inside := launch_of_mirrors mirrors
    rwa [launched] at inside
  rw [launched] at launches
  cases launches with
  | devices error =>
      refine ⟨⟨_, [], [], [.version [], .mirror [] [] _], rfl⟩, fun adb scrcpy words => ?_, ?_⟩
      · exact iff_of_false (by simp) fun mirrors => by simpa using reached mirrors
      · intro zero
        cases zero
  | version error =>
      refine ⟨⟨_, _, [], [.mirror _ [] _], rfl⟩,
        fun adb scrcpy words => ?_, ?_⟩
      · exact iff_of_false (by simp) fun mirrors => by simpa using reached mirrors
      · intro zero
        cases zero
  | mirror device words ending mirrors given =>
      refine ⟨⟨_, _, words, List.prefix_rfl⟩, fun adb scrcpy others => ⟨?_, reached⟩, ?_⟩
      · intro inside
        simp only [List.mem_cons, reduceCtorEq, false_or, List.not_mem_nil, or_false] at inside
        cases inside
        exact ⟨device, mirrors⟩
      · intro zero
        cases ending with
        | error error => cases zero
        | ok result =>
            obtain ⟨code, stderr⟩ := result
            obtain rfl : code = 0 := zero
            exact ⟨_, _, words, stderr, .tail _ (.tail _ (.head _)), given⟩

/-- What `main` starts is, in this order and each at most once, `adb`, scrcpy for its version,
    and the mirroring; that one just if all before it went as it should, and with the words of
    a launch on the device that is chosen. The run succeeds only if the mirroring does. -/
theorem run_mirrors_iff (args : List Text) {started : List Started} {outcome : Outcome}
    (ran : run programs args = some (started, outcome)) :
    (∃ adb scrcpy words, started <+: [.devices adb, .version scrcpy, .mirror scrcpy words adb]) ∧
      (∀ adb scrcpy words, .mirror scrcpy words adb ∈ started ↔
        ∃ configuration device, command args = .launch configuration ∧
          Mirrors programs configuration device adb scrcpy words) ∧
      (outcome.code = 0 → command args = .help ∨ ∃ adb scrcpy words stderr,
        .mirror scrcpy words adb ∈ started ∧
          programs.mirror scrcpy words adb = .ok (.ok (0, stderr))) := by
  unfold run at ran
  split at ran
  · rename_i help
    cases ran
    refine ⟨⟨[], [], [], List.nil_prefix⟩, fun adb scrcpy words => ?_, fun _ => .inl help⟩
    simp [help]
  · rename_i refusal refused
    cases ran
    refine ⟨⟨[], [], [], List.nil_prefix⟩, fun adb scrcpy words => ?_, fun zero => ?_⟩
    · simp [refused]
    · cases zero
  · rename_i configuration asked
    obtain ⟨order, mirrored, zero⟩ := launch_started (Option.some.inj ran)
    refine ⟨order, fun adb scrcpy words => (mirrored adb scrcpy words).trans ?_,
      fun succeeded => .inr (zero succeeded)⟩
    constructor
    · rintro ⟨device, mirrors⟩
      exact ⟨configuration, device, asked, mirrors⟩
    · rintro ⟨configuration', device, asked', mirrors⟩
      cases asked.symm.trans asked'
      exact ⟨device, mirrors⟩
  all_goals cases ran

/-- A telephone over the network, one whose cable is not trusted, and a stable scrcpy. -/
def samplePrograms : Programs where
  adbVariable := none
  scrcpyVariable := some "/opt/scrcpy".toList
  devicesLong _ := .ok ⟨0, Host.sample.listing.text, []⟩
  version _ := .done true "scrcpy 4.1".toList []
  mirror _ _ _ := .ok (.ok (0, []))

def sampleArgs : List Text := ["--no-audio".toList, "--max-size=800".toList]

def sampleWords : List Text :=
  ["--serial".toList, "192.168.1.20:5555".toList, "--window-title=QuadControl".toList,
    "--video-bit-rate".toList, "8M".toList, "--max-size=800".toList, "--no-audio".toList]

def sampleStarted : List Started :=
  [.devices "adb".toList, .version "/opt/scrcpy".toList,
    .mirror "/opt/scrcpy".toList sampleWords "adb".toList]

theorem run_mirrors_iff_network :
    (∃ adb scrcpy words,
      sampleStarted <+: [.devices adb, .version scrcpy, .mirror scrcpy words adb]) ∧
    (∀ adb scrcpy words, .mirror scrcpy words adb ∈ sampleStarted ↔
      ∃ configuration device, command sampleArgs = .launch configuration ∧
        Mirrors samplePrograms configuration device adb scrcpy words) ∧
    ((Outcome.ended 0 []).code = 0 → command sampleArgs = .help ∨ ∃ adb scrcpy words stderr,
      .mirror scrcpy words adb ∈ sampleStarted ∧
        samplePrograms.mirror scrcpy words adb = .ok (.ok (0, stderr))) :=
  run_mirrors_iff sampleArgs (by decide +kernel)

/-! ### On which telephone -/

/-- A device that is chosen of those that are attached, where it is among them. -/
theorem Chosen.attached {list : List Attached} {serial : Option Text} {device : ProbedDevice}
    (chosen : Chosen (list.map Attached.probed) serial device) :
    ∃ before attached after, list = before ++ attached :: after ∧ attached.probed = device ∧
      ((serial = some attached.link.serial ∧
          ∀ other ∈ before, other.link.serial ≠ attached.link.serial) ∨
        serial = none ∧ ∀ other ∈ before ++ after, other.state ≠ .device) := by
  generalize probed : list.map Attached.probed = devices at chosen
  cases chosen with
  | named before _ after first ready =>
      obtain ⟨before, rest, rfl, rfl, parted⟩ := List.map_eq_append_iff.mp probed
      obtain ⟨attached, after, rfl, rfl, rfl⟩ := List.map_eq_cons_iff.mp parted
      refine ⟨before, attached, after, rfl, rfl, .inl ⟨rfl, fun other inside => ?_⟩⟩
      exact first other.probed (List.mem_map_of_mem inside)
  | only before _ after others ready =>
      obtain ⟨before, rest, rfl, rfl, parted⟩ := List.map_eq_append_iff.mp probed
      obtain ⟨attached, after, rfl, rfl, rfl⟩ := List.map_eq_cons_iff.mp parted
      refine ⟨before, attached, after, rfl, rfl, .inr ⟨rfl, fun other inside => ?_⟩⟩
      refine others other.probed ?_
      rw [← List.map_append]
      exact List.mem_map_of_mem inside

end QuadControl.Android.Launching
