import QuadControl.Android.AdbDevices
import QuadControl.Lib.Except

/-! # A run of the probe

`run_probe` runs three commands of `adb` that change nothing, each only if the one before it
gave what it should; the binary prints the report, or an error, and tells by its exit code
which. A runner may answer a command as it likes, also by what was run before.
-/

namespace QuadControl.Android.Probe

open Lib Wireless

/-! ### The run -/

/-- `CommandRunner`, with the commands that were run before. -/
abbrev Runner := List AdbCommand → AdbCommand → Except ExecutionError CommandOutput

def versionPrefix : Text := "Android Debug Bridge version ".toList

def readVersion (line : Text) : Option Text :=
  ((Text.stripPrefix versionPrefix line).map Text.trim).filter (· ≠ [])

def parseVersion (stdout : Text) : Except ProbeError Text :=
  match stdout.lines.findSome? readVersion with
  | some version => .ok version
  | none => .error (.invalidOutput .version "version line is missing".toList)

def mdnsIsUnsupported (output : CommandOutput) : Bool :=
  let message := (output.stdout ++ '\n' :: output.stderr).map Char.toLower
  "unknown command".toList <:+: message || "not supported".toList <:+: message

/-- The question mark behind a run, and the status of what was run. -/
def succeeded (command : AdbCommand) (answer : Except ExecutionError CommandOutput) :
    Except ProbeError CommandOutput :=
  match answer with
  | .error error => .error (.execution error)
  | .ok output =>
      if output.status ≠ 0 then .error (.commandFailed command output.status output.stderr)
      else .ok output

def ProbedDevice.reported (device : ProbedDevice) : Device :=
  ⟨device.serial, device.state, device.transport⟩

def ProbedDevice.isWireless (device : ProbedDevice) : Bool :=
  device.transport = .tcp && device.state = .device

def report (adbVersion : Text) (devices : List ProbedDevice) (mdns : MdnsReport) : ProbeReport :=
  ⟨adbVersion, devices.map ProbedDevice.reported, mdns, devices.any ProbedDevice.isWireless⟩

/-- How a process ends: the commands it ran, its exit code, and the line it printed. -/
structure Exit where
  commands : List AdbCommand
  code : Int
  stdout : Option Text
  deriving Repr, DecidableEq

/-- How far a run gets: each command that another follows has succeeded, and there is a report
    only after the last. -/
inductive Gets (runner : Runner) : List AdbCommand × Except ProbeError ProbeReport → Prop
  | version (error) : Gets runner ([.version], .error error)
  | devices (error output) (ran : runner [] .version = .ok output) (passed : output.status = 0) :
      Gets runner ([.version, .devicesLong], .error error)
  | mdns (result output output') (ran : runner [] .version = .ok output)
      (passed : output.status = 0) (ran' : runner [.version] .devicesLong = .ok output')
      (passed' : output'.status = 0) :
      Gets runner ([.version, .devicesLong, .mdnsServices], result)

theorem Gets.succeeded {runner : Runner} {run : List AdbCommand × Except ProbeError ProbeReport}
    (gets : Gets runner run) {before after : List AdbCommand} {command next : AdbCommand}
    (followed : run.1 = before ++ command :: next :: after) :
    ∃ output, runner before command = .ok output ∧ output.status = 0 := by
  cases gets with
  | version error =>
      have lengths := congrArg List.length followed
      simp at lengths
      omega
  | devices error output ran passed =>
      cases before with
      | nil =>
          obtain ⟨rfl, -⟩ := List.cons.inj followed
          exact ⟨output, ran, passed⟩
      | cons first before =>
          have lengths := congrArg List.length followed
          simp at lengths
          omega
  | mdns result output output' ran passed ran' passed' =>
      cases before with
      | nil =>
          obtain ⟨rfl, -⟩ := List.cons.inj followed
          exact ⟨output, ran, passed⟩
      | cons first before =>
          obtain ⟨rfl, rest⟩ := List.cons.inj followed
          cases before with
          | nil =>
              obtain ⟨rfl, -⟩ := List.cons.inj rest
              exact ⟨output', ran', passed'⟩
          | cons second before =>
              have lengths := congrArg List.length followed
              simp at lengths
              omega

/-- What `adb mdns services` gives: the services, each with its name one word of a line of its
    own, or that there is no such command. -/
inductive Services where
  | listed (listing : List Listed)
      (plain : ∀ listed ∈ listing, listed.layout.joined = false ∧
        ∀ c ∈ listed.record.instanceName, Text.isWhitespace c = false)
  | unsupported (output : CommandOutput) (failed : output.status ≠ 0)
      (message : mdnsIsUnsupported output = true)

structure Host where
  version : Text
  /-- What the banner says below its first line. -/
  banner : Text
  listing : Listing
  services : Services
  stderr : Text
  nonempty : version ≠ []
  trimmed : version.trim = version
  oneLine : '\n' ∉ version

namespace Host

variable (host : Host)

def answer : AdbCommand → CommandOutput
  | .version => ⟨0, versionPrefix ++ host.version ++ '\n' :: host.banner, host.stderr⟩
  | .devicesLong => ⟨0, host.listing.text, host.stderr⟩
  | .mdnsServices =>
      match host.services with
      | .listed listing _ => ⟨0, printed listing, host.stderr⟩
      | .unsupported output _ _ => output

def mdns : MdnsReport :=
  match host.services with
  | .listed listing _ =>
      ⟨.available, listing.any fun listed => listed.record.service.text = pairingService,
        listing.any fun listed => listed.record.service.text = connectService,
        listing.countP fun listed => listed.record.service.text ≠ pairingService ∧
          listed.record.service.text ≠ connectService⟩
  | .unsupported _ _ _ => ⟨.unsupported, false, false, 0⟩

def report : ProbeReport where
  adbVersion := host.version
  devices := host.listing.attached.map fun attached =>
    ⟨attached.link.serial, attached.state, attached.link.transport⟩
  mdns := host.mdns
  wirelessConnected := host.listing.attached.any fun attached =>
    attached.link.transport = .tcp ∧ attached.state = .device

end Host

theorem words_of_columns {listed : Listed} (columns : listed.layout.joined = false)
    (solid : ∀ c ∈ listed.record.instanceName, Text.isWhitespace c = false) :
    ∃ first rest, listed.line.trim.splitWhitespace =
      listed.record.instanceName :: listed.service :: first :: rest := by
  have word := Text.splitWhitespace_word listed.record.named solid
  have service := Text.splitWhitespace_graphic listed.service_ne_nil listed.service_graphic
  have words : listed.line.splitWhitespace =
      listed.record.instanceName :: listed.service :: listed.endpointFields := by
    have fields := listed.fields_eq
    rw [Listed.fields, Listed.name, columns] at fields
    simp only [Bool.false_eq_true, if_false] at fields
    rw [fields, Text.splitWhitespace_gap listed.layout.parts listed.layout.blanks, word, service]
    rfl
  rw [Text.splitWhitespace_trim, words]
  unfold Listed.endpointFields
  split <;> exact ⟨_, _, rfl⟩

theorem trim_line_ne_nil {listed : Listed} (columns : listed.layout.joined = false)
    (solid : ∀ c ∈ listed.record.instanceName, Text.isWhitespace c = false) :
    listed.line.trim ≠ [] := by
  obtain ⟨first, rest, words⟩ := words_of_columns columns solid
  intro empty
  rw [empty] at words
  cases words

def sampleModel : Text := "Pixel 8".toList

theorem sampleModel_plain : ∀ name, some sampleModel = some name →
    name ≠ [] ∧ ∀ c ∈ name, c.isAlphanum = true ∨ c = ' ' := by
  rintro name ⟨⟩
  have all : sampleModel.all (fun c => c.isAlphanum || c == ' ') = true := rfl
  refine ⟨List.cons_ne_nil _ _, fun c inside => ?_⟩
  simpa using List.all_eq_true.mp all c inside

def sampleAddress : Ipv4 :=
  ⟨⟨192, by decide⟩, ⟨168, by decide⟩, ⟨1, by decide⟩, ⟨20, by decide⟩⟩

def sampleRecord : Record :=
  ⟨"adb-8A1X".toList, connect, sampleAddress, ⟨37000, by decide⟩, by decide, by decide⟩

theorem sampleRecord_solid :
    ∀ c ∈ sampleRecord.instanceName, Text.isWhitespace c = false := by
  have solid : sampleRecord.instanceName.all (fun c => !Text.isWhitespace c) = true := rfl
  exact fun c own => by simpa using List.all_eq_true.mp solid c own

theorem sampleListing_plain : ∀ listed ∈ [(⟨columns, sampleRecord⟩ : Listed)],
    listed.layout.joined = false ∧
      ∀ c ∈ listed.record.instanceName, Text.isWhitespace c = false := by
  intro listed inside
  obtain rfl := List.mem_singleton.mp inside
  exact ⟨rfl, sampleRecord_solid⟩

/-- A telephone that is reached over the network, and one whose cable is not trusted yet. -/
def Host.sample : Host where
  version := "1.0.41".toList
  banner := "Version 35.0.2".toList
  listing :=
    { preamble := ["* daemon started successfully".toList]
      before := []
      after := [' ']
      rows :=
        [.device
          { link := .network sampleAddress ⟨5555, by decide⟩, state := .device, product := none
            model := some sampleModel, device := none, transportId := 3
            plainLink := trivial, plainState := trivial
            plainModel := sampleModel_plain
            plainDevice := by rintro name (⟨⟨⟩⟩ | ⟨⟨⟩⟩) }
          ⟨columns.gap, columns.parts, List.all_eq_true.mp columns.blank, columns.oneLine⟩ []
          (List.all_eq_true.mp rfl) (by decide),
        .device
          { link := .usb "8A1X".toList "1-2".toList, state := .unauthorized, product := none
            model := none, device := none, transportId := 4
            plainLink := ⟨by decide, List.all_eq_true.mp rfl, List.all_eq_true.mp rfl⟩
            plainState := trivial
            plainModel := by rintro name ⟨⟩
            plainDevice := by rintro name (⟨⟨⟩⟩ | ⟨⟨⟩⟩) }
          ⟨joined.gap, joined.parts, List.all_eq_true.mp joined.blank, joined.oneLine⟩ []
          (List.all_eq_true.mp rfl) (by decide),
        .noise [] (by decide) (by decide)]
      plain := by decide
      blank := List.all_eq_true.mp rfl
      oneLine := by decide }
  services := .listed [⟨columns, sampleRecord⟩] sampleListing_plain
  stderr := []
  nonempty := by decide
  trimmed := by decide
  oneLine := by decide

end QuadControl.Android.Probe
