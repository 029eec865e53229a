import QuadControl.Android.Capture
import QuadControl.Android.Wireless
import QuadControl.Lib.Reaping

/-! # Commands with a timeout

Four loops run a command, capture its output in threads of their own and kill it when its time
is up. All of them join the threads once the child has ended or was killed, which is in time
only if nobody else has its pipes: `adb` leaves a server behind.
-/

namespace QuadControl.Process

open Lib Lib.Utf8 Lib.Reaping

inductive ErrorKind where
  | invalidInput
  | other
  deriving Repr, DecidableEq

/-- `io::Error`. -/
structure IoError where
  kind : ErrorKind
  text : Text
  deriving Repr, DecidableEq

structure ExitStatus where
  code : Option Int
  deriving Repr, DecidableEq

inductive Pipe where
  | stdout
  | stderr
  deriving Repr, DecidableEq

/-- What a thread that reads returns when it is joined, unless it panicked. -/
abbrev Joined (α : Type) := Option (Except IoError α)

end QuadControl.Process

/-! ### Pairing commands -/

namespace QuadControl.Android.Wireless

open Lib Lib.Utf8 Lib.Reaping QuadControl.Process

abbrev Capturing := Program Pipe IoError ExitStatus (Joined Captured)

/-- `map_err` and the question marks behind a `join`. -/
def captureOf (panicked : Text) : Joined Captured → Except WirelessError Captured
  | none => .error (.io panicked)
  | some (.error error) => .error (.io error.text)
  | some (.ok captured) => .ok captured

variable (lossy : Bytes → Text)

def outputOf (status : Int) (out err : Captured) : Except WirelessError (Output Text) :=
  if out.truncated || err.truncated then .error .outputTooLarge
  else .ok ⟨status, lossy out.data, lossy err.data⟩

/-- The loop of `collect_child`, which `run_adb` ends with. -/
def collectChild : Capturing (Except WirelessError (Output Text)) := do
  match ← tryWait with
  | .error error => do
      let _ ← kill
      let _ ← wait
      let _ ← join .stdout
      let _ ← join .stderr
      return .error (.io error.text)
  | .ok (some status) => do
      match captureOf "stdout reader panicked".toList (← join .stdout) with
      | .error error => return .error error
      | .ok out =>
          match captureOf "stderr reader panicked".toList (← join .stderr) with
          | .error error => return .error error
          | .ok err => return outputOf lossy (status.code.getD 1) out err
  | .ok none => do
      if ← elapsed then
        let _ ← kill
        let waited ← wait
        let _ ← join .stdout
        let _ ← join .stderr
        match waited with
        | .error error => return .error (.io error.text)
        | .ok _ => return .error .timedOut
      else Program.again

namespace PairProcess

/-- The readers that a `PairProcess` still has. -/
structure Readers where
  stdout : Bool
  stderr : Bool
  deriving Repr, DecidableEq

variable (readers : Readers)

def Readers.has : Pipe → Bool
  | .stdout => readers.stdout
  | .stderr => readers.stderr

/-- Both readers are taken and joined, if they are there. -/
def joinReaders : Capturing Unit := do
  if readers.stdout then
    let _ ← join .stdout
  if readers.stderr then
    let _ ← join .stderr

def killReap : Capturing (Except WirelessError Unit) := do
  let killed ← kill
  let waited ← wait
  joinReaders readers
  match waited, killed with
  | .error error, _ => return .error (.io error.text)
  | .ok _, .error error =>
      if error.kind ≠ .invalidInput then return .error (.io error.text) else return .ok ()
  | .ok _, .ok _ => return .ok ()

/-- `finish`; nothing where a reader was taken before and `expect` panics. -/
def finish (status : Int) : Capturing (Option (Except WirelessError (Output Text))) := do
  if !readers.stdout then return none
  match captureOf "stdout reader panicked".toList (← join .stdout) with
  | .error error => return some (.error error)
  | .ok stdout => do
      if !readers.stderr then return none
      match captureOf "stderr reader panicked".toList (← join .stderr) with
      | .error error => return some (.error error)
      | .ok stderr => return some (outputOf lossy status stdout stderr)

def poll : Capturing (Option (Except WirelessError (Option (Output Text)))) := do
  match ← tryWait with
  | .error error => return some (.error (.io error.text))
  | .ok (some status) => do
      let finished ← finish lossy readers (status.code.getD 1)
      return finished.map fun result => result.map some
  | .ok none => do
      if ← elapsed then
        match ← killReap readers with
        | .error error => return some (.error error)
        | .ok () => return some (.error .timedOut)
      else return some (.ok none)

def drop : Capturing Unit := do
  match ← tryWait with
  | .ok (some _) => joinReaders readers
  | .ok none | .error _ => do
      let _ ← kill
      let _ ← wait
      joinReaders readers

end PairProcess

end QuadControl.Android.Wireless

/-! ### The probe -/

namespace QuadControl.Android.Probe

open Lib Lib.Utf8 Lib.Reaping QuadControl.Process

inductive AdbCommand where
  | version
  | devicesLong
  | mdnsServices
  deriving Repr, DecidableEq

inductive ExecutionError where
  | adbNotFound
  | timedOut (command : AdbCommand)
  | io (error : Text)
  | outputTooLarge (command : AdbCommand)
  deriving Repr, DecidableEq

structure CommandOutput where
  status : Int
  stdout : Text
  stderr : Text
  deriving Repr, DecidableEq

def joinCapture (stream : Text) : Joined CapturedOutput → Except ExecutionError CapturedOutput
  | none => .error (.io (stream ++ " reader panicked".toList))
  | some (.error error) =>
      .error (.io ("failed to read ".toList ++ stream ++ ": ".toList ++ error.text))
  | some (.ok captured) => .ok captured

/-- `SystemRunner::run` once the command was spawned. -/
def SystemRunner.run (lossy : Bytes → Text) (command : AdbCommand) :
    Program Pipe IoError ExitStatus (Joined CapturedOutput)
      (Except ExecutionError CommandOutput) := do
  match ← tryWait with
  | .ok (some status) => do
      match joinCapture "stdout".toList (← join .stdout) with
      | .error error => return .error error
      | .ok stdout =>
          match joinCapture "stderr".toList (← join .stderr) with
          | .error error => return .error error
          | .ok stderr =>
              if stdout.truncated || stderr.truncated then return .error (.outputTooLarge command)
              else
                return .ok ⟨status.code.getD 1, lossy stdout.bytes, lossy stderr.bytes⟩
  | .ok none => do
      if ← elapsed then
        let _ ← kill
        let _ ← wait
        let _ ← join .stdout
        let _ ← join .stderr
        return .error (.timedOut command)
      else Program.again
  | .error error => do
      let _ ← kill
      let _ ← wait
      let _ ← join .stdout
      let _ ← join .stderr
      return .error (.io error.text)

end QuadControl.Android.Probe

/-! ### The apps of an iOS device -/

namespace QuadControl.Ios

open Lib Lib.Utf8 Lib.Reaping QuadControl.Process

/-- `run_capture_stdout` once the command was spawned. It has one pipe, whose reader keeps the
    errors of its reads to itself. -/
def runCaptureStdout :
    Program Unit IoError ExitStatus (Option Bytes)
      (Except IoError (Bool × ExitStatus × Bytes)) := do
  match ← tryWait with
  | .error error => return .error error
  | .ok (some status) => do
      let stdout ← join ()
      return .ok (false, status, stdout.getD [])
  | .ok none => do
      if ← elapsed then
        let _ ← kill
        match ← wait with
        | .error error => return .error error
        | .ok status => do
            let stdout ← join ()
            return .ok (true, status, stdout.getD [])
      else Program.again

end QuadControl.Ios
