import QuadControl.Android.Wireless

/-! # Listed devices

What the pairing flow reads off `adb devices -l`: the device it waits for, and how many
devices there are once those of one identity are taken together. Of a device only its
serial and its state matter here.
-/

namespace QuadControl.Android.Wireless

open Lib

inductive DeviceState where
  | device
  | offline
  | unauthorized
  | other (name : Text)
  deriving Repr, DecidableEq

structure Device where
  serial : Text
  state : DeviceState
  deriving Repr, DecidableEq

/-- What `adb devices -l` gives: the devices, or why its output is not a list of them. -/
abbrev DeviceAnswer := Except AdbFailure (Output (Except Text (List Device)))

/-- One look of `wait_for_guid_with_cancel`: the serial, if the device is there. -/
def lookForGuid (guid : Text) (answer : DeviceAnswer) : Except WirelessError (Option Text) :=
  match answer with
  | .error failure => .error failure.error
  | .ok output =>
      if output.status ≠ 0 then .error (.commandFailed output.stderr)
      else
        match output.stdout with
        | .error error => .error (.devices error)
        | .ok devices =>
            .ok ((devices.find? fun device =>
              serialMatchesGuid device.serial guid && device.state = .device).map Device.serial)

/-- `identity_pairs`, of serials with the identities read for them. -/
def identityPairs : List (Text × Option Text) → List (Text × Text)
  | [] => []
  | (_, none) :: rest => identityPairs rest
  | (serial, some identity) :: rest =>
      ((rest.filter fun other => other.2 = some identity).map fun other => (serial, other.1)) ++
        identityPairs rest

def isPaired (serials : List (Text × Text)) (existing device : Text) : Bool :=
  serials.any fun (left, right) =>
    (left = existing && right = device) || (left = device && right = existing)

/-- A serial of a device that is connected over TLS. -/
def isWirelessSerial (serial : Text) : Bool := "adb-".toList.isPrefixOf serial

/-- One device of `deduplicate_devices`. -/
def mergeDevice (serials : List (Text × Text)) (result : List Device) (device : Device) :
    List Device :=
  match result.findIdx? fun existing => isPaired serials existing.serial device.serial with
  | some index =>
      result.modify index fun existing =>
        if isWirelessSerial device.serial && !isWirelessSerial existing.serial then device
        else existing
  | none => result ++ [device]

/-- `deduplicate_devices`. -/
def deduplicateDevices (devices : List Device) (serials : List (Text × Text)) : List Device :=
  devices.foldl (mergeDevice serials) []

end QuadControl.Android.Wireless
