import QuadControl.Android.MdnsPrinting
import QuadControl.Android.ProbeReport
import QuadControl.Process.CommandTimeouts

/-! # What `adb devices -l` prints, as it is read

Everything that starts a session or names a device goes by `parse_devices`: below the header,
a line of two words and more is a device, with its serial, its state, and what the serial and
the other words tell of its model and of the way it is connected.
-/

namespace QuadControl.Android.Probe

open Lib Wireless

/-! ### The parser -/

/-- `Device`, with the model that a report leaves out. -/
structure ProbedDevice where
  serial : Text
  model : Option Text
  state : DeviceState
  transport : Transport
  deriving Repr, DecidableEq

inductive ProbeError where
  | execution (error : ExecutionError)
  | commandFailed (command : AdbCommand) (status : Int) (stderr : Text)
  | invalidOutput (command : AdbCommand) (reason : Text)
  deriving Repr, DecidableEq

def emulatorPrefix : Text := "emulator-".toList

def usbPrefix : Text := "usb:".toList

def modelPrefix : Text := "model:".toList

def isNetworkSerial (serial : Text) : Bool :=
  connectService <:+: serial ||
    (Text.rsplitOnce ':' serial).any fun (host, port) =>
      host ≠ [] && (Text.parseBelow (65536) port).isSome

def parseState (word : Text) : DeviceState :=
  if word = "device".toList then .device
  else if word = "offline".toList then .offline
  else if word = "unauthorized".toList then .unauthorized
  else .other word

/-- `replace('_', " ")`. -/
def spaced (name : Text) : Text := name.map fun c => if c = '_' then ' ' else c

def parseModel (fields : List Text) : Option Text :=
  fields.findSome? fun field =>
    ((Text.stripPrefix modelPrefix field).filter (· ≠ [])).map spaced

/-- The way a device is connected, by its serial and the words behind its state. -/
def parseTransport (serial : Text) (rest : List Text) : Transport :=
  if emulatorPrefix <+: serial then .emulator
  else if isNetworkSerial serial then .tcp
  else if rest.any fun field => usbPrefix <+: field then .usb
  else .unknown

def parseDevice : List Text → Option ProbedDevice
  | serial :: state :: rest =>
      some ⟨serial, parseModel (serial :: state :: rest), parseState state,
        parseTransport serial rest⟩
  | _ => none

def devicesHeader : Text := "List of devices attached".toList

def parseDevices (stdout : Text) : Except ProbeError (List ProbedDevice) :=
  match stdout.lines.dropWhile fun line => line.trim ≠ devicesHeader with
  | [] => .error (.invalidOutput .devicesLong "device-list header is missing".toList)
  | _ :: lines => .ok (lines.filterMap fun line => parseDevice line.splitWhitespace)

/-! ### What is printed -/

/-- How a device is attached; its serial is made of that. -/
inductive Link where
  | usb (serial devpath : Text)
  | network (address : Ipv4) (port : Fin (65536))
  | tls (label : Text)
  | emulator (port : Nat)
  deriving Repr, DecidableEq

def Link.serial : Link → Text
  | .usb serial _ => serial
  | .network address port => address.text ++ ':' :: Nat.toDigits 10 port
  | .tls label => "adb-".toList ++ label ++ '.' :: connectService
  | .emulator port => emulatorPrefix ++ Nat.toDigits 10 port

def productPrefix : Text := "product:".toList

def devicePrefix : Text := "device:".toList

def transportIdPrefix : Text := "transport_id:".toList

def Link.devpath : Link → List Text
  | .usb _ devpath => [usbPrefix ++ devpath]
  | _ => []

def Link.transport : Link → Transport
  | .usb _ _ => .usb
  | .network _ _ | .tls _ => .tcp
  | .emulator _ => .emulator

/-- Serials of the cable are letters and digits, labels may have dashes too. -/
def Link.Plain : Link → Prop
  | .usb serial devpath =>
      serial ≠ [] ∧ (∀ c ∈ serial, c.isAlphanum = true) ∧ ∀ c ∈ devpath, Text.isGraphic c = true
  | .tls label => ∀ c ∈ label, c.isAlphanum = true ∨ c = '-'
  | .network _ _ | .emulator _ => True

/-- A state that has no name of its own is a word of letters and digits. -/
def PlainState : DeviceState → Prop
  | .other name =>
      name ≠ [] ∧ (∀ c ∈ name, c.isAlphanum = true) ∧ parseState name = .other name
  | _ => True

/-- What `adb` knows of a device. -/
structure Attached where
  link : Link
  state : DeviceState
  product : Option Text
  model : Option Text
  device : Option Text
  transportId : Nat
  plainLink : link.Plain
  plainState : PlainState state
  plainModel : ∀ name, model = some name →
    name ≠ [] ∧ ∀ c ∈ name, c.isAlphanum = true ∨ c = ' '
  plainDevice : ∀ name, product = some name ∨ device = some name →
    ∀ c ∈ name, Text.isGraphic c = true

namespace Attached

variable (attached : Attached)

/-- Blanks in the name of a model are underscores. -/
def underscored (name : Text) : Text := name.map fun c => if c = ' ' then '_' else c

def details : List Text :=
  attached.link.devpath ++ (attached.product.map (productPrefix ++ ·)).toList ++
    (attached.model.map fun name => modelPrefix ++ underscored name).toList ++
    (attached.device.map (devicePrefix ++ ·)).toList ++
    [transportIdPrefix ++ Nat.toDigits 10 attached.transportId]

def words : List Text :=
  attached.link.serial :: deviceStateText attached.state :: attached.details

/-- The device as it is meant to be read. -/
def probed : ProbedDevice :=
  ⟨attached.link.serial, attached.model, attached.state, attached.link.transport⟩

end Attached

/-- A gap between words. -/
structure Gap where
  text : Text
  nonempty : text ≠ []
  blank : ∀ c ∈ text, Text.isWhitespace c = true
  oneLine : '\n' ∉ text

/-- A line below the header. -/
inductive Row where
  /-- A blank line, or a line of one word. -/
  | noise (line : Text) (few : line.splitWhitespace.length < 2) (oneLine : '\n' ∉ line)
  | device (attached : Attached) (gap : Gap) (ending : Text)
      (blank : ∀ c ∈ ending, Text.isWhitespace c = true) (oneLine : '\n' ∉ ending)

def Row.text : Row → Text
  | .noise line _ _ => line
  | .device attached gap ending _ _ => gap.text.intercalate attached.words ++ ending

def Row.attached : Row → Option Attached
  | .noise _ _ _ => none
  | .device attached _ _ _ _ => some attached

/-- The output of `adb devices -l`: what the server says when it starts, and the list. -/
structure Listing where
  preamble : List Text
  (before after : Text)
  rows : List Row
  plain : ∀ line ∈ preamble, '\n' ∉ line ∧ line.trim ≠ devicesHeader
  blank : ∀ c ∈ before ++ after, Text.isWhitespace c = true
  oneLine : '\n' ∉ before ++ after

def Listing.text (listing : Listing) : Text :=
  (listing.preamble ++ (listing.before ++ devicesHeader ++ listing.after) ::
    listing.rows.map Row.text).flatMap (· ++ ['\n'])

def Listing.attached (listing : Listing) : List Attached := listing.rows.filterMap Row.attached

/-! ### Words of a device -/

namespace Link

variable {link : Link}

end Link

namespace Attached

variable (attached : Attached)

end Attached

/-! ### Listings are read -/

namespace Row

variable (row : Row)

end Row

namespace Listing

variable (listing : Listing)

end Listing

end QuadControl.Android.Probe
