import QuadControl.Android.Devices
import QuadControl.Lib.Json

/-! # The probe's report

The report of a probe as the JSON text a caller reads. It is written without a serializer:
the texts of the report are escaped, everything else is laid out by hand.
-/

namespace QuadControl.Android.Probe

open Lib Wireless

inductive Transport where
  | usb
  | tcp
  | emulator
  | unknown
  deriving Repr, DecidableEq

structure Device where
  serial : Text
  state : DeviceState
  transport : Transport
  deriving Repr, DecidableEq

inductive MdnsAvailability where
  | available
  | unsupported
  deriving Repr, DecidableEq

structure MdnsReport where
  availability : MdnsAvailability
  pairingServiceAdvertised : Bool
  connectServiceAdvertised : Bool
  malformedLines : ℕ
  deriving Repr, DecidableEq

/-- Of `paired_with_this_host` there is one observation only. -/
structure ProbeReport where
  adbVersion : Text
  devices : List Device
  mdns : MdnsReport
  wirelessConnected : Bool
  deriving Repr, DecidableEq

/-- What `json_escape` writes for a character. -/
def escapeCharacter (character : Char) : Text :=
  if character = '"' then ['\\', '"']
  else if character = '\\' then ['\\', '\\']
  else if character = '\n' then ['\\', 'n']
  else if character = '\r' then ['\\', 'r']
  else if character = '\t' then ['\\', 't']
  else if character = '\x08' then ['\\', 'b']
  else if character = '\x0c' then ['\\', 'f']
  else if character ≤ '\x1f' then
    ['\\', 'u'] ++ (Nat.toDigits 16 character.toNat).leftpad 4 '0'
  else [character]

def jsonEscape (value : Text) : Text := value.flatMap escapeCharacter

def deviceStateText : DeviceState → Text
  | .device => "device".toList
  | .offline => "offline".toList
  | .unauthorized => "unauthorized".toList
  | .other value => value

def transportText : Transport → Text
  | .usb => "usb".toList
  | .tcp => "tcp".toList
  | .emulator => "emulator".toList
  | .unknown => "unknown".toList

def mdnsAvailability : MdnsAvailability → Text
  | .available => "available".toList
  | .unsupported => "unsupported".toList

def boolText (flag : Bool) : Text := if flag then "true".toList else "false".toList

def deviceJson (device : Device) : Text :=
  "\x7b\"serial\":\"".toList ++ jsonEscape device.serial ++ "\",\"state\":\"".toList ++
    jsonEscape (deviceStateText device.state) ++ "\",\"transport\":\"".toList ++
    transportText device.transport ++ "\"\x7d".toList

def reportJson (report : ProbeReport) : Text :=
  "\x7b\"adb_version\":\"".toList ++ jsonEscape report.adbVersion ++ "\",\"devices\":[".toList ++
    [','].intercalate (report.devices.map deviceJson) ++ "],".toList ++
    "\"mdns\":\x7b\"availability\":\"".toList ++ mdnsAvailability report.mdns.availability ++
    "\",".toList ++
    "\"pairing_service_advertised\":".toList ++ boolText report.mdns.pairingServiceAdvertised ++
    ",".toList ++
    "\"connect_service_advertised\":".toList ++ boolText report.mdns.connectServiceAdvertised ++
    ",".toList ++
    "\"malformed_lines\":".toList ++ Nat.toDigits 10 report.mdns.malformedLines ++ "\x7d,".toList ++
    "\"wireless_connected\":".toList ++ boolText report.wirelessConnected ++ ",".toList ++
    "\"paired_with_this_host\":\"unknown\"\x7d".toList

/-! ### The escapes -/

/-- A control character is written with its four digits. -/
theorem digits_control : ∀ n < 0x20, ∃ high low,
    (Nat.toDigits 16 n).leftpad 4 '0' = ['0', '0', high, low] ∧
      Json.hexDigit high = some (n / 16) ∧ Json.hexDigit low = some (n % 16) := by
  intro n small
  refine ⟨Nat.digitChar (n / 16), Nat.digitChar (n % 16), ?_⟩
  revert n
  decide

theorem le_unitSeparator_iff {character : Char} : character ≤ '\x1f' ↔ character.toNat < 0x20 := by
  rw [Char.le_def, UInt32.le_iff_toNat_le, Nat.lt_succ_iff]
  rfl

/-- The escape of a control character that has no letter. -/
theorem spells_control {character : Char} (control : character.toNat < 0x20) :
    Json.Spells (['\\', 'u'] ++ (Nat.toDigits 16 character.toNat).leftpad 4 '0') character := by
  obtain ⟨high, low, digits, first, second⟩ := digits_control character.toNat control
  have code : [0, 0, character.toNat / 16, character.toNat % 16].foldl
      (fun code digit => 16 * code + digit) 0 = character.toNat := by
    simp only [List.foldl_cons, List.foldl_nil]
    omega
  have single : Json.isHigh character.toNat = false ∧ Json.isLow character.toNat = false := by
    simp only [Json.isHigh, Json.isLow, Bool.and_eq_false_iff, decide_eq_false_iff_not]
    omega
  have zero : Json.hexDigit '0' = some 0 := by decide
  have spelled := Json.spells_unicode zero zero first second code single
  rw [Char.ofNat_toNat] at spelled
  rw [digits]
  exact spelled

theorem spells_escape (character : Char) : Json.Spells (escapeCharacter character) character := by
  by_cases quote : character = '"'
  · subst quote; exact Json.spells_letter rfl
  by_cases backslash : character = '\\'
  · subst backslash; exact Json.spells_letter rfl
  by_cases newline : character = '\n'
  · subst newline; exact Json.spells_letter rfl
  by_cases carriage : character = '\r'
  · subst carriage; exact Json.spells_letter rfl
  by_cases tab : character = '\t'
  · subst tab; exact Json.spells_letter rfl
  by_cases back : character = '\x08'
  · subst back; exact Json.spells_letter rfl
  by_cases feed : character = '\x0c'
  · subst feed; exact Json.spells_letter rfl
  rw [escapeCharacter, if_neg quote, if_neg backslash, if_neg newline, if_neg carriage,
    if_neg tab, if_neg back, if_neg feed]
  by_cases control : character ≤ '\x1f'
  · rw [if_pos control]
    exact spells_control (le_unitSeparator_iff.mp control)
  · rw [if_neg control]
    have printed := Nat.not_lt.mp fun small => control (le_unitSeparator_iff.mpr small)
    exact Json.spells_plain (decide_eq_true ⟨quote, backslash, printed⟩)

/-- An escaped text is read back. -/
theorem characters_escape (value rest : Text) :
    Json.characters (jsonEscape value ++ '"' :: rest) = some (value, rest) :=
  Json.characters_spelled rest fun c _ => spells_escape c

/-! ### The layout -/

def quoted (body : Text) : Text := '"' :: body ++ ['"']

def laidOut (key text : Text) : Text := '"' :: key ++ '"' :: ':' :: text

def braced (members : List Text) : Text := '\x7b' :: [','].intercalate members ++ ['\x7d']

theorem device_laidOut (serial state transport : Text) :
    "\x7b\"serial\":\"".toList ++ serial ++ "\",\"state\":\"".toList ++ state ++
        "\",\"transport\":\"".toList ++ transport ++ "\"\x7d".toList =
      braced [laidOut "serial".toList (quoted serial), laidOut "state".toList (quoted state),
        laidOut "transport".toList (quoted transport)] := by
  simp [braced, laidOut, quoted, List.intercalate_cons_cons]

set_option maxRecDepth 2000 in
theorem report_laidOut (version devices availability pairing connect malformed wireless : Text) :
    "\x7b\"adb_version\":\"".toList ++ version ++ "\",\"devices\":[".toList ++ devices ++
        "],".toList ++ "\"mdns\":\x7b\"availability\":\"".toList ++ availability ++ "\",".toList ++
        "\"pairing_service_advertised\":".toList ++ pairing ++ ",".toList ++
        "\"connect_service_advertised\":".toList ++ connect ++ ",".toList ++
        "\"malformed_lines\":".toList ++ malformed ++ "\x7d,".toList ++
        "\"wireless_connected\":".toList ++ wireless ++ ",".toList ++
        "\"paired_with_this_host\":\"unknown\"\x7d".toList =
      braced [laidOut "adb_version".toList (quoted version),
        laidOut "devices".toList ('[' :: devices ++ [']']),
        laidOut "mdns".toList (braced [laidOut "availability".toList (quoted availability),
          laidOut "pairing_service_advertised".toList pairing,
          laidOut "connect_service_advertised".toList connect,
          laidOut "malformed_lines".toList malformed]),
        laidOut "wireless_connected".toList wireless,
        laidOut "paired_with_this_host".toList (quoted "unknown".toList)] := by
  simp [braced, laidOut, quoted, List.intercalate_cons_cons]

/-! ### What is read -/

/-- A member: its key, the text of its value, and what that is read as. -/
structure Member where
  key : Text
  text : Text
  json : Json

namespace Member

def written (member : Member) : Text := laidOut member.key member.text

def entry (member : Member) : Text × Json := (member.key, member.json)

def string (key value : Text) : Member := ⟨key, quoted (jsonEscape value), .string value⟩

/-- A string that needs no escape. -/
def word (key value : Text) : Member := ⟨key, quoted value, .string value⟩

def bool (key : Text) (flag : Bool) : Member := ⟨key, boolText flag, .bool flag⟩

def number (key : Text) (value : ℕ) : Member := ⟨key, Nat.toDigits 10 value, .number ⟨value, 0⟩⟩

def object (key : Text) (members : List Member) : Member :=
  ⟨key, braced (members.map written), .object (members.map entry)⟩

end Member

def Device.members (device : Device) : List Member :=
  [.string "serial".toList device.serial, .string "state".toList (deviceStateText device.state),
    .word "transport".toList (transportText device.transport)]

def Device.json (device : Device) : Json := .object (device.members.map Member.entry)

def MdnsReport.members (mdns : MdnsReport) : List Member :=
  [.word "availability".toList (mdnsAvailability mdns.availability),
    .bool "pairing_service_advertised".toList mdns.pairingServiceAdvertised,
    .bool "connect_service_advertised".toList mdns.connectServiceAdvertised,
    .number "malformed_lines".toList mdns.malformedLines]

def ProbeReport.members (report : ProbeReport) : List Member :=
  [.string "adb_version".toList report.adbVersion,
    ⟨"devices".toList, '[' :: [','].intercalate (report.devices.map deviceJson) ++ [']'],
      .array (report.devices.map Device.json)⟩,
    .object "mdns".toList report.mdns.members,
    .bool "wireless_connected".toList report.wirelessConnected,
    .word "paired_with_this_host".toList "unknown".toList]

theorem deviceJson_eq (device : Device) :
    deviceJson device = braced (device.members.map Member.written) :=
  device_laidOut _ _ _

theorem reportJson_eq (report : ProbeReport) :
    reportJson report = braced (report.members.map Member.written) :=
  report_laidOut _ _ _ _ _ _ _

namespace Member

variable (depth : ℕ)

/-- A member whose key needs no escape and whose text is read as its value. -/
structure Reads (member : Member) : Prop where
  key : member.key.all Json.isPlain = true
  text : Json.Reads (Json.value depth) member.text member.json

variable {depth}

theorem Reads.written {member : Member} (reads : member.Reads depth) :
    Json.Reads (Json.member (Json.value depth)) member.written member.entry :=
  Json.reads_member depth (fun rest => Json.characters_plain rest reads.key) reads.text

theorem reads_string {key : Text} (plain : key.all Json.isPlain = true) (value : Text) :
    (string key value).Reads (depth + 1) :=
  ⟨plain, Json.reads_string depth (characters_escape value)⟩

theorem reads_word {key value : Text} (plain : key.all Json.isPlain = true)
    (unescaped : value.all Json.isPlain = true) : (word key value).Reads (depth + 1) :=
  ⟨plain, Json.reads_string depth fun rest => Json.characters_plain rest unescaped⟩

theorem reads_bool {key : Text} (plain : key.all Json.isPlain = true) (flag : Bool) :
    (bool key flag).Reads (depth + 1) :=
  ⟨plain, Json.reads_bool depth flag⟩

theorem reads_number {key : Text} (plain : key.all Json.isPlain = true) (value : ℕ) :
    (number key value).Reads (depth + 1) :=
  ⟨plain, Json.reads_numeral depth value⟩

theorem reads_braced {members : List Member} (each : ∀ member ∈ members, member.Reads depth) :
    Json.Reads (Json.value (depth + 1)) (braced (members.map written))
      (.object (members.map entry)) :=
  Json.reads_object depth members fun member inside => (each member inside).written

end Member

theorem transportText_plain (transport : Transport) :
    (transportText transport).all Json.isPlain = true := by
  cases transport <;> decide

theorem mdnsAvailability_plain (availability : MdnsAvailability) :
    (mdnsAvailability availability).all Json.isPlain = true := by
  cases availability <;> decide

theorem reads_device (depth : ℕ) (device : Device) :
    Json.Reads (Json.value (depth + 2)) (deviceJson device) device.json := by
  rw [deviceJson_eq]
  apply Member.reads_braced
  simp only [Device.members, List.forall_mem_cons]
  exact ⟨Member.reads_string (by decide) _, Member.reads_string (by decide) _,
    Member.reads_word (by decide) (transportText_plain _), by simp⟩

theorem reads_mdns (depth : ℕ) (mdns : MdnsReport) :
    Json.Reads (Json.value (depth + 2)) (braced (mdns.members.map Member.written))
      (.object (mdns.members.map Member.entry)) := by
  apply Member.reads_braced
  simp only [MdnsReport.members, List.forall_mem_cons]
  exact ⟨Member.reads_word (by decide) (mdnsAvailability_plain _),
    Member.reads_bool (by decide) _, Member.reads_bool (by decide) _,
    Member.reads_number (by decide) _, by simp⟩

theorem reads_report (depth : ℕ) (report : ProbeReport) :
    Json.Reads (Json.value (depth + 4)) (reportJson report)
      (.object (report.members.map Member.entry)) := by
  rw [reportJson_eq]
  apply Member.reads_braced
  simp only [ProbeReport.members, List.forall_mem_cons]
  have devices := Json.reads_array (depth + 2) report.devices fun device _ =>
    reads_device depth device
  have plain : "devices".toList.all Json.isPlain = true ∧
      "mdns".toList.all Json.isPlain = true := by decide
  exact ⟨Member.reads_string (by decide) _, ⟨plain.1, devices⟩,
    ⟨plain.2, reads_mdns (depth + 1) report.mdns⟩, Member.reads_bool (by decide) _,
    Member.reads_word (by decide) (by decide), by simp⟩

/-- The document of a report: its fields in the order they are written in. -/
def ProbeReport.json (report : ProbeReport) : Json :=
  .object
    [("adb_version".toList, .string report.adbVersion),
      ("devices".toList, .array (report.devices.map fun device => .object
        [("serial".toList, .string device.serial),
          ("state".toList, .string (deviceStateText device.state)),
          ("transport".toList, .string (transportText device.transport))])),
      ("mdns".toList, .object
        [("availability".toList, .string (mdnsAvailability report.mdns.availability)),
          ("pairing_service_advertised".toList, .bool report.mdns.pairingServiceAdvertised),
          ("connect_service_advertised".toList, .bool report.mdns.connectServiceAdvertised),
          ("malformed_lines".toList, .number ⟨report.mdns.malformedLines, 0⟩)]),
      ("wireless_connected".toList, .bool report.wirelessConnected),
      ("paired_with_this_host".toList, .string "unknown".toList)]

/-- Whatever the texts of a report contain, what is written is one JSON document, and that
    document has every field of the report. -/
theorem parse_reportJson (report : ProbeReport) :
    Json.parse (reportJson report) = some report.json := by
  have long : 4 ≤ (reportJson report).length := by
    rw [reportJson_eq]
    simp [braced, ProbeReport.members, List.intercalate_cons_cons, Member.string, Member.written,
      laidOut, quoted]
  obtain ⟨depth, enough⟩ := Nat.exists_eq_add_of_le' long
  apply Json.parse_of_reads
  rw [enough]
  exact reads_report depth report

end QuadControl.Android.Probe
