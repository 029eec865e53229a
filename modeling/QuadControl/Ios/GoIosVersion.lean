import QuadControl.Android.ScrcpyVersion
import QuadControl.Lib.Json

/-! # The version of go-ios

`parse_version` reads the version from the JSON that `ios version` prints and lets it pass from
1.2.1 on. Like the gate of scrcpy it takes a hyphen for the only sign of a prerelease; a third
part that is no number counts as zero, and later ones are not read.
-/

namespace QuadControl.Ios

open Lib Text

/-- `MIN_GO_IOS`. -/
def minGoIos : List Nat := [1, 2, 1]

structure Version where
  major : Nat
  minor : Nat
  patch : Nat
  newerThanVerified : Bool
  deriving Repr, DecidableEq

/-- `Value::get` of a name: of members of one name an object keeps the last. -/
def getMember (name : Text) : Json → Option Json
  | .object members => (members.reverse.find? fun one => one.1 = name).map Prod.snd
  | _ => none

def asStr : Json → Option Text
  | .string value => some value
  | _ => none

/-- What is left of the field without its blanks and its leading letters `v`. -/
def goIosToken (raw : Text) : Text := (trim raw).dropWhile (· = 'v')

/-- `next` in `parse_version`. -/
def goIosPart (raw name : Text) (part : Option Text) : Except Text Nat :=
  match part.bind parseUsize with
  | some n => .ok n
  | none => .error ("go-ios version ".toList ++ raw ++ " has no ".toList ++ name)

/-- `parse_version` from the version field on. -/
def clampVersion (raw : Text) : Except Text Version :=
  let token := goIosToken raw
  if '-' ∈ token then
    .error ("go-ios prerelease ".toList ++ raw ++
      " is not supported; install stable go-ios 1.2.1 or newer".toList)
  else do
    let parts := splitOn '.' token
    let major ← goIosPart raw "major".toList parts[0]?
    let minor ← goIosPart raw "minor".toList parts[1]?
    let patch := (parts[2]?.bind parseUsize).getD 0
    let found := [major, minor, patch]
    if precedes found minGoIos then
      .error ("go-ios ".toList ++ raw ++ " is too old; install go-ios 1.2.1 or newer".toList)
    else .ok ⟨major, minor, patch, precedes minGoIos found⟩

/-- `parse_version`, whose errors are all of `IosVersion`, with the parser of `serde_json`. -/
def parseVersion (fromStr : Text → Except Text Json) (stdout : Text) : Except Text Version :=
  match fromStr (trim stdout) with
  | .error e => .error ("could not parse `ios version` output: ".toList ++ e)
  | .ok value =>
      match (getMember "version".toList value).bind asStr with
      | none => .error "`ios version` output has no version field".toList
      | some raw => clampVersion raw

/-- The token of the version field, if the output has one. -/
def versionField (fromStr : Text → Except Text Json) (stdout : Text) : Option Text :=
  match fromStr (trim stdout) with
  | .ok value => ((getMember "version".toList value).bind asStr).map goIosToken
  | .error _ => none

/-- A stable version from the least one on: two numerals or more between dots, and nothing else. -/
def StableGoIos (token : Text) : Prop :=
  ∃ major minor rest, dotted token = some (major :: minor :: rest) ∧
    ¬ precedes [major, minor, rest.headD 0] minGoIos

/-- The parts that are inspected are parsed, and make up no less than the least version. -/
def GoIosReaches (token : Text) : Prop :=
  ∃ major minor, (splitOn '.' token)[0]?.bind parseUsize = some major ∧
    (splitOn '.' token)[1]?.bind parseUsize = some minor ∧
    ¬ precedes [major, minor, ((splitOn '.' token)[2]?.bind parseUsize).getD 0] minGoIos

variable {fromStr : Text → Except Text Json} {stdout token : Text}

theorem goIosPart_ok {raw name : Text} {part : Option Text} {n : Nat} :
    goIosPart raw name part = .ok n ↔ part.bind parseUsize = some n := by
  rw [goIosPart]
  cases part.bind parseUsize with
  | none => exact iff_of_false nofun nofun
  | some n' => simp

theorem clampVersion_ok (raw : Text) :
    (∃ version, clampVersion raw = .ok version) ↔
      '-' ∉ goIosToken raw ∧ GoIosReaches (goIosToken raw) := by
  rw [clampVersion]
  by_cases hyphen : '-' ∈ goIosToken raw
  · simp [hyphen]
  · simp only [hyphen, if_false, not_false_eq_true, true_and, Except.bind_eq_ok, goIosPart_ok,
      GoIosReaches]
    constructor
    · rintro ⟨version, major, first, minor, second, reached⟩
      split at reached
      · cases reached
      · rename_i reaches
        exact ⟨major, minor, first, second, reaches⟩
    · rintro ⟨major, minor, first, second, reaches⟩
      exact ⟨_, major, first, minor, second, if_neg reaches⟩

theorem parseVersion_ok (found : versionField fromStr stdout = some token) :
    (∃ version, parseVersion fromStr stdout = .ok version) ↔ '-' ∉ token ∧ GoIosReaches token := by
  rw [versionField] at found
  rw [parseVersion]
  cases parsed : fromStr (trim stdout) with
  | error e =>
      rw [parsed] at found
      cases found
  | ok value =>
      rw [parsed] at found
      obtain ⟨raw, field, rfl⟩ := Option.map_eq_some_iff.mp found
      rw [← clampVersion_ok]
      dsimp only
      rw [field]

theorem goIosReaches_iff {ns : List Nat} (read : dotted token = some ns) :
    GoIosReaches token ↔ StableGoIos token := by
  rw [GoIosReaches, StableGoIos, read, parseUsize_of_dotted read, parseUsize_of_dotted read,
    parseUsize_of_dotted read]
  match ns with
  | [] => exact absurd rfl (ne_nil_of_dotted read)
  | [major] => simp
  | [major, minor] => simp
  | major :: minor :: patch :: rest => simp

theorem parseVersion_stable_iff (found : versionField fromStr stdout = some token) :
    ((∃ version, parseVersion fromStr stdout = .ok version) ↔ StableGoIos token) ↔
      (∀ part ∈ splitOn '.' token, numeral part ≠ none) ∨ '-' ∈ token ∨ ¬ GoIosReaches token := by
  rw [parseVersion_ok found]
  exact passes_iff (fun _ => goIosReaches_iff) fun ⟨_, _, _, read, _⟩ => ⟨_, read⟩

/-! ### Both gates -/

/-- What a gate inspects of a version does not decide whether the version is stable: a gate is
    right about just those that are numerals between dots, have a hyphen, or do not reach the
    least version by what is inspected. -/
theorem version_gates (fromStr : Text → Except Text Json) (stdout token text word : Text)
    (field : versionField fromStr stdout = some token)
    (first : (splitWhitespace text).find? (fun word => word.head?.any Char.isDigit) = some word) :
    (((∃ version, parseVersion fromStr stdout = .ok version) ↔ StableGoIos token) ↔
      (∀ part ∈ splitOn '.' token, numeral part ≠ none) ∨ '-' ∈ token ∨ ¬ GoIosReaches token) ∧
    ((Android.validateVersionText text = .ok () ↔ Android.StableScrcpy word) ↔
      (∀ part ∈ splitOn '.' word, numeral part ≠ none) ∨ '-' ∈ word ∨
        ¬ Android.ScrcpyReaches word) := by
  rw [← Android.versionToken_eq] at first
  exact ⟨parseVersion_stable_iff field, Android.validateVersionText_stable_iff first⟩

/-- The parser of JSON for the samples. -/
def sampleFromStr (s : Text) : Except Text Json :=
  match Json.parse s with
  | some value => .ok value
  | none => .error "expected value".toList

theorem version_gates_stable :
    ((∃ version, parseVersion sampleFromStr "\x7b\"version\":\"v1.3.0\"\x7d".toList =
        .ok version) ↔ StableGoIos "1.3.0".toList) ∧
      (Android.validateVersionText "scrcpy 4.1\n".toList = .ok () ↔
        Android.StableScrcpy "4.1".toList) :=
  have gates := version_gates sampleFromStr "\x7b\"version\":\"v1.3.0\"\x7d".toList
    "1.3.0".toList "scrcpy 4.1\n".toList "4.1".toList (by rfl) (by rfl)
  ⟨gates.1.mpr (.inl (by decide)), gates.2.mpr (.inl (by decide))⟩

theorem version_gates_prerelease :
    ¬ ((∃ version, parseVersion sampleFromStr "\x7b\"version\":\"1.3.0rc1\"\x7d".toList =
        .ok version) ↔ StableGoIos "1.3.0rc1".toList) ∧
      ¬ (Android.validateVersionText "scrcpy 4.2.0beta\n".toList = .ok () ↔
        Android.StableScrcpy "4.2.0beta".toList) := by
  have goIos : dotted "1.3.0rc1".toList = none := by decide
  have scrcpy : dotted "4.2.0beta".toList = none := by decide
  refine ⟨fun gate => ?_, fun gate => ?_⟩
  · obtain ⟨_, _, _, read, -⟩ := gate.mp ⟨⟨1, 3, 0, true⟩, by rfl⟩
    cases goIos.symm.trans read
  · obtain ⟨_, _, read, -⟩ := gate.mp (by rfl)
    cases scrcpy.symm.trans read

end QuadControl.Ios
