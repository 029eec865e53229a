import QuadControl.Lib.Except
import QuadControl.Lib.Numerals

/-! # The version of scrcpy

`validate_version_text` looks for the version in what `scrcpy --version` printed and lets it pass
from 4.1 on. It means to refuse every prerelease, but takes a hyphen for the only sign of one,
and reads no more than two parts.
-/

namespace QuadControl.Android

open Lib Text

/-- `MIN_SCRCPY`. -/
def minScrcpy : List Nat := [4, 1]

/-- The first word that begins with a digit, line by line. -/
def versionToken (text : Text) : Option Text :=
  (lines text).findSome? fun line =>
    (splitWhitespace line).find? fun word => word.head?.any Char.isDigit

/-- The first part, which there has to be. -/
def scrcpyMajor : Option (Option Nat) → Except Text Nat
  | some (some major) => .ok major
  | some none | none => .error "invalid scrcpy version".toList

/-- The second part, if there is one. -/
def scrcpyMinor : Option (Option Nat) → Except Text Nat
  | some (some minor) => .ok minor
  | some none => .error "invalid scrcpy version".toList
  | none => .ok 0

/-- `validate_version_text`, whose errors are all of `ScrcpyVersion`. -/
def validateVersionText (text : Text) : Except Text Unit :=
  match versionToken text with
  | none =>
      .error ("could not parse scrcpy version; install stable scrcpy 4.1 or newer from " ++
        "https://github.com/Genymobile/scrcpy/releases").toList
  | some token =>
      if '-' ∈ token then
        .error ("scrcpy prerelease ".toList ++ token ++
          " is not supported; install stable scrcpy 4.1 or newer".toList)
      else do
        let parts := (splitOn '.' token).map parseUsize
        let major ← scrcpyMajor parts[0]?
        let minor ← scrcpyMinor parts[1]?
        if precedes [major, minor] minScrcpy then
          .error ("scrcpy ".toList ++ token ++
            " is too old; install stable scrcpy 4.1 or newer".toList)
        else .ok ()

/-- A stable version from the least one on: numerals between dots, and nothing else. -/
def StableScrcpy (token : Text) : Prop :=
  ∃ major rest, dotted token = some (major :: rest) ∧ ¬ precedes [major, rest.headD 0] minScrcpy

/-- The parts that are inspected are parsed, and make up no less than the least version. -/
def ScrcpyReaches (token : Text) : Prop :=
  ∃ major minor, (splitOn '.' token)[0]?.bind parseUsize = some major ∧
    ((splitOn '.' token)[1]?.bind parseUsize = some minor ∨
      (splitOn '.' token)[1]? = none ∧ minor = 0) ∧
    ¬ precedes [major, minor] minScrcpy

variable {text token : Text}

/-- The first word of a text that begins with a digit is found. -/
theorem versionToken_eq (text : Text) :
    versionToken text = (splitWhitespace text).find? fun word => word.head?.any Char.isDigit := by
  rw [versionToken, ← splitWhitespace_lines, List.find?_flatMap]

theorem scrcpyMajor_ok {part : Option Text} {major : Nat} :
    scrcpyMajor (part.map parseUsize) = .ok major ↔ part.bind parseUsize = some major := by
  cases part with
  | none => exact iff_of_false nofun nofun
  | some part =>
      rw [Option.map_some, Option.bind_some]
      cases parseUsize part with
      | none => exact iff_of_false nofun nofun
      | some major' => simp [scrcpyMajor]

theorem scrcpyMinor_ok {part : Option Text} {minor : Nat} :
    scrcpyMinor (part.map parseUsize) = .ok minor ↔
      part.bind parseUsize = some minor ∨ part = none ∧ minor = 0 := by
  cases part with
  | none => simp [scrcpyMinor, eq_comm]
  | some part =>
      rw [Option.map_some, Option.bind_some]
      cases parseUsize part with
      | none => simp [scrcpyMinor]
      | some minor' => simp [scrcpyMinor]

theorem validateVersionText_ok (found : versionToken text = some token) :
    validateVersionText text = .ok () ↔ '-' ∉ token ∧ ScrcpyReaches token := by
  rw [validateVersionText, found]
  by_cases hyphen : '-' ∈ token
  · simp [hyphen]
  · simp only [hyphen, if_false, not_false_eq_true, true_and, List.getElem?_map,
      Except.bind_eq_ok, scrcpyMajor_ok, scrcpyMinor_ok, ScrcpyReaches]
    constructor
    · rintro ⟨major, first, minor, second, reached⟩
      split at reached
      · cases reached
      · rename_i reaches
        exact ⟨major, minor, first, second, reaches⟩
    · rintro ⟨major, minor, first, second, reaches⟩
      exact ⟨major, first, minor, second, if_neg reaches⟩

/-- Of numerals between dots, the gate inspects what there is to inspect. -/
theorem scrcpyReaches_iff {ns : List Nat} (read : dotted token = some ns) :
    ScrcpyReaches token ↔ StableScrcpy token := by
  rw [ScrcpyReaches, StableScrcpy, read, parseUsize_of_dotted read, parseUsize_of_dotted read,
    splitOn_eq_none_iff read]
  match ns with
  | [] => exact absurd rfl (ne_nil_of_dotted read)
  | [major] => simp [minScrcpy]
  | major :: minor :: rest => simp [minScrcpy]

/-- The gate lets just the stable versions from the least one on pass, unless what it inspects of
    a token passes and another part is no numeral, or one has a sign. -/
theorem validateVersionText_stable_iff (found : versionToken text = some token) :
    (validateVersionText text = .ok () ↔ StableScrcpy token) ↔
      (∀ part ∈ splitOn '.' token, numeral part ≠ none) ∨ '-' ∈ token ∨ ¬ ScrcpyReaches token := by
  rw [validateVersionText_ok found]
  exact passes_iff (fun _ => scrcpyReaches_iff) fun ⟨_, _, read, _⟩ => ⟨_, read⟩

end QuadControl.Android
