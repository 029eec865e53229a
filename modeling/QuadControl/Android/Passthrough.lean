import Mathlib.Data.List.TakeWhile
import QuadControl.Lib.Getopt

/-! # The passthrough filter of the scrcpy wrapper

`filtered_args` checks the user's scrcpy options against the wrapper's policy
before they are handed on. It reads the words its own way: the first `--`
separates, long names are compared in full, and the only letters that take a
value are `s`, `b` and `r`. What an accepted list means is decided by the reader
of `QuadControl.Lib.Getopt`; this module says exactly when the two agree.
-/

namespace QuadControl.Android

open Lib

/-- The wrapper's errors, with the texts they are displayed as. -/
inductive Error where
  | usage (message : String)
  | adb (message : String)
  | scrcpyNotFound (path : String)
  | scrcpyVersion (message : String)
  | invalidPassthrough (message : String)
  | process (message : String)
  | notFound (message : String)
  | wrongState (message : String)
  deriving Repr, DecidableEq

inductive OptionKind where
  | deny
  | conflict
  | other
  deriving Repr, DecidableEq

/-- `long_kind`. The source wraps the result in `Some` on every path. -/
def longKind (name : Text) : OptionKind :=
  if name ∈ ["serial".toList, "select-usb".toList, "select-tcpip".toList, "window-title".toList,
      "video-bit-rate".toList, "no-audio".toList, "audio-source".toList,
      "no-audio-playback".toList] then .conflict
  else if name ∈ ["screen-off-timeout".toList, "tcpip".toList] then .deny
  else if name = "record".toList then .deny
  else if name ∈ ["no-cleanup".toList, "stay-awake".toList, "show-touches".toList,
      "power-off-on-close".toList, "kill-adb-on-close".toList, "no-window".toList,
      "no-playback".toList, "no-video-playback".toList, "no-video".toList,
      "otg".toList] then .deny
  else .other

/-- `short_kind`: how a letter is classified, and whether it takes a value. -/
def shortKind : Char → OptionKind × Bool
  | 's' | 'b' => (.conflict, true)
  | 'd' | 'e' => (.conflict, false)
  | 'w' | 't' | 'N' => (.deny, false)
  | 'r' => (.deny, true)
  | _ => (.other, false)

def shortName : Char → String
  | 'w' => "stay-awake"
  | 't' => "show-touches"
  | 'N' => "no-playback"
  | 'r' => "record"
  | _ => "unknown"

def denyReason : String → String
  | "no-cleanup" => "it breaks the wrapper cleanup contract"
  | "tcpip" => "it changes connection state"
  | "stay-awake" | "show-touches" | "screen-off-timeout" | "power-off-on-close" =>
      "it changes device settings"
  | "kill-adb-on-close" => "it affects other adb users"
  | "no-window" | "no-playback" | "no-video-playback" | "no-video" | "otg" =>
      "it violates the visible mirroring boundary"
  | "record" => "recording is owned by the wrapper policy"
  | _ => "it is outside the wrapper policy"

def deniedLong (name : String) : Error :=
  .invalidPassthrough ("scrcpy option --" ++ name ++ " is denied: " ++ denyReason name)

def conflictLong (name : String) : Error :=
  .invalidPassthrough
    ("scrcpy option --" ++ name ++ " conflicts with wrapper-owned configuration")

def valueMissing (letter : Char) : Error :=
  .invalidPassthrough ("scrcpy option -" ++ letter.toString ++ " requires a value")

def deniedShort (letter : Char) : Error :=
  .invalidPassthrough
    ("scrcpy option -" ++ letter.toString ++ " is denied: " ++ denyReason (shortName letter))

def conflictShort (letter : Char) : Error :=
  .invalidPassthrough
    ("scrcpy option -" ++ letter.toString ++ " conflicts with wrapper-owned configuration")

/-- `as_bytes()[pos] as char`, for every position of a string. -/
def byteChars (s : Text) : Text :=
  s.flatMap fun c => (String.utf8EncodeChar c).map fun b => Char.ofNat b.toNat

/-- The inner loop of `filtered_args`, over the rest of a cluster. `next` is the
    word after the cluster; the result says whether the loop stepped over it. -/
def scanCluster (next : Option Text) : Text → Except Error Bool
  | [] => .ok false
  | c :: rest =>
      let (kind, takes) := shortKind c
      if takes ∧ rest = [] ∧ (next = none ∨ next = some Getopt.separator) then
        .error (valueMissing c)
      else if kind = .deny then .error (deniedShort c)
      else if kind = .conflict then .error (conflictShort c)
      else if takes then .ok (rest = [])
      else scanCluster next rest

/-- The check `filtered_args` makes of one word before the separator, with the
    word after it; on success, whether that one is stepped over. -/
def checkWord (arg : Text) (next : Option Text) : Except Error Bool :=
  match Text.stripPrefix "--".toList arg with
  | some body =>
      let name := (Getopt.splitArgument body).1
      match longKind name with
      | .deny => .error (deniedLong (String.ofList name))
      | .conflict => .error (conflictLong (String.ofList name))
      | .other => .ok false
  | none =>
      match (Text.stripPrefix "-".toList arg).filter (· ≠ []) with
      | some shorts => scanCluster next (byteChars shorts)
      | none => .ok false

/-- The outer loop of `filtered_args`, with its `after_separator` flag. -/
def filteredArgsFrom : Bool → List Text → Except Error (List Text)
  | _, [] => .ok []
  | true, arg :: rest => (filteredArgsFrom true rest).map (arg :: ·)
  | false, arg :: rest =>
      if arg = Getopt.separator then (filteredArgsFrom true rest).map (arg :: ·)
      else
        match checkWord arg rest.head? with
        | .error e => .error e
        | .ok false => (filteredArgsFrom false rest).map (arg :: ·)
        | .ok true =>
            match rest with
            | [] => .ok [arg]
            | _ :: rest' => (filteredArgsFrom false rest').map (arg :: ·)

def filteredArgs (args : List Text) : Except Error (List Text) := filteredArgsFrom false args

/-! ### What the filter accepts -/

/-- A word that passes the policy: its full name, or every byte of its cluster,
    is classified as neither denied nor conflicting. -/
def Permitted (arg : Text) : Prop :=
  match Text.stripPrefix "--".toList arg with
  | some body => longKind (Getopt.splitArgument body).1 = .other
  | none =>
      match (Text.stripPrefix "-".toList arg).filter (· ≠ []) with
      | some shorts => ∀ c ∈ byteChars shorts, (shortKind c).1 = .other
      | none => True

theorem shortKind_other {c : Char} (h : (shortKind c).1 = .other) : (shortKind c).2 = false := by
  unfold shortKind at h ⊢
  split at h <;> simp_all

/-- No letter that takes a value is permitted, so the loop never steps over the
    next word on an accepted cluster. -/
theorem scanCluster_ok {next : Option Text} {letters : Text} {skip : Bool} :
    scanCluster next letters = .ok skip ↔
      skip = false ∧ ∀ c ∈ letters, (shortKind c).1 = .other := by
  induction letters with
  | nil => simp [scanCluster, eq_comm]
  | cons c rest ih =>
      simp only [scanCluster, List.mem_cons, forall_eq_or_imp]
      cases kind : (shortKind c).1 with
      | deny | conflict => simp; split <;> simp
      | other => simp [shortKind_other kind, ih]

theorem checkWord_ok {arg : Text} {next : Option Text} {skip : Bool} :
    checkWord arg next = .ok skip ↔ skip = false ∧ Permitted arg := by
  simp only [checkWord, Permitted]
  split
  · rename_i body _
    cases longKind (Getopt.splitArgument body).1 <;> simp [eq_comm]
  · split
    · exact scanCluster_ok
    · simp [eq_comm]

theorem filteredArgsFrom_after (args : List Text) : filteredArgsFrom true args = .ok args := by
  induction args with
  | nil => rfl
  | cons arg rest ih => simp [filteredArgsFrom, ih, Except.map]

theorem filteredArgsFrom_separator (rest : List Text) :
    filteredArgsFrom false (Getopt.separator :: rest) = .ok (Getopt.separator :: rest) := by
  cases rest <;> simp [filteredArgsFrom, filteredArgsFrom_after, Except.map]

theorem filteredArgsFrom_word {arg : Text} (rest : List Text) (word : arg ≠ Getopt.separator) :
    filteredArgsFrom false (arg :: rest) =
      match checkWord arg rest.head? with
      | .error e => .error e
      | .ok false => (filteredArgsFrom false rest).map (arg :: ·)
      | .ok true => (filteredArgsFrom false rest.tail).map (arg :: ·) := by
  cases rest with
  | nil => simp only [filteredArgsFrom, word, if_false]; rfl
  | cons head rest => simp only [filteredArgsFrom, word, if_false]; rfl

/-- The words up to the first `--`, that one left out. -/
def beforeSeparator (args : List Text) : List Text := args.takeWhile (· ≠ Getopt.separator)

/-- The words after the first `--`. -/
def afterSeparator (args : List Text) : List Text :=
  (args.dropWhile (· ≠ Getopt.separator)).tail

/-- The filter returns the list it was given, or an error; it accepts exactly the
    lists whose words before the first `--` are permitted. -/
theorem filteredArgs_ok {args out : List Text} :
    filteredArgs args = .ok out ↔ out = args ∧ ∀ w ∈ beforeSeparator args, Permitted w := by
  simp only [filteredArgs, beforeSeparator]
  induction args generalizing out with
  | nil => simp [filteredArgsFrom, eq_comm]
  | cons arg rest ih =>
      by_cases sep : arg = Getopt.separator
      · simp [sep, filteredArgsFrom_separator, eq_comm]
      · rw [filteredArgsFrom_word rest sep]
        cases checked : checkWord arg rest.head? with
        | error e =>
            have refused : ¬ Permitted arg := by
              intro h
              rw [checkWord_ok.mpr ⟨rfl, h⟩] at checked
              exact absurd checked (by simp)
            simp [sep, refused]
        | ok skip =>
            obtain ⟨rfl, permitted⟩ := checkWord_ok.mp checked
            cases tail : filteredArgsFrom false rest with
            | error e =>
                simp only [tail, reduceCtorEq, false_iff, not_and] at ih
                have := ih rfl
                simp_all [Except.map]
            | ok kept =>
                obtain ⟨rfl, clean⟩ := ih.mp tail
                have all : ∀ w ∈ (arg :: kept).takeWhile (· ≠ Getopt.separator), Permitted w := by
                  simpa [sep, permitted] using clean
                simp only [Except.map, Except.ok.injEq]
                exact ⟨fun same => ⟨same.symm, all⟩, fun both => both.1.symm⟩

/-! ### What the accepted words mean to scrcpy -/

/-- The policy classifies the option as denied or as the wrapper's own. -/
def Refused : Getopt.Name → Prop
  | .long name => longKind name ≠ .other
  | .short letter => (shortKind letter).1 ≠ .other

/-- No option that the policy refuses is put in effect by the words. -/
def PolicyKept (table : Getopt.Table) (words : List Text) : Prop :=
  ∀ r ∈ Getopt.read table words, ¬ Refused r.option

/-- The word is a long option whose name is a proper abbreviation of a refused one. -/
def AbbreviatesRefused (table : Getopt.Table) (word : Text) : Prop :=
  ∃ body full mode, word = '-' :: '-' :: body ∧
    Getopt.resolve table (Getopt.splitArgument body).1 = some (full, mode) ∧
    full ≠ (Getopt.splitArgument body).1 ∧ longKind full ≠ .other

/-- The words up to the first `--`, that one included. -/
def throughSeparator (args : List Text) : List Text :=
  args.take ((beforeSeparator args).length + 1)

/-- The first `--` is the argument of the option before it, so it ends nothing. -/
def SwallowsSeparator (table : Getopt.Table) (args : List Text) : Prop :=
  Getopt.separator ∈ args ∧
    ∃ word option, (Getopt.readFrom table .ready 0 (beforeSeparator args)).1 = .awaiting word option

/-- The filter and scrcpy's reader see the same options: nothing is abbreviated
    past the filter, and what follows the first `--` is either not read as
    options or refused by neither. -/
def ReadersAgree (table : Getopt.Table) (args : List Text) : Prop :=
  (∀ w ∈ Getopt.optionWords table (throughSeparator args), ¬ AbbreviatesRefused table w) ∧
    (SwallowsSeparator table args → PolicyKept table (afterSeparator args))

theorem mem_byteChars_of_refused {letter : Char} {letters : Text}
    (refused : (shortKind letter).1 ≠ .other) (inside : letter ∈ letters) :
    letter ∈ byteChars letters := by
  -- every refused letter is ASCII, so it is a byte of its own
  have ascii : letter ∈ (String.utf8EncodeChar letter).map (fun b => Char.ofNat b.toNat) := by
    unfold shortKind at refused
    split at refused <;> first | decide | exact absurd rfl refused
  exact List.mem_flatMap.mpr ⟨letter, inside, ascii⟩

/-- A permitted word can only spell a refused option by abbreviating it. -/
theorem Permitted.abbreviates {table : Getopt.Table} {w : Text} {option : Getopt.Name}
    (permitted : Permitted w) (spells : Getopt.Spells table w option) (refused : Refused option) :
    AbbreviatesRefused table w := by
  cases spells with
  | @long body full mode _ resolved =>
      refine ⟨body, full, mode, rfl, resolved, ?_, refused⟩
      rintro rfl
      exact refused permitted
  | @short letters letter inside head =>
      have notLong : Text.stripPrefix "--".toList ('-' :: letters) = none := by
        cases letters with
        | nil => rfl
        | cons c rest =>
            have dash : '-' ≠ c := by simpa [eq_comm] using head
            simp [Text.stripPrefix, List.isPrefixOf?, dash]
      have short : Text.stripPrefix "-".toList ('-' :: letters) = some letters :=
        Text.stripPrefix_append ['-'] letters
      have nonempty : letters ≠ [] := List.ne_nil_of_mem inside
      simp only [Permitted, notLong, short, Option.filter, nonempty, ne_eq, not_false_eq_true,
        decide_true, if_true] at permitted
      exact absurd (permitted letter (mem_byteChars_of_refused refused inside)) refused

theorem AbbreviatesRefused.refused {table : Getopt.Table} {w : Text} {option : Getopt.Name}
    (abbreviates : AbbreviatesRefused table w) (spells : Getopt.Spells table w option) :
    Refused option := by
  obtain ⟨body, full, mode, rfl, resolved, -, refused⟩ := abbreviates
  cases spells with
  | long _ resolved' =>
      obtain ⟨rfl, -⟩ := Prod.mk.inj (Option.some.inj (resolved.symm.trans resolved'))
      exact refused
  | short _ head => exact absurd rfl head

theorem separator_split {args : List Text} (present : Getopt.separator ∈ args) :
    args = beforeSeparator args ++ Getopt.separator :: afterSeparator args := by
  induction args with
  | nil => simp at present
  | cons arg rest ih =>
      by_cases sep : arg = Getopt.separator
      · simp [beforeSeparator, afterSeparator, sep]
      · have := ih (by simpa [eq_comm, sep] using present)
        simpa [beforeSeparator, afterSeparator, sep] using this

theorem beforeSeparator_of_absent {args : List Text} (absent : Getopt.separator ∉ args) :
    beforeSeparator args = args := by
  refine List.takeWhile_eq_self_iff.mpr fun w inside => ?_
  simpa using fun same : w = Getopt.separator => absent (same ▸ inside)

theorem throughSeparator_of_absent {args : List Text} (absent : Getopt.separator ∉ args) :
    throughSeparator args = args := by
  rw [throughSeparator, beforeSeparator_of_absent absent, List.take_of_length_le (by omega)]

theorem throughSeparator_of_present {args : List Text} (present : Getopt.separator ∈ args) :
    throughSeparator args = beforeSeparator args ++ [Getopt.separator] :=
  calc throughSeparator args
      = (beforeSeparator args ++ Getopt.separator :: afterSeparator args).take
          ((beforeSeparator args).length + 1) := by rw [← separator_split present]; rfl
    _ = beforeSeparator args ++ [Getopt.separator] := by simp [List.take_append]

theorem mem_throughSeparator {args : List Text} {w : Text} (inside : w ∈ throughSeparator args) :
    w ∈ beforeSeparator args ∨ w = Getopt.separator := by
  by_cases present : Getopt.separator ∈ args
  · simpa [throughSeparator_of_present present] using inside
  · rw [throughSeparator_of_absent present] at inside
    rw [beforeSeparator_of_absent present]
    exact .inl inside

/-- Nothing after the first `--` is read, unless an option takes it as its
    argument; then the words after it are read from scratch. -/
theorem policyKept_iff (table : Getopt.Table) (args : List Text) :
    PolicyKept table args ↔
      PolicyKept table (throughSeparator args) ∧
        (SwallowsSeparator table args → PolicyKept table (afterSeparator args)) := by
  by_cases present : Getopt.separator ∈ args
  · have through := throughSeparator_of_present present
    have all := separator_split present
    cases reached : (Getopt.readFrom table .ready 0 (beforeSeparator args)).1 with
    | ready | ended =>
        have same : Getopt.read table args = Getopt.read table (throughSeparator args) := by
          rw [through]
          conv_lhs => rw [all]
          simp [Getopt.read, Getopt.readFrom_append, reached, Getopt.readFrom, Getopt.readWord,
            Getopt.readFrom_ended, Getopt.separator]
        have kept : ¬ SwallowsSeparator table args := by simp [SwallowsSeparator, reached]
        simp [PolicyKept, same, kept]
    | awaiting word option =>
        have swallows : SwallowsSeparator table args := ⟨present, word, option, reached⟩
        have split : Getopt.read table args =
            Getopt.read table (throughSeparator args) ++
              (Getopt.read table (afterSeparator args)).map
                (Getopt.Read.shift ((beforeSeparator args).length + 1)) := by
          rw [through]
          conv_lhs => rw [all]
          simp [Getopt.read, Getopt.readFrom_append, reached, Getopt.readFrom, Getopt.readWord,
            Getopt.readFrom_ready_index table ((beforeSeparator args).length + 1)]
        simp only [PolicyKept, split, List.forall_mem_append, List.forall_mem_map,
          Getopt.Read.shift_option, swallows, true_implies]
  · simp [throughSeparator_of_absent present, SwallowsSeparator, present]

/-- Up to the first `--`, accepted words put a refused option in effect exactly
    when one of them abbreviates it. -/
theorem policyKept_throughSeparator {table : Getopt.Table} {args : List Text}
    (permitted : ∀ w ∈ beforeSeparator args, Permitted w) :
    PolicyKept table (throughSeparator args) ↔
      ∀ w ∈ Getopt.optionWords table (throughSeparator args), ¬ AbbreviatesRefused table w := by
  simp only [PolicyKept, Getopt.optionWords, List.mem_filterMap]
  constructor
  · rintro kept w ⟨r, member, located⟩ abbreviates
    obtain ⟨w', located', spells⟩ := Getopt.read_spelled member
    obtain rfl : w = w' := Option.some.inj (located.symm.trans located')
    exact kept r member (abbreviates.refused spells)
  · intro plain r member refused
    obtain ⟨w, located, spells⟩ := Getopt.read_spelled member
    rcases mem_throughSeparator (List.mem_of_getElem? located) with inside | rfl
    · exact plain w ⟨r, member, located⟩ ((permitted w inside).abbreviates spells refused)
    · exact spells.ne_separator rfl

/-- The accepted list keeps the policy in scrcpy's reading exactly when that
    reading agrees with the filter's. -/
theorem filteredArgs_policy_iff (table : Getopt.Table) {args out : List Text}
    (accepted : filteredArgs args = .ok out) :
    PolicyKept table out ↔ ReadersAgree table args := by
  obtain ⟨rfl, permitted⟩ := filteredArgs_ok.mp accepted
  rw [policyKept_iff, policyKept_throughSeparator permitted, ReadersAgree]

instance : DecidablePred Refused
  | .long name => inferInstanceAs (Decidable (longKind name ≠ .other))
  | .short letter => inferInstanceAs (Decidable ((shortKind letter).1 ≠ .other))

instance (table : Getopt.Table) (words : List Text) : Decidable (PolicyKept table words) :=
  inferInstanceAs (Decidable (∀ r ∈ Getopt.read table words, ¬ Refused r.option))

/-- The options that the policy and the wrapper name, with the arguments scrcpy
    declares for them, and some of its others. -/
def scrcpyOptions : Getopt.Table where
  longs :=
    [("audio-source".toList, .required), ("kill-adb-on-close".toList, .no),
      ("max-size".toList, .required), ("no-audio".toList, .no),
      ("no-audio-playback".toList, .no), ("no-cleanup".toList, .no),
      ("no-clipboard-autosync".toList, .no), ("no-playback".toList, .no),
      ("no-video".toList, .no), ("no-video-playback".toList, .no), ("no-window".toList, .no),
      ("otg".toList, .no), ("power-off-on-close".toList, .no), ("push-target".toList, .required),
      ("record".toList, .required), ("screen-off-timeout".toList, .required),
      ("select-tcpip".toList, .no), ("select-usb".toList, .no), ("serial".toList, .required),
      ("show-touches".toList, .no), ("stay-awake".toList, .no), ("tcpip".toList, .optional),
      ("turn-screen-off".toList, .no), ("video-bit-rate".toList, .required),
      ("window-title".toList, .required)]
  shorts :=
    [('b', .required), ('d', .no), ('e', .no), ('m', .required), ('N', .no), ('r', .required),
      ('s', .required), ('S', .no), ('t', .no), ('w', .no)]

theorem filteredArgs_policy_iff_push_target :
    PolicyKept scrcpyOptions ["--push-target".toList, "/sdcard".toList, "-S".toList] ↔
      ReadersAgree scrcpyOptions ["--push-target".toList, "/sdcard".toList, "-S".toList] :=
  filteredArgs_policy_iff scrcpyOptions rfl

/-- The filter passes `--no-clean`, which scrcpy reads as `--no-cleanup`; and it
    stops at a `--` that scrcpy reads as the target to push to. -/
theorem filteredArgs_breaks_policy :
    (¬ ∀ out, filteredArgs ["--no-clean".toList] = .ok out → PolicyKept scrcpyOptions out) ∧
    (¬ ∀ out,
      filteredArgs ["--push-target".toList, "--".toList, "--no-cleanup".toList] = .ok out →
        PolicyKept scrcpyOptions out) := by
  constructor <;> exact fun kept => absurd (kept _ rfl) (by decide)

end QuadControl.Android
