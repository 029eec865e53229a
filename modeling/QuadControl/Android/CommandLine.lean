import QuadControl.Android.Launch
import QuadControl.Lib.Except

/-! # The command line of the scrcpy wrapper

`main` takes its own options out of the whole vector, one after the other and wherever they
stand, before `filtered_args` looks for the `--` behind which words are not parsed. So the
words behind it can be taken for options of the wrapper, and the `--` for a value of one.
-/

namespace QuadControl.Android

open Lib

def adbFlag : Text := "--adb".toList
def serialFlag : Text := "--serial".toList
def bitRateFlag : Text := "--bit-rate".toList
def screenOffFlag : Text := "--screen-off".toList
def noAudioFlag : Text := "--no-audio".toList

/-- Why `main` returns before it touches a device. -/
inductive Refusal where
  | usage (message : Text)
  | passthrough (error : Error)
  deriving Repr, DecidableEq

def takeValue (flag : Text) (args : List Text) : Except Refusal (Option Text × List Text) :=
  match args.findIdx? (· = flag) with
  | some i =>
      if args.length ≤ i + 1 then .error (.usage (flag ++ " requires a value".toList))
      else .ok (args[i + 1]?, (args.eraseIdx (i + 1)).eraseIdx i)
  | none => .ok (none, args)

def takeFlag (flag : Text) (args : List Text) : Bool × List Text :=
  match args.findIdx? (· = flag) with
  | some i => (true, args.eraseIdx i)
  | none => (false, args)

/-- What is found of the wrapper's own options. -/
structure Settings where
  adb : Option Text
  serial : Option Text
  bitRate : Option Text
  screenOff : Bool
  noAudio : Bool
  deriving Repr, DecidableEq

/-- The passes over the vector, and what they leave of it. -/
def takeSettings (args : List Text) : Except Refusal (Settings × List Text) := do
  let (adb, args) ← takeValue adbFlag args
  let (serial, args) ← takeValue serialFlag args
  let (bitRate, args) ← takeValue bitRateFlag args
  let (screenOff, args) := takeFlag screenOffFlag args
  let (noAudio, args) := takeFlag noAudioFlag args
  return (⟨adb, serial, bitRate, screenOff, noAudio⟩, args)

/-- What a session is started with. -/
structure Configuration where
  adb : Option Text
  serial : Option Text
  bitRate : Text
  screenOff : Bool
  audioOnComputer : Bool
  passthrough : List Text
  deriving Repr, DecidableEq

def defaultBitRate : Text := "8M".toList

def Settings.configure (settings : Settings) (args : List Text) : Configuration :=
  ⟨settings.adb, settings.serial, settings.bitRate.getD defaultBitRate, settings.screenOff,
    !settings.noAudio, args⟩

/-- What `main` goes on to do. -/
inductive Action where
  | pairQr (args : List Text)
  | pairCode (args : List Text)
  | connect (args : List Text)
  | help
  | refuse (refusal : Refusal)
  | launch (configuration : Configuration)
  deriving Repr, DecidableEq

/-- The commands that are told by the first word. -/
def subcommand (args : List Text) : Option Action :=
  match args with
  | [] => none
  | first :: rest =>
      if first = "pair-qr".toList then some (.pairQr rest)
      else if first = "pair-code".toList then some (.pairCode rest)
      else if first = "connect".toList then some (.connect rest)
      else none

def AsksHelp (args : List Text) : Prop := "--help".toList ∈ args ∨ "-h".toList ∈ args

instance (args : List Text) : Decidable (AsksHelp args) :=
  inferInstanceAs (Decidable (_ ∨ _))

/-- What follows the question for help. -/
def wrap (args : List Text) : Action :=
  match takeSettings args with
  | .error refusal => .refuse refusal
  | .ok (settings, args) =>
      match filteredArgs args with
      | .error error => .refuse (.passthrough error)
      | .ok _ => .launch (settings.configure args)

/-- `main`, up to the first device. -/
def command (args : List Text) : Action :=
  match subcommand args with
  | some action => action
  | none => if AsksHelp args then .help else wrap args

/-- The options of a launch on the device that is selected. -/
def Configuration.options (configuration : Configuration) (serial : Text) : LaunchOptions :=
  ⟨serial, configuration.bitRate, configuration.screenOff, configuration.audioOnComputer,
    configuration.passthrough⟩

/-- The words behind the first `--` are handed on as they are, and mean nothing to the
    wrapper: it does as it does without them. -/
def Verbatim (args : List Text) : Prop :=
  match command (throughSeparator args) with
  | .launch configuration =>
      command args = .launch { configuration with
        passthrough := configuration.passthrough ++ afterSeparator args }
  | .refuse _ => ∃ refusal, command args = .refuse refusal
  | action => command args = action

/-- No option that was not found is among the words. -/
structure Settings.Covers (settings : Settings) (words : List Text) : Prop where
  adb : settings.adb = none → adbFlag ∉ words
  serial : settings.serial = none → serialFlag ∉ words
  bitRate : settings.bitRate = none → bitRateFlag ∉ words
  screenOff : settings.screenOff = false → screenOffFlag ∉ words
  noAudio : settings.noAudio = false → noAudioFlag ∉ words

/-- An option lacks its value, or a word before the `--` that is left is not permitted. -/
def Refuses (args : List Text) : Prop :=
  ∀ settings left, takeSettings args = .ok (settings, left) →
    ∃ w ∈ beforeSeparator left, ¬ Permitted w

/-- The words behind the first `--` ask for no help, and are none of the wrapper's options
    that are looked for among them; the `--` is left, or else they would do without it. -/
def Ignored (args : List Text) : Prop :=
  AsksHelp (throughSeparator args) ∨
    ¬ AsksHelp (afterSeparator args) ∧
      (Refuses (throughSeparator args) ∧ Refuses args ∨
        ∃ settings left, takeSettings (throughSeparator args) = .ok (settings, left) ∧
          settings.Covers (afterSeparator args) ∧
          (Getopt.separator ∈ left ∨ ∀ w ∈ beforeSeparator (afterSeparator args), Permitted w))

/-! ### The passes -/

section Passes

variable {flag : Text} {args more left left' : List Text} {found found' : Option Text}

theorem findIdx?_absent (absent : flag ∉ args) : args.findIdx? (· = flag) = none :=
  List.findIdx?_eq_none_iff.mpr fun w inside =>
    decide_eq_false fun same : w = flag => absent (same ▸ inside)

theorem takeValue_of_absent (absent : flag ∉ args) : takeValue flag args = .ok (none, args) := by
  rw [takeValue, findIdx?_absent absent]

theorem findIdx?_first {before after : List Text} (first : flag ∉ before) :
    (before ++ flag :: after).findIdx? (· = flag) = some before.length := by
  simp [List.findIdx?_append, findIdx?_absent first, List.findIdx?_cons]

theorem takeValue_of_first {before after : List Text} {value : Text} (first : flag ∉ before) :
    takeValue flag (before ++ flag :: value :: after) = .ok (some value, before ++ after) := by
  rw [takeValue, findIdx?_first first]
  simp [List.eraseIdx_append_of_length_le]

theorem takeValue_of_last {before : List Text} (first : flag ∉ before) :
    takeValue flag (before ++ [flag]) = .error (.usage (flag ++ " requires a value".toList)) := by
  rw [takeValue, findIdx?_first first]
  simp

/-- A pass finds nothing, or its option with the value behind it. -/
theorem takeValue_eq_ok (taken : takeValue flag args = .ok (found, left)) :
    (flag ∉ args ∧ found = none ∧ left = args) ∨
      ∃ before value after, flag ∉ before ∧ args = before ++ flag :: value :: after ∧
        found = some value ∧ left = before ++ after := by
  by_cases present : flag ∈ args
  · right
    obtain ⟨before, after, rfl, first⟩ := List.eq_append_cons_of_mem present
    cases after with
    | nil =>
        rw [takeValue_of_last first] at taken
        cases taken
    | cons value after =>
        rw [takeValue_of_first first] at taken
        cases taken
        exact ⟨before, value, after, first, rfl, rfl, rfl⟩
  · left
    rw [takeValue_of_absent present] at taken
    cases taken
    exact ⟨present, rfl, rfl⟩

/-- What is behind the words is left alone, if it has not got what is missing among them. -/
theorem takeValue_append (taken : takeValue flag args = .ok (found, left))
    (covers : found = none → flag ∉ more) :
    takeValue flag (args ++ more) = .ok (found, left ++ more) := by
  rcases takeValue_eq_ok taken with
    ⟨absent, rfl, rfl⟩ | ⟨before, value, after, first, rfl, rfl, rfl⟩
  · exact takeValue_of_absent (List.mem_append.not.mpr (not_or.mpr ⟨absent, covers rfl⟩))
  · have found := @takeValue_of_first flag before (after ++ more) value first
    simpa using found

/-- Else it gets shorter. -/
theorem takeValue_split (taken : takeValue flag args = .ok (found, left))
    (taken' : takeValue flag (args ++ more) = .ok (found', left')) :
    ∃ more', left' = left ++ more' ∧ more'.length ≤ more.length ∧
      (more'.length = more.length → found' = found ∧ more' = more ∧
        (found = none → flag ∉ more)) := by
  by_cases covers : found = none → flag ∉ more
  · rw [takeValue_append taken covers] at taken'
    cases taken'
    exact ⟨more, rfl, le_rfl, fun _ => ⟨rfl, rfl, covers⟩⟩
  · simp only [Classical.not_imp, not_not] at covers
    obtain ⟨rfl, inside⟩ := covers
    rcases takeValue_eq_ok taken with ⟨absent, -, rfl⟩ | ⟨_, _, _, _, _, same, _⟩
    · obtain ⟨before, after, rfl, first⟩ := List.eq_append_cons_of_mem inside
      cases after with
      | nil =>
          rw [← List.append_assoc, takeValue_of_last (by simp [absent, first])] at taken'
          cases taken'
      | cons value after =>
          rw [← List.append_assoc, takeValue_of_first (by simp [absent, first])] at taken'
          cases taken'
          refine ⟨before ++ after, by simp, by simp; omega, fun same => ?_⟩
          simp at same
          omega
    · cases same

theorem takeFlag_of_absent (absent : flag ∉ args) : takeFlag flag args = (false, args) := by
  rw [takeFlag, findIdx?_absent absent]

theorem takeFlag_of_first {before after : List Text} (first : flag ∉ before) :
    takeFlag flag (before ++ flag :: after) = (true, before ++ after) := by
  rw [takeFlag, findIdx?_first first]
  simp [List.eraseIdx_append_of_length_le]

theorem takeFlag_append (covers : (takeFlag flag args).1 = false → flag ∉ more) :
    takeFlag flag (args ++ more) = ((takeFlag flag args).1, (takeFlag flag args).2 ++ more) := by
  by_cases present : flag ∈ args
  · obtain ⟨before, after, rfl, first⟩ := List.eq_append_cons_of_mem present
    have found := @takeFlag_of_first flag before (after ++ more) first
    rw [takeFlag_of_first first]
    simpa using found
  · rw [takeFlag_of_absent present] at covers ⊢
    exact takeFlag_of_absent (List.mem_append.not.mpr (not_or.mpr ⟨present, covers rfl⟩))

theorem takeFlag_split :
    ∃ more', (takeFlag flag (args ++ more)).2 = (takeFlag flag args).2 ++ more' ∧
      more'.length ≤ more.length ∧
      (more'.length = more.length → (takeFlag flag (args ++ more)).1 = (takeFlag flag args).1 ∧
        more' = more ∧ ((takeFlag flag args).1 = false → flag ∉ more)) := by
  by_cases covers : (takeFlag flag args).1 = false → flag ∉ more
  · rw [takeFlag_append covers]
    exact ⟨more, rfl, le_rfl, fun _ => ⟨rfl, rfl, covers⟩⟩
  · simp only [Classical.not_imp, not_not] at covers
    obtain ⟨missed, inside⟩ := covers
    have absent : flag ∉ args := by
      intro present
      obtain ⟨before, after, rfl, first⟩ := List.eq_append_cons_of_mem present
      rw [takeFlag_of_first first] at missed
      cases missed
    obtain ⟨before, after, rfl, first⟩ := List.eq_append_cons_of_mem inside
    rw [← List.append_assoc, takeFlag_of_first (by simp [absent, first]), takeFlag_of_absent absent]
    refine ⟨before ++ after, by simp, by simp, fun same => ?_⟩
    simp at same

end Passes

/-! ### All passes -/

section Settings

variable {args more left left' : List Text} {settings settings' : Settings}

theorem takeSettings_eq_ok : takeSettings args = .ok (settings, left) ↔
    ∃ args₁ args₂ args₃, takeValue adbFlag args = .ok (settings.adb, args₁) ∧
      takeValue serialFlag args₁ = .ok (settings.serial, args₂) ∧
      takeValue bitRateFlag args₂ = .ok (settings.bitRate, args₃) ∧
      settings.screenOff = (takeFlag screenOffFlag args₃).1 ∧
      settings.noAudio = (takeFlag noAudioFlag (takeFlag screenOffFlag args₃).2).1 ∧
      left = (takeFlag noAudioFlag (takeFlag screenOffFlag args₃).2).2 := by
  constructor
  · intro taken
    obtain ⟨⟨adb, args₁⟩, first, taken⟩ := Except.bind_eq_ok.mp taken
    obtain ⟨⟨serial, args₂⟩, second, taken⟩ := Except.bind_eq_ok.mp taken
    obtain ⟨⟨bitRate, args₃⟩, third, taken⟩ := Except.bind_eq_ok.mp taken
    cases taken
    exact ⟨args₁, args₂, args₃, first, second, third, rfl, rfl, rfl⟩
  · rintro ⟨args₁, args₂, args₃, first, second, third, screenOff, noAudio, rfl⟩
    obtain ⟨adb, serial, bitRate, _, _⟩ := settings
    obtain rfl := screenOff
    obtain rfl := noAudio
    refine Except.bind_eq_ok.mpr ⟨_, first, Except.bind_eq_ok.mpr ⟨_, second, ?_⟩⟩
    exact Except.bind_eq_ok.mpr ⟨_, third, rfl⟩

theorem takeSettings_append (taken : takeSettings args = .ok (settings, left))
    (covers : settings.Covers more) : takeSettings (args ++ more) = .ok (settings, left ++ more) := by
  obtain ⟨args₁, args₂, args₃, first, second, third, screenOff, noAudio, rfl⟩ :=
    takeSettings_eq_ok.mp taken
  have fourth := @takeFlag_append screenOffFlag args₃ more (screenOff ▸ covers.screenOff)
  have fifth := @takeFlag_append noAudioFlag (takeFlag screenOffFlag args₃).2 more
    (noAudio ▸ covers.noAudio)
  refine takeSettings_eq_ok.mpr ⟨args₁ ++ more, args₂ ++ more, args₃ ++ more,
    takeValue_append first covers.adb, takeValue_append second covers.serial,
    takeValue_append third covers.bitRate, ?_⟩
  rw [fourth, fifth]
  exact ⟨screenOff, noAudio, rfl⟩

/-- If as much is left behind the words as there was, no option was found there. -/
theorem takeSettings_split (taken : takeSettings args = .ok (settings, left))
    (taken' : takeSettings (args ++ more) = .ok (settings', left'))
    (whole : left' = left ++ more) : settings' = settings ∧ settings.Covers more := by
  obtain ⟨args₁, args₂, args₃, first, second, third, screenOff, noAudio, rfl⟩ :=
    takeSettings_eq_ok.mp taken
  obtain ⟨args₁', args₂', args₃', first', second', third', screenOff', noAudio', rfl⟩ :=
    takeSettings_eq_ok.mp taken'
  obtain ⟨more₁, rfl, shorter₁, same₁⟩ := takeValue_split first first'
  obtain ⟨more₂, rfl, shorter₂, same₂⟩ := takeValue_split second second'
  obtain ⟨more₃, rfl, shorter₃, same₃⟩ := takeValue_split third third'
  obtain ⟨more₄, shape₄, shorter₄, same₄⟩ :=
    @takeFlag_split screenOffFlag args₃ more₃
  rw [shape₄] at whole noAudio'
  obtain ⟨more₅, shape₅, shorter₅, same₅⟩ :=
    @takeFlag_split noAudioFlag (takeFlag screenOffFlag args₃).2 more₄
  have last : more₅ = more := List.append_cancel_left (shape₅.symm.trans whole)
  subst last
  -- no pass took anything from behind, since nothing is missing there in the end
  obtain ⟨adb, rfl, covers₁⟩ := same₁ (by omega)
  obtain ⟨serial, rfl, covers₂⟩ := same₂ (by omega)
  obtain ⟨bitRate, rfl, covers₃⟩ := same₃ (by omega)
  obtain ⟨flag₄, rfl, covers₄⟩ := same₄ (by omega)
  obtain ⟨flag₅, -, covers₅⟩ := same₅ rfl
  refine ⟨?_, covers₁, covers₂, covers₃, screenOff ▸ covers₄, noAudio ▸ covers₅⟩
  obtain ⟨_, _, _, _, _⟩ := settings
  obtain ⟨_, _, _, _, _⟩ := settings'
  simp_all

end Settings

/-! ### What is behind the separator -/

variable {args : List Text}

theorem through_append_after (args : List Text) :
    throughSeparator args ++ afterSeparator args = args := by
  by_cases present : Getopt.separator ∈ args
  · rw [throughSeparator_of_present present, List.append_assoc]
    exact (separator_split present).symm
  · have nothing : afterSeparator args = [] := by
      have all : args.dropWhile (· ≠ Getopt.separator) = [] := by
        refine List.dropWhile_eq_nil_iff.mpr fun w inside => ?_
        simpa using fun same : w = Getopt.separator => present (same ▸ inside)
      rw [afterSeparator, all]
      rfl
    rw [throughSeparator_of_absent present, nothing, List.append_nil]

theorem beforeSeparator_append_of_mem {left : List Text} (present : Getopt.separator ∈ left)
    (more : List Text) : beforeSeparator (left ++ more) = beforeSeparator left := by
  obtain ⟨before, after, rfl, first⟩ := List.eq_append_cons_of_mem present
  have words : ∀ w ∈ before, decide (w ≠ Getopt.separator) = true := fun w inside =>
    decide_eq_true fun same : w = Getopt.separator => first (same ▸ inside)
  simp only [beforeSeparator, List.append_assoc, List.takeWhile_append_of_pos words,
    List.cons_append, List.takeWhile_cons, ne_eq, not_true_eq_false, decide_false,
    Bool.false_eq_true, if_false]

theorem beforeSeparator_append_of_absent {left : List Text} (absent : Getopt.separator ∉ left)
    (more : List Text) : beforeSeparator (left ++ more) = left ++ beforeSeparator more :=
  List.takeWhile_append_of_pos fun w inside =>
    decide_eq_true fun same : w = Getopt.separator => absent (same ▸ inside)

theorem denied_of_filteredArgs {left : List Text} {error : Error}
    (filtered : filteredArgs left = .error error) : ¬ ∀ w ∈ beforeSeparator left, Permitted w := by
  intro permitted
  rw [filteredArgs_ok.mpr ⟨rfl, permitted⟩] at filtered
  cases filtered

theorem wrap_eq_launch {configuration : Configuration} :
    wrap args = .launch configuration ↔
      ∃ settings left, takeSettings args = .ok (settings, left) ∧
        (∀ w ∈ beforeSeparator left, Permitted w) ∧ configuration = settings.configure left := by
  unfold wrap
  cases taken : takeSettings args with
  | error refusal => simp
  | ok found =>
      obtain ⟨settings, left⟩ := found
      cases filtered : filteredArgs left with
      | error error =>
          have denied := denied_of_filteredArgs filtered
          simp [filtered, denied]
      | ok out =>
          have permitted := (filteredArgs_ok.mp filtered).2
          simpa [filtered, eq_comm] using fun _ => permitted

theorem wrap_eq_refuse : (∃ refusal, wrap args = .refuse refusal) ↔ Refuses args := by
  unfold wrap Refuses
  cases taken : takeSettings args with
  | error refusal => simp
  | ok found =>
      obtain ⟨settings, left⟩ := found
      cases filtered : filteredArgs left with
      | error error =>
          have denied := denied_of_filteredArgs filtered
          simpa [filtered] using denied
      | ok out =>
          have permitted := (filteredArgs_ok.mp filtered).2
          simpa [filtered] using permitted

theorem subcommand_throughSeparator (scrcpy : subcommand args = none) :
    subcommand (throughSeparator args) = none := by
  cases args with
  | nil => rfl
  | cons first rest =>
      rw [throughSeparator, List.take_succ_cons]
      simp only [subcommand] at scrcpy ⊢
      split at scrcpy
      · cases scrcpy
      · rename_i noQr
        split at scrcpy
        · cases scrcpy
        · rename_i noCode
          split at scrcpy
          · cases scrcpy
          · rename_i noConnect
            rw [if_neg noQr, if_neg noCode, if_neg noConnect]

theorem asksHelp_append (front more : List Text) :
    AsksHelp (front ++ more) ↔ AsksHelp front ∨ AsksHelp more := by
  simp only [AsksHelp, List.mem_append]
  exact or_or_or_comm

/-- The words behind are checked only if no `--` is left before them. -/
theorem permitted_append {left more : List Text}
    (permitted : ∀ w ∈ beforeSeparator left, Permitted w) :
    (∀ w ∈ beforeSeparator (left ++ more), Permitted w) ↔
      Getopt.separator ∈ left ∨ ∀ w ∈ beforeSeparator more, Permitted w := by
  by_cases present : Getopt.separator ∈ left
  · rw [beforeSeparator_append_of_mem present]
    exact iff_of_true permitted (.inl present)
  · rw [beforeSeparator_of_absent present] at permitted
    rw [beforeSeparator_append_of_absent present, List.forall_mem_append]
    exact ⟨fun both => .inr both.2, fun parted => ⟨permitted, parted.resolve_left present⟩⟩

theorem beforeSeparator_subset_append (left more : List Text) :
    beforeSeparator left ⊆ beforeSeparator (left ++ more) := by
  by_cases present : Getopt.separator ∈ left
  · rw [beforeSeparator_append_of_mem present]
    exact List.Subset.refl _
  · rw [beforeSeparator_append_of_absent present, beforeSeparator_of_absent present]
    exact List.subset_append_left _ _

theorem wrap_cases (args : List Text) :
    (∃ configuration, wrap args = .launch configuration) ∨ ∃ refusal, wrap args = .refuse refusal := by
  unfold wrap
  split
  · exact .inr ⟨_, rfl⟩
  · split
    · exact .inr ⟨_, rfl⟩
    · exact .inl ⟨_, rfl⟩

/-- A vector that is launched without the words behind the `--`. -/
theorem launched_iff {configuration : Configuration}
    (launched : wrap (throughSeparator args) = .launch configuration) :
    wrap args = .launch { configuration with
        passthrough := configuration.passthrough ++ afterSeparator args } ↔
      Refuses (throughSeparator args) ∧ Refuses args ∨
        ∃ settings left, takeSettings (throughSeparator args) = .ok (settings, left) ∧
          settings.Covers (afterSeparator args) ∧
          (Getopt.separator ∈ left ∨ ∀ w ∈ beforeSeparator (afterSeparator args), Permitted w) := by
  obtain ⟨settings, left, taken, permitted, rfl⟩ := wrap_eq_launch.mp launched
  constructor
  · intro verbatim
    obtain ⟨settings', left', taken', permitted', same⟩ := wrap_eq_launch.mp verbatim
    obtain rfl : left ++ afterSeparator args = left' := congrArg Configuration.passthrough same
    have appended := (congrArg takeSettings (through_append_after args)).trans taken'
    obtain ⟨rfl, covers⟩ := takeSettings_split taken appended rfl
    exact .inr ⟨settings', left, taken, covers, (permitted_append permitted).mp permitted'⟩
  · rintro (⟨refuses, -⟩ | ⟨settings', left', taken', covers, parted⟩)
    · obtain ⟨w, inside, denied⟩ := refuses settings left taken
      exact absurd (permitted w inside) denied
    · cases taken.symm.trans taken'
      have all := takeSettings_append taken covers
      rw [through_append_after] at all
      exact wrap_eq_launch.mpr ⟨settings, _, all, (permitted_append permitted).mpr parted, rfl⟩

/-- A vector that is refused without them. -/
theorem refused_iff (refuses : Refuses (throughSeparator args)) :
    Refuses args ↔
      Refuses (throughSeparator args) ∧ Refuses args ∨
        ∃ settings left, takeSettings (throughSeparator args) = .ok (settings, left) ∧
          settings.Covers (afterSeparator args) ∧
          (Getopt.separator ∈ left ∨ ∀ w ∈ beforeSeparator (afterSeparator args), Permitted w) := by
  constructor
  · exact fun still => .inl ⟨refuses, still⟩
  · rintro (⟨-, still⟩ | ⟨settings, left, taken, covers, -⟩)
    · exact still
    · intro settings' left' taken'
      have all := takeSettings_append taken covers
      rw [through_append_after, taken'] at all
      cases all
      obtain ⟨w, inside, denied⟩ := refuses settings left taken
      exact ⟨w, beforeSeparator_subset_append _ _ inside, denied⟩

/-- What is launched is handed to scrcpy between the wrapper's own words. -/
theorem buildArgs_of_launch {configuration : Configuration}
    (launched : wrap args = .launch configuration) (serial : Text) :
    buildArgs (configuration.options serial) = .ok (leadingArgs (configuration.options serial) ++
      configuration.passthrough ++ trailingArgs (configuration.options serial)) := by
  obtain ⟨settings, left, -, permitted, rfl⟩ := wrap_eq_launch.mp launched
  exact buildArgs_ok.mpr ⟨filteredArgs_ok.mpr ⟨rfl, permitted⟩, rfl⟩

/-- The words behind the first `--` are handed on as they are exactly when they are left
    alone, or nothing is launched either way. -/
theorem verbatim_iff (scrcpy : subcommand args = none) : Verbatim args ↔ Ignored args := by
  have whole : command args = if AsksHelp args then .help else wrap args := by
    rw [command, scrcpy]
  have front : command (throughSeparator args) =
      if AsksHelp (throughSeparator args) then .help else wrap (throughSeparator args) := by
    rw [command, subcommand_throughSeparator scrcpy]
  have asks : AsksHelp args ↔ AsksHelp (throughSeparator args) ∨ AsksHelp (afterSeparator args) := by
    rw [← asksHelp_append, through_append_after]
  by_cases before : AsksHelp (throughSeparator args)
  · have verbatim : Verbatim args := by
      rw [Verbatim, front, if_pos before, whole, if_pos (asks.mpr (.inl before))]
    exact iff_of_true verbatim (.inl before)
  · rw [if_neg before] at front
    by_cases behind : AsksHelp (afterSeparator args)
    · rw [if_pos (asks.mpr (.inr behind))] at whole
      refine iff_of_false ?_ fun ignored => ?_
      · rw [Verbatim, front, whole]
        rcases wrap_cases (throughSeparator args) with ⟨configuration, launched⟩ | ⟨refusal, refused⟩
        · rw [launched]
          nofun
        · rw [refused]
          nofun
      · exact ignored.elim before fun ignored => ignored.1 behind
    · rw [if_neg (asks.not.mpr (not_or.mpr ⟨before, behind⟩))] at whole
      have ignored : Ignored args ↔ Refuses (throughSeparator args) ∧ Refuses args ∨
          ∃ settings left, takeSettings (throughSeparator args) = .ok (settings, left) ∧
            settings.Covers (afterSeparator args) ∧ (Getopt.separator ∈ left ∨
              ∀ w ∈ beforeSeparator (afterSeparator args), Permitted w) := by
        rw [Ignored, or_iff_right before, and_iff_right behind]
      rw [ignored]
      rcases wrap_cases (throughSeparator args) with ⟨configuration, launched⟩ | ⟨refusal, refused⟩
      · rw [launched] at front
        have verbatim : Verbatim args ↔ wrap args = .launch { configuration with
            passthrough := configuration.passthrough ++ afterSeparator args } := by
          rw [Verbatim, front, whole]
        rw [verbatim]
        exact launched_iff launched
      · have verbatim : Verbatim args ↔ Refuses args := by
          rw [refused] at front
          rw [Verbatim, front, whole, ← wrap_eq_refuse]
        rw [verbatim]
        exact refused_iff (wrap_eq_refuse.mp ⟨refusal, refused⟩)

/-- What is launched is handed to scrcpy between the wrapper's own words; the words behind the
    first `--` are in it as they are, and mean nothing else, exactly when they are left alone. -/
theorem passthrough_verbatim_iff (scrcpy : subcommand args = none) :
    (∀ configuration serial, command args = .launch configuration →
      buildArgs (configuration.options serial) = .ok
        (leadingArgs (configuration.options serial) ++ configuration.passthrough ++
          trailingArgs (configuration.options serial))) ∧
    (Verbatim args ↔ Ignored args) := by
  refine ⟨fun configuration serial launched => ?_, verbatim_iff scrcpy⟩
  rw [command, scrcpy] at launched
  dsimp only at launched
  split at launched
  · cases launched
  · exact buildArgs_of_launch launched serial

/-- An option of the wrapper's, and scrcpy's own behind the `--`. -/
def separated : List Text :=
  ["--serial".toList, "X".toList, "--".toList, "--tcpip".toList, "-s".toList]

theorem passthrough_verbatim_separated :
    (∀ configuration serial, command separated = .launch configuration →
      buildArgs (configuration.options serial) = .ok
        (leadingArgs (configuration.options serial) ++ configuration.passthrough ++
          trailingArgs (configuration.options serial))) ∧
    command separated =
      .launch ⟨none, some ['X'], defaultBitRate, false, true, separated.drop 2⟩ ∧
    Ignored separated := by
  have launched : command separated =
      .launch ⟨none, some ['X'], defaultBitRate, false, true, separated.drop 2⟩ := by
    decide
  obtain ⟨built, ignored⟩ := @passthrough_verbatim_iff separated (by decide)
  refine ⟨built, launched, ignored.mp ?_⟩
  have front : command (throughSeparator separated) =
      .launch ⟨none, some ['X'], defaultBitRate, false, true, ["--".toList]⟩ := by
    decide
  rw [Verbatim, front]
  exact launched

/-- An option behind the `--` is taken for the wrapper's own. -/
def misread : List Text := ["--".toList, "--serial".toList, "X".toList]

theorem passthrough_misread :
    command misread =
      .launch ⟨none, some ['X'], defaultBitRate, false, true, ["--".toList]⟩ ∧
    ¬ Verbatim misread := by
  have launched : command misread =
      .launch ⟨none, some ['X'], defaultBitRate, false, true, ["--".toList]⟩ := by
    decide
  refine ⟨launched, fun verbatim => ?_⟩
  have front : command (throughSeparator misread) =
      .launch ⟨none, none, defaultBitRate, false, true, ["--".toList]⟩ := by
    decide
  rw [Verbatim, front, launched] at verbatim
  cases verbatim

end QuadControl.Android
