import QuadControl.Android.Passthrough

/-! # The argument vector of a scrcpy launch

`build_args` splices the wrapper's own options around the filtered passthrough
words: serial, title and bit rate before them, the two flags after them. The
words before are safe from what the user passes; the flags after are only read
as options when the passthrough words leave the reader ready for one.
-/

namespace QuadControl.Android

open Lib

/-- The fields of `LaunchOptions` that decide the argument vector. -/
structure LaunchOptions where
  serial : Text
  bitRate : Text
  screenOff : Bool
  audioOnComputer : Bool
  passthrough : List Text

def serialName : Text := "serial".toList
def titleName : Text := "window-title".toList
def bitRateName : Text := "video-bit-rate".toList
def screenOffName : Text := "turn-screen-off".toList
def noAudioName : Text := "no-audio".toList

def windowTitle : Text := "QuadControl".toList

/-- The word `--name`. -/
def longWord (name : Text) : Text := "--".toList ++ name

/-- The words that `build_args` puts before the passthrough. -/
def leadingArgs (options : LaunchOptions) : List Text :=
  [longWord serialName, options.serial, longWord (titleName ++ '=' :: windowTitle),
    longWord bitRateName, options.bitRate]

/-- The flags that `build_args` puts after the passthrough. -/
def trailingArgs (options : LaunchOptions) : List Text :=
  (if options.screenOff then [longWord screenOffName] else []) ++
    (if options.audioOnComputer then [] else [longWord noAudioName])

def buildArgs (options : LaunchOptions) : Except Error (List Text) := do
  let args ← filteredArgs options.passthrough
  return leadingArgs options ++ args ++ trailingArgs options

theorem buildArgs_ok {options : LaunchOptions} {args : List Text} :
    buildArgs options = .ok args ↔
      filteredArgs options.passthrough = .ok options.passthrough ∧
        args = leadingArgs options ++ options.passthrough ++ trailingArgs options := by
  simp only [buildArgs, bind, Except.bind, pure, Except.pure]
  cases filtered : filteredArgs options.passthrough with
  | error e => simp
  | ok kept =>
      obtain ⟨rfl, -⟩ := filteredArgs_ok.mp filtered
      simp [eq_comm]

/-! ### What the vector puts in effect -/

/-- The declarations of the wrapper's own options that the launch relies on. -/
structure DeclaresWrapper (table : Getopt.Table) : Prop where
  serial : Getopt.resolve table serialName = some (serialName, .required)
  title : Getopt.resolve table titleName = some (titleName, .required)
  bitRate : Getopt.resolve table bitRateName = some (bitRateName, .required)
  screenOff : Getopt.resolve table screenOffName = some (screenOffName, .no)
  noAudio : Getopt.resolve table noAudioName = some (noAudioName, .no)

def serialNames : List Getopt.Name := [.long serialName, .short 's']

def titleNames : List Getopt.Name := [.long titleName]

def bitRateNames : List Getopt.Name := [.long bitRateName, .short 'b']

/-- Whatever sets one of the wrapper's values in these options sets it as configured. -/
def ValuesConfigured (options : LaunchOptions) (reads : List Getopt.Read) : Prop :=
  ∀ r ∈ reads,
    (r.option ∈ serialNames → r.value = some options.serial) ∧
    (r.option ∈ titleNames → r.value = some windowTitle) ∧
    (r.option ∈ bitRateNames → r.value = some options.bitRate)

/-- Every word the wrapper wrote is read as the option it is meant to be, and the
    three values in effect are exactly the configured ones. The flags are the
    last words of the vector, `--no-audio` after `--turn-screen-off`. -/
structure WrapperInEffect (table : Getopt.Table) (options : LaunchOptions)
    (args : List Text) : Prop where
  serial : ⟨0, .long serialName, some options.serial⟩ ∈ Getopt.read table args
  title : ⟨2, .long titleName, some windowTitle⟩ ∈ Getopt.read table args
  bitRate : ⟨3, .long bitRateName, some options.bitRate⟩ ∈ Getopt.read table args
  screenOff : options.screenOff = true →
    ⟨args.length - (trailingArgs options).length, .long screenOffName, none⟩
      ∈ Getopt.read table args
  noAudio : options.audioOnComputer = false →
    ⟨args.length - 1, .long noAudioName, none⟩ ∈ Getopt.read table args
  values : ValuesConfigured options (Getopt.read table args)

/-- The passthrough words leave the reader ready for another option: no `--`
    among them ends the options, and the last of them awaits no argument. -/
def LeavesReady (table : Getopt.Table) (passthrough : List Text) : Prop :=
  (Getopt.readFrom table .ready 0 passthrough).1 = .ready

/-- The launch needs no trailing flag, or the passthrough leaves the reader ready;
    and the passthrough sets none of the three values to another one. -/
def PassthroughHarmless (table : Getopt.Table) (options : LaunchOptions) : Prop :=
  (trailingArgs options = [] ∨ LeavesReady table options.passthrough) ∧
    ValuesConfigured options (Getopt.read table options.passthrough)

/-- The words before the passthrough are read as the wrapper's three values, and
    leave the reader ready. -/
theorem readFrom_leadingArgs {table : Getopt.Table} (declares : DeclaresWrapper table)
    (options : LaunchOptions) :
    Getopt.readFrom table .ready 0 (leadingArgs options) =
      (.ready,
        [⟨0, .long serialName, some options.serial⟩,
          ⟨2, .long titleName, some windowTitle⟩,
          ⟨3, .long bitRateName, some options.bitRate⟩]) := by
  have serial : Getopt.readWord table .ready 0 (longWord serialName) =
      (.awaiting 0 (.long serialName), []) :=
    Getopt.readLong_awaits serialName 0 rfl declares.serial
  have title : Getopt.readWord table .ready 2 (longWord (titleName ++ '=' :: windowTitle)) =
      (.ready, [⟨2, .long titleName, some windowTitle⟩]) :=
    Getopt.readLong_value (titleName ++ '=' :: windowTitle) 2 rfl declares.title
  have bitRate : Getopt.readWord table .ready 3 (longWord bitRateName) =
      (.awaiting 3 (.long bitRateName), []) :=
    Getopt.readLong_awaits bitRateName 3 rfl declares.bitRate
  simp only [leadingArgs, Getopt.readFrom, Nat.zero_add, Nat.reduceAdd, serial, title, bitRate,
    Getopt.readWord_awaiting, List.nil_append, List.cons_append, List.append_nil]

def trailingReads (options : LaunchOptions) (index : Nat) : List Getopt.Read :=
  (if options.screenOff then [⟨index, .long screenOffName, none⟩] else []) ++
    (if options.audioOnComputer then [] else
      [⟨index + (trailingArgs options).length - 1, .long noAudioName, none⟩])

/-- A reader that is ready reads the trailing flags as they are meant. -/
theorem readFrom_trailingArgs {table : Getopt.Table} (declares : DeclaresWrapper table)
    (options : LaunchOptions) (index : Nat) :
    Getopt.readFrom table .ready index (trailingArgs options) =
      (.ready, trailingReads options index) := by
  have screenOff (i : Nat) : Getopt.readWord table .ready i (longWord screenOffName) =
      (.ready, [⟨i, .long screenOffName, none⟩]) :=
    Getopt.readLong_flag screenOffName i rfl declares.screenOff
  have noAudio (i : Nat) : Getopt.readWord table .ready i (longWord noAudioName) =
      (.ready, [⟨i, .long noAudioName, none⟩]) :=
    Getopt.readLong_flag noAudioName i rfl declares.noAudio
  cases off : options.screenOff <;> cases audio : options.audioOnComputer <;>
    simp [trailingArgs, trailingReads, off, audio, Getopt.readFrom, screenOff, noAudio]

/-- The whole vector: the wrapper's values, what the passthrough sets, and what
    the reader makes of the trailing flags from where the passthrough left it. -/
theorem read_vector {table : Getopt.Table} (declares : DeclaresWrapper table)
    (options : LaunchOptions) :
    Getopt.read table (leadingArgs options ++ options.passthrough ++ trailingArgs options) =
      (Getopt.readFrom table .ready 0 (leadingArgs options)).2 ++
        (Getopt.read table options.passthrough).map (Getopt.Read.shift 5) ++
        (Getopt.readFrom table
          ((Getopt.readFrom table .ready 0 options.passthrough).1.shift 5)
          (5 + options.passthrough.length) (trailingArgs options)).2 := by
  have five : (leadingArgs options).length = 5 := rfl
  simp only [Getopt.read, Getopt.readFrom_append, readFrom_leadingArgs declares, five,
    Nat.zero_add, Getopt.readFrom_ready_index table 5 options.passthrough, List.length_append]

theorem valuesConfigured_append {options : LaunchOptions} {xs ys : List Getopt.Read} :
    ValuesConfigured options (xs ++ ys) ↔
      ValuesConfigured options xs ∧ ValuesConfigured options ys :=
  List.forall_mem_append

theorem valuesConfigured_shift {options : LaunchOptions} {k : Nat} {xs : List Getopt.Read} :
    ValuesConfigured options (xs.map (Getopt.Read.shift k)) ↔ ValuesConfigured options xs := by
  simp [ValuesConfigured]

theorem valuesConfigured_leading (options : LaunchOptions) :
    ValuesConfigured options
      [⟨0, .long serialName, some options.serial⟩, ⟨2, .long titleName, some windowTitle⟩,
        ⟨3, .long bitRateName, some options.bitRate⟩] := by
  intro r member
  simp only [List.mem_cons, List.not_mem_nil, or_false] at member
  rcases member with rfl | rfl | rfl
  · have title : Getopt.Name.long serialName ∉ titleNames := by decide
    have bitRate : Getopt.Name.long serialName ∉ bitRateNames := by decide
    exact ⟨fun _ => rfl, fun h => absurd h title, fun h => absurd h bitRate⟩
  · have serial : Getopt.Name.long titleName ∉ serialNames := by decide
    have bitRate : Getopt.Name.long titleName ∉ bitRateNames := by decide
    exact ⟨fun h => absurd h serial, fun _ => rfl, fun h => absurd h bitRate⟩
  · have serial : Getopt.Name.long bitRateName ∉ serialNames := by decide
    have title : Getopt.Name.long bitRateName ∉ titleNames := by decide
    exact ⟨fun h => absurd h serial, fun h => absurd h title, fun _ => rfl⟩

theorem valuesConfigured_trailing (options : LaunchOptions) (index : Nat) :
    ValuesConfigured options (trailingReads options index) := by
  intro r member
  have flag : r.option = .long screenOffName ∨ r.option = .long noAudioName := by
    rcases List.mem_append.mp member with off | audio
    · exact .inl (by split at off <;> simp_all)
    · exact .inr (by split at audio <;> simp_all)
  rcases flag with same | same <;> rw [same] <;>
    exact ⟨fun h => absurd h (by decide), fun h => absurd h (by decide),
      fun h => absurd h (by decide)⟩

/-- The flag right after the passthrough is read as an option only when the
    passthrough leaves the reader ready. -/
theorem leavesReady_of_read_at {table : Getopt.Table} (declares : DeclaresWrapper table)
    {options : LaunchOptions} {r : Getopt.Read}
    (member : r ∈ Getopt.read table
      (leadingArgs options ++ options.passthrough ++ trailingArgs options))
    (at_word : r.word = 5 + options.passthrough.length) :
    LeavesReady table options.passthrough := by
  have five : (leadingArgs options).length = 5 := rfl
  have ready := Getopt.ready_of_read_at member (by simp [five, at_word])
  simp only [Getopt.readFrom_append, readFrom_leadingArgs declares, five, Nat.zero_add,
    Getopt.readFrom_ready_index table 5 options.passthrough] at ready
  simp only [LeavesReady]
  cases reached : (Getopt.readFrom table .ready 0 options.passthrough).1 with
  | ready => rfl
  | ended | awaiting => simp [reached, Getopt.State.shift] at ready

/-- The wrapper's options are all in effect, with the configured values, exactly
    when the passthrough is harmless. -/
theorem buildArgs_inEffect_iff {table : Getopt.Table} (declares : DeclaresWrapper table)
    {options : LaunchOptions} {args : List Text} (built : buildArgs options = .ok args) :
    WrapperInEffect table options args ↔ PassthroughHarmless table options := by
  obtain ⟨-, rfl⟩ := buildArgs_ok.mp built
  have five : (leadingArgs options).length = 5 := rfl
  constructor
  · intro effect
    refine ⟨?_, ?_⟩
    · by_cases none : trailingArgs options = []
      · exact .inl none
      · refine .inr ?_
        cases off : options.screenOff with
        | true =>
            apply leavesReady_of_read_at declares (effect.screenOff off)
            simp only [List.length_append, five]
            omega
        | false =>
            have audio : options.audioOnComputer = false := by
              simpa [trailingArgs, off] using none
            apply leavesReady_of_read_at declares (effect.noAudio audio)
            have one : (trailingArgs options).length = 1 := by simp [trailingArgs, off, audio]
            simp only [List.length_append, five, one]
            omega
    · have values := effect.values
      rw [read_vector declares, valuesConfigured_append, valuesConfigured_append,
        valuesConfigured_shift] at values
      exact values.1.2
  · rintro ⟨ready, values⟩
    have trailing : (Getopt.readFrom table
        ((Getopt.readFrom table .ready 0 options.passthrough).1.shift 5)
        (5 + options.passthrough.length) (trailingArgs options)).2 =
          trailingReads options (5 + options.passthrough.length) := by
      rcases ready with none | ready
      · have off : options.screenOff = false := by
          cases h : options.screenOff <;> simp_all [trailingArgs]
        have audio : options.audioOnComputer = true := by
          cases h : options.audioOnComputer <;> simp_all [trailingArgs]
        simp [none, Getopt.readFrom, trailingReads, off, audio]
      · rw [LeavesReady] at ready
        rw [ready]
        exact congrArg Prod.snd (readFrom_trailingArgs declares options _)
    have reads := read_vector declares options
    rw [trailing, readFrom_leadingArgs declares] at reads
    constructor
    · rw [reads]
      exact List.mem_append_left _ (List.mem_append_left _ (by simp))
    · rw [reads]
      exact List.mem_append_left _ (List.mem_append_left _ (by simp))
    · rw [reads]
      exact List.mem_append_left _ (List.mem_append_left _ (by simp))
    · intro off
      rw [reads]
      apply List.mem_append_right
      have at_word : (leadingArgs options ++ options.passthrough ++ trailingArgs options).length -
          (trailingArgs options).length = 5 + options.passthrough.length := by
        simp only [List.length_append, five]
        omega
      rw [at_word]
      simp [trailingReads, off]
    · intro audio
      rw [reads]
      apply List.mem_append_right
      have at_word : (leadingArgs options ++ options.passthrough ++ trailingArgs options).length -
          1 = 5 + options.passthrough.length + (trailingArgs options).length - 1 := by
        simp only [List.length_append, five]
      rw [at_word]
      simp [trailingReads, audio]
    · rw [reads, valuesConfigured_append, valuesConfigured_append, valuesConfigured_shift]
      exact ⟨⟨valuesConfigured_leading options, values⟩, valuesConfigured_trailing options _⟩

theorem scrcpyOptions_declaresWrapper : DeclaresWrapper scrcpyOptions :=
  ⟨rfl, rfl, rfl, rfl, rfl⟩

/-- A launch with the screen off, the sound on the phone and these passthrough words. -/
def launchWith (passthrough : List Text) : LaunchOptions :=
  { serial := "REDACTEDSERIAL".toList, bitRate := "8M".toList, screenOff := true,
    audioOnComputer := false, passthrough }

theorem buildArgs_inEffect_iff_max_size :
    WrapperInEffect scrcpyOptions (launchWith ["--max-size".toList, "1024".toList])
        (leadingArgs (launchWith []) ++ ["--max-size".toList, "1024".toList] ++
          trailingArgs (launchWith [])) ↔
      PassthroughHarmless scrcpyOptions (launchWith ["--max-size".toList, "1024".toList]) :=
  buildArgs_inEffect_iff scrcpyOptions_declaresWrapper rfl

/-- A passthrough `--` leaves both flags behind it. -/
theorem buildArgs_leaves_flags_behind :
    ¬ ∀ args, buildArgs (launchWith ["--".toList]) = .ok args →
      WrapperInEffect scrcpyOptions (launchWith ["--".toList]) args := by
  intro effect
  have screenOff := (effect _ rfl).screenOff rfl
  exact absurd screenOff (by decide)

end QuadControl.Android
