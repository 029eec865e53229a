import QuadControl.Android.PairQr

/-! # The device that is paired

The round leaves a GUID, and every later choice of the command is made by it: a serial or
an instance belongs to a GUID that is all of it, or all of it before its first dot. GUIDs
have no dots, so that no name belongs to two of them.
-/

namespace QuadControl.Android.Wireless

open Lib

/-- What the output of `adb pair` may name. -/
def IsGuid (guid : Text) : Prop := ∃ output, findGuid output = some guid

theorem IsGuid.shape {guid : Text} (is : IsGuid guid) :
    ∃ rest, guid = "adb-".toList ++ rest ∧ rest.all (fun c => c.isAlphanum || c = '-') = true := by
  obtain ⟨output, found⟩ := is
  obtain ⟨word, -, named⟩ := List.exists_of_findSome?_eq_some found
  simp only [Option.bind_eq_bind, Option.bind_eq_some_iff] at named
  obtain ⟨bracketed, -, token, -, rest, prefixed, named⟩ := named
  split at named
  · rename_i plain
    cases named
    exact ⟨rest, Text.stripPrefix_eq_some.mp prefixed, plain.2⟩
  · cases named

theorem IsGuid.dotless {guid : Text} (is : IsGuid guid) : '.' ∉ guid := by
  obtain ⟨rest, rfl, plain⟩ := is.shape
  intro inside
  rcases List.mem_append.mp inside with first | later
  · exact absurd first (by decide)
  · exact absurd (List.all_eq_true.mp plain _ later) (by decide)

theorem serialMatchesGuid_iff {serial guid : Text} :
    serialMatchesGuid serial guid = true ↔
      serial = guid ∨ ∃ rest, serial = guid ++ '.' :: rest := by
  simp only [serialMatchesGuid, Bool.or_eq_true, decide_eq_true_eq]
  refine or_congr Iff.rfl ⟨fun dotted => ?_, ?_⟩
  · split at dotted
    · rename_i rest stripped
      exact ⟨rest, Text.stripPrefix_eq_some.mp stripped⟩
    · cases dotted
  · rintro ⟨rest, rfl⟩
    simp

/-- The GUID is what the name has before its first dot. -/
theorem guid_of_matches {serial guid : Text} (dotless : '.' ∉ guid)
    (belongs : serialMatchesGuid serial guid = true) : guid = serial.takeWhile (· ≠ '.') := by
  have whole : guid.takeWhile (· ≠ '.') = guid :=
    List.takeWhile_eq_self_iff.mpr fun c inside => by
      simpa using fun dot : c = '.' => dotless (dot ▸ inside)
  rcases serialMatchesGuid_iff.mp belongs with rfl | ⟨rest, rfl⟩
  · exact whole.symm
  · have all := List.takeWhile_eq_self_iff.mp whole
    rw [List.takeWhile_append_of_pos all]
    simp

theorem guid_unique {serial guid other : Text} (is : IsGuid guid) (isOther : IsGuid other)
    (belongs : serialMatchesGuid serial guid = true)
    (belongsOther : serialMatchesGuid serial other = true) : guid = other :=
  (guid_of_matches is.dotless belongs).trans (guid_of_matches isOther.dotless belongsOther).symm

/-! ### The round -/

/-- A round that returns a GUID says so in its event, and read it off its process. -/
def Loop.Named (loop : Loop) : Prop :=
  ∀ event guid, loop.phase = .returned event (.ok guid) →
    event = .pairSucceeded guid ∧ IsGuid guid

theorem judge_succeeded {password guid : Text} {process : Process} {report : ChildReport}
    (judged : judge password (process.poll report) = .succeeded guid) : IsGuid guid := by
  unfold judge at judged
  split at judged
  · cases judged
  · rename_i output _
    split at judged
    · split at judged
      · cases judged
        exact ⟨output.stdout, ‹_›⟩
      · cases judged
    · cases judged
  · cases judged

namespace Loop

variable {loop next : Loop} {input : Input}

theorem named_giveUp (loop : Loop) (first : WirelessError) : (loop.giveUp first).Named := by
  intro event guid returned
  cases (Phase.returned.inj returned).2

theorem named_pollFrom (loop : Loop) (index : Nat) : (loop.pollFrom index).Named := by
  unfold pollFrom finishPolling
  split
  · nofun
  · split
    · split
      · exact named_giveUp _ _
      · nofun
    · nofun

theorem named_spawnNext (loop : Loop) (services : List MdnsService) :
    (loop.spawnNext services).Named := by
  induction services with
  | nil => exact named_pollFrom loop 0
  | cons service rest ih =>
      unfold spawnNext
      split
      · exact ih
      · rintro event named ⟨⟩

theorem Named.step (step : Step loop input next) : next.Named := by
  cases step with
  | cancel | expire => nofun
  | turn input phase plain => rcases plain with rfl | rfl <;> nofun
  | queryPostponed | lose | spawnPostponed | wait | remove => exact named_pollFrom _ _
  | queryFailed | spawnFailed => exact named_giveUp _ _
  | find | spawn => exact named_spawnNext _ _
  | succeed index process report guid here judged =>
      intro event named returned
      obtain ⟨rfl, same⟩ := Phase.returned.inj returned
      cases same
      exact ⟨rfl, judge_succeeded judged⟩

end Loop

/-! ### The command -/

namespace PairQr

/-- The device was listed as ready, under a serial of the GUID. -/
def Online (inputs : List Input) (guid serial : Text) : Prop :=
  ∃ output devices device, .listed (.ok output) ∈ inputs ∧ output.stdout = .ok devices ∧
    device ∈ devices ∧ device.serial = serial ∧ device.state = .device ∧
      serialMatchesGuid serial guid = true

/-- The service was listed, to connect to, under an instance of the GUID. -/
def Offered (inputs : List Input) (guid : Text) (service : MdnsService) : Prop :=
  ∃ output, .services (.ok output) ∈ inputs ∧ service ∈ output.stdout ∧
    service.service = connectService ∧ serialMatchesGuid service.instanceName guid = true

/-- The round was closed with the GUID. -/
structure Bound (closing : Closing) (guid : Text) : Prop where
  closed : closing.Closed
  is : IsGuid guid
  named : closing.round.guid = some guid

/-- What a stage relies on. -/
def Fits (inputs : List Input) (closing : Closing) : Stage → Prop
  | .checking | .rendering => closing.round = .new 1 ∧ closing.pairs = []
  | .round loop => closing.round = .new 1 ∧ loop.Held (.new 1) ∧ loop.Named
  | .dating guid _ => Bound closing guid
  | .entering paired _ | .elapsing paired _ | .cancelCheck paired _ | .listing paired _
  | .querying paired | .connecting paired | .connected paired => Bound closing paired.guid
  | .waited paired _ outcome =>
      Bound closing paired.guid ∧ ∀ serial, outcome = .ok serial → Online inputs paired.guid serial
  | .found paired service => Bound closing paired.guid ∧ Offered inputs paired.guid service
  | .online paired serial | .counting paired serial =>
      Bound closing paired.guid ∧ Online inputs paired.guid serial
  | .returned result =>
      ∀ serial count reason, result = .ok (serial, count, reason) →
        ∃ guid, Bound closing guid ∧ Online inputs guid serial

/-- The commands that connect went to services of the GUID. -/
def Connects (inputs : List Input) (closing : Closing) (history : List Happening) : Prop :=
  ∀ endpoint, .issued (.connect endpoint) ∈ history →
    ∃ guid service, Bound closing guid ∧ Offered inputs guid service ∧
      endpoint = service.endpoint

/-- The invariant of a run. -/
structure Guided (inputs : List Input) (state : PairQr) : Prop where
  fits : Fits inputs state.closing state.stage
  connects : Connects inputs state.closing state.history

variable {inputs more : List Input} {state next : PairQr} {closing : Closing} {guid : Text}

theorem Online.mono {serial : Text} (online : Online inputs guid serial) (grows : inputs ⊆ more) :
    Online more guid serial := by
  obtain ⟨output, devices, device, answered, rest⟩ := online
  exact ⟨output, devices, device, grows answered, rest⟩

theorem Offered.mono {service : MdnsService} (offered : Offered inputs guid service)
    (grows : inputs ⊆ more) : Offered more guid service := by
  obtain ⟨output, answered, rest⟩ := offered
  exact ⟨output, grows answered, rest⟩

theorem Fits.mono {stage : Stage} (fits : Fits inputs closing stage) (grows : inputs ⊆ more) :
    Fits more closing stage := by
  cases stage with
  | waited paired attempt outcome =>
      exact ⟨fits.1, fun serial same => (fits.2 serial same).mono grows⟩
  | found => exact ⟨fits.1, fits.2.mono grows⟩
  | online | counting => exact ⟨fits.1, fits.2.mono grows⟩
  | returned result =>
      intro serial count reason same
      obtain ⟨guid, bound, online⟩ := fits serial count reason same
      exact ⟨guid, bound, online.mono grows⟩
  | _ => exact fits

theorem Connects.mono {history : List Happening} (connects : Connects inputs closing history)
    (grows : inputs ⊆ more) : Connects more closing history := by
  intro endpoint issued
  obtain ⟨guid, service, bound, offered, same⟩ := connects endpoint issued
  exact ⟨guid, service, bound, offered.mono grows, same⟩

theorem Guided.mono (guided : Guided inputs state) (grows : inputs ⊆ more) : Guided more state :=
  ⟨guided.fits.mono grows, guided.connects.mono grows⟩

/-- Before the round is closed nothing was connected to. -/
theorem Connects.unconnected {history : List Happening}
    (connects : Connects inputs closing history) (fresh : closing.round = .new 1) (endpoint : Text) :
    .issued (.connect endpoint) ∉ history := by
  intro issued
  obtain ⟨guid, -, bound, -⟩ := connects endpoint issued
  have named := bound.named
  rw [fresh] at named
  cases named

/-- A step that leaves the round's close, and connects to nothing. -/
theorem Guided.onward (guided : Guided inputs state) (closing : next.closing = state.closing)
    (history : ∀ endpoint, .issued (.connect endpoint) ∈ next.history →
      .issued (.connect endpoint) ∈ state.history)
    (fits : Fits inputs state.closing next.stage) : Guided inputs next where
  fits := closing ▸ fits
  connects endpoint issued := closing ▸ guided.connects endpoint (history endpoint issued)

/-- A cancelled command closes its round once more, to no effect. -/
theorem Guided.close (guided : Guided inputs state) (bound : Bound state.closing guid)
    (event : RoundEvent) (error : WirelessError) : Guided inputs (state.close event error) := by
  have same : (state.closing.roundClose (fun _ => .exited) event).2 = state.closing :=
    bound.closed.after (.roundClose (fun _ => .exited) event)
  exact guided.onward same (fun _ => id) nofun

theorem lookForGuid_some {answer : DeviceAnswer} {serial : Text}
    (looked : lookForGuid guid answer = .ok (some serial)) (answered : .listed answer ∈ inputs) :
    Online inputs guid serial := by
  unfold lookForGuid at looked
  split at looked
  · cases looked
  · rename_i output
    split at looked
    · cases looked
    · split at looked
      · cases looked
      · rename_i devices listed
        simp only [Except.ok.injEq, Option.map_eq_some_iff] at looked
        obtain ⟨device, found, rfl⟩ := looked
        have ready := List.find?_some found
        simp only [Bool.and_eq_true, decide_eq_true_eq] at ready
        exact ⟨output, devices, device, answered, listed, List.mem_of_find?_eq_some found, rfl,
          ready.2, ready.1⟩

theorem offered_of_services {answer : Except AdbFailure (Output (List MdnsService))}
    {services : List MdnsService} {service : MdnsService}
    (given : adbMdnsServices answer = .ok services)
    (found : connectServiceForGuid services guid = some service)
    (answered : .services answer ∈ inputs) : Offered inputs guid service := by
  unfold adbMdnsServices at given
  split at given
  · cases given
  · rename_i output
    split at given
    · cases given
    · cases given
      have belongs := List.find?_some found
      simp only [Bool.and_eq_true, decide_eq_true_eq] at belongs
      exact ⟨output, answered, List.mem_of_find?_eq_some found, belongs⟩

/-! ### Steps of the command -/

theorem Guided.advanceLoop {loop : Loop} {input : Wireless.Input} (guided : Guided inputs state)
    (stage : state.stage = .round loop) (stepped : state.advanceLoop loop input = some next) :
    Guided inputs next := by
  have fits := guided.fits
  rw [stage] at fits
  obtain ⟨fresh, held, -⟩ := fits
  unfold PairQr.advanceLoop at stepped
  split at stepped
  · obtain ⟨later, advanced, rfl⟩ := Option.map_eq_some_iff.mp stepped
    have fits : Fits inputs state.closing (.round later) :=
      ⟨fresh, held.step advanced, Loop.Named.step (Loop.Step.of_advance advanced)⟩
    split
    · rename_i command issued
      refine guided.onward rfl (fun endpoint inside => ?_) fits
      rcases List.mem_cons.mp inside with same | earlier
      · -- what the loop issues pairs
        unfold Loop.issues at issued
        split at issued
        · cases issued
          cases same
        · cases issued
      · exact earlier
    · exact guided.onward rfl (fun _ => id) fits
  · cases stepped

/-- The close of the round takes the GUID its loop has returned. -/
theorem bound_of_roundClose {loop : Loop} {event : RoundEvent} {guid qr : Text}
    (held : loop.Held (.new 1)) (named : loop.Named)
    (returned : loop.phase = .returned event (.ok guid)) (reap : Process → Reaping) :
    Bound ((loop.closing qr).roundClose reap event).2 guid := by
  obtain ⟨rfl, is⟩ := named event guid returned
  have isOpen : (loop.closing qr).round.closed = false := held.tracked.closed
  have unpaired : (loop.closing qr).round.guid = none := held.tracked.guid
  refine ⟨.of_roundClose isOpen reap _, is, ?_⟩
  rw [(Closing.roundClose_of_open isOpen reap _).2]
  exact (Closing.observe_guid isOpen unpaired _ guid).mpr rfl

theorem Guided.closeRound {loop : Loop} {event : RoundEvent} {outcome : Except WirelessError Text}
    (guided : Guided inputs state) (stage : state.stage = .round loop)
    (returned : loop.phase = .returned event outcome) (reap : Process → Reaping) :
    Guided inputs (state.closeRound loop reap event outcome) := by
  have fits := guided.fits
  rw [stage] at fits
  obtain ⟨fresh, held, named⟩ := fits
  have unconnected : ∀ {closing : Closing}, Connects inputs closing state.history :=
    fun endpoint issued => absurd issued (guided.connects.unconnected fresh endpoint)
  unfold PairQr.closeRound
  dsimp only
  split
  · exact ⟨nofun, unconnected⟩
  · exact ⟨nofun, unconnected⟩
  · exact ⟨nofun, unconnected⟩
  · exact ⟨bound_of_roundClose held named returned reap, unconnected⟩

theorem Guided.finishWait {paired : Paired} {outcome : Except WirelessError Text}
    (guided : Guided inputs state) (bound : Bound state.closing paired.guid) (attempt : Attempt)
    (online : ∀ serial, outcome = .ok serial → Online inputs paired.guid serial) :
    Guided inputs (state.finishWait paired attempt outcome) := by
  refine guided.onward rfl (fun endpoint inside => ?_) ⟨bound, online⟩
  rcases List.mem_cons.mp inside with same | earlier
  · cases same
  · exact earlier

theorem Guided.afterWait {paired : Paired} {outcome : Except WirelessError Text}
    (guided : Guided inputs state) (bound : Bound state.closing paired.guid) (attempt : Attempt)
    (online : ∀ serial, outcome = .ok serial → Online inputs paired.guid serial) :
    Guided inputs (state.afterWait paired attempt outcome) := by
  unfold PairQr.afterWait
  split
  · rename_i serial
    exact guided.onward rfl (fun _ => id) ⟨bound, online serial rfl⟩
  · split
    · exact guided.close bound _ _
    · exact guided.onward rfl (fun _ => id) bound
  · split
    · exact guided.close bound _ _
    · exact guided.onward rfl (fun _ => id) nofun

theorem Guided.connect {paired : Paired} {service : MdnsService} (guided : Guided inputs state)
    (bound : Bound state.closing paired.guid) (offered : Offered inputs paired.guid service) :
    Guided inputs
      ((state.record (.issued (.connect service.endpoint))).goTo (.connecting paired)) := by
  refine ⟨bound, fun endpoint inside => ?_⟩
  rcases List.mem_cons.mp inside with same | earlier
  · cases same
    exact ⟨paired.guid, service, bound, offered, rfl⟩
  · exact guided.connects endpoint earlier

theorem Guided.of_some {made : PairQr} (stepped : some made = some next)
    (guided : Guided inputs made) : Guided inputs next := by
  obtain rfl := Option.some.inj stepped
  exact guided

theorem Guided.goTo {stage : Stage} (guided : Guided inputs state)
    (fits : Fits inputs state.closing stage) : Guided inputs (state.goTo stage) :=
  guided.onward rfl (fun _ => id) fits

theorem Guided.fail (guided : Guided inputs state) (error : WirelessError) :
    Guided inputs (state.fail error) :=
  guided.onward rfl (fun _ => id) nofun

/-- The check for a cancel between two steps. -/
theorem Guided.lookAtToken {made : PairQr} (guided : Guided inputs state)
    (stepped : (if state.token then some (state.close .cancelled .cancelled) else some made) =
      some next) (bound : Bound state.closing guid) (onward : Guided inputs made) :
    Guided inputs next := by
  split at stepped
  · exact (guided.close bound _ _).of_some stepped
  · exact onward.of_some stepped

/-- Before the round, its close is empty. -/
theorem Guided.rendered {rendered : Except WirelessError Text} {now : Nat}
    (guided : Guided inputs state) (stage : state.stage = .rendering)
    (stepped : state.advance (.rendered rendered now) = some next) : Guided inputs next := by
  have fits := guided.fits
  rw [stage] at fits
  have unconnected : ∀ {closing : Closing}, Connects inputs closing state.history :=
    fun endpoint issued => absurd issued (guided.connects.unconnected fits.1 endpoint)
  cases rendered with
  | error error =>
      simp only [advance, stage] at stepped
      exact Guided.of_some stepped ⟨nofun, unconnected⟩
  | ok qr =>
      simp only [advance, stage] at stepped
      refine Guided.of_some stepped ⟨⟨fits.1, ?_, nofun⟩, unconnected⟩
      simp only [fits.1, fits.2]
      exact .start state.closing.secret (.new 1) now

theorem Guided.reaped {loop : Loop} {reap : Process → Reaping} (guided : Guided inputs state)
    (stage : state.stage = .round loop) (stepped : state.advance (.reaped reap) = some next) :
    Guided inputs next := by
  simp only [advance, stage] at stepped
  split at stepped
  · rename_i returned
    exact (guided.closeRound stage returned _).of_some stepped
  · cases stepped

theorem Guided.listed {paired : Paired} {wait : Wait} {answer : DeviceAnswer}
    (guided : Guided inputs state) (stage : state.stage = .listing paired wait)
    (answered : .listed answer ∈ inputs) (stepped : state.advance (.listed answer) = some next) :
    Guided inputs next := by
  have bound := guided.fits
  rw [stage] at bound
  simp only [advance, stage] at stepped
  split at stepped
  · exact Guided.of_some stepped (guided.finishWait bound _ nofun)
  · rename_i looked
    refine Guided.of_some stepped (guided.finishWait bound _ fun serial same => ?_)
    cases same
    exact lookForGuid_some looked answered
  · exact Guided.of_some stepped (guided.goTo bound)

/-- The services are asked for the GUID. -/
theorem Guided.services {paired : Paired}
    {answer : Except AdbFailure (Output (List MdnsService))} (guided : Guided inputs state)
    (stage : state.stage = .querying paired) (answered : .services answer ∈ inputs)
    (stepped : state.advance (.services answer) = some next) : Guided inputs next := by
  have bound := guided.fits
  rw [stage] at bound
  simp only [advance, stage] at stepped
  split at stepped
  · exact (guided.fail _).of_some stepped
  · rename_i given
    split at stepped
    · exact (guided.fail _).of_some stepped
    · rename_i found
      have offered := offered_of_services given found answered
      exact Guided.of_some stepped (guided.goTo ⟨bound, offered⟩)

theorem Guided.connected {paired : Paired} {answer : Except AdbFailure (Output Text)}
    (guided : Guided inputs state) (stage : state.stage = .connecting paired)
    (stepped : state.advance (.connected answer) = some next) : Guided inputs next := by
  have bound := guided.fits
  rw [stage] at bound
  simp only [advance, stage] at stepped
  split at stepped
  · exact (guided.fail _).of_some stepped
  · split at stepped
    · exact Guided.of_some stepped (guided.goTo bound)
    · exact (guided.fail _).of_some stepped

theorem guided_of_advance (inputs : List Input) (state : PairQr) (input : Input) (next : PairQr)
    (guided : Guided inputs state) (stepped : state.advance input = some next) :
    Guided (inputs ++ [input]) next := by
  have guided := guided.mono (List.subset_append_left inputs [input])
  have answered : input ∈ inputs ++ [input] := by simp
  have fits := guided.fits
  have advanced := stepped
  unfold advance at stepped
  split at stepped
  -- the token and the signals
  case h_1 | h_2 => exact Guided.of_some stepped (guided.onward rfl (fun _ => id) fits)
  -- up to the round and its close
  case h_3 => exact (guided.fail _).of_some stepped
  case h_4 stage =>
      rw [stage] at fits
      exact Guided.of_some stepped (guided.goTo fits)
  case h_5 stage | h_6 stage => exact guided.rendered stage advanced
  case h_7 stage => exact guided.advanceLoop stage stepped
  case h_8 stage => exact guided.reaped stage advanced
  case h_9 stage =>
      rw [stage] at fits
      exact guided.lookAtToken stepped fits (guided.goTo fits)
  -- a wait
  case h_10 stage =>
      rw [stage] at fits
      exact Guided.of_some stepped (guided.goTo fits)
  case h_11 stage =>
      rw [stage] at fits
      split at stepped
      · exact Guided.of_some stepped (guided.goTo fits)
      · exact Guided.of_some stepped (guided.finishWait fits _ nofun)
  case h_12 stage =>
      rw [stage] at fits
      split at stepped
      · exact Guided.of_some stepped (guided.finishWait fits _ nofun)
      · exact Guided.of_some stepped (guided.goTo fits)
  case h_13 stage => exact guided.listed stage answered advanced
  case h_14 stage =>
      rw [stage] at fits
      exact (guided.afterWait fits.1 _ fits.2).of_some stepped
  -- the fallback
  case h_15 stage => exact guided.services stage answered advanced
  case h_16 stage =>
      rw [stage] at fits
      exact guided.lookAtToken stepped fits.1 (guided.connect fits.1 fits.2)
  case h_17 stage => exact guided.connected stage advanced
  case h_18 stage =>
      rw [stage] at fits
      exact guided.lookAtToken stepped fits (guided.goTo fits)
  -- the end
  case h_19 stage =>
      rw [stage] at fits
      exact guided.lookAtToken stepped fits.1 (guided.goTo fits)
  case h_20 => exact (guided.fail _).of_some stepped
  case h_21 paired serial _ _ stage =>
      rw [stage] at fits
      refine Guided.of_some stepped (guided.goTo ?_)
      rintro serial' count reason same
      cases same
      exact ⟨paired.guid, fits⟩
  case h_22 => cases stepped

theorem guided_start (secret : PairingSecret) (token : Bool) (signals : Nat) :
    Guided [] (start secret token signals) where
  fits := ⟨rfl, rfl⟩
  connects := nofun

/-- No name belongs to two GUIDs, and the command keeps to the one of its round: so does the
    serial it returns, which was listed as ready, and what it connects to. -/
theorem guid_binds :
    (∀ guid other name, IsGuid guid → IsGuid other → guid ≠ other →
      ¬ (serialMatchesGuid name guid = true ∧ serialMatchesGuid name other = true)) ∧
    ∀ secret token signals inputs final,
      Machine.run advance (start secret token signals) inputs = some final →
      (∀ serial count reason, final.stage = .returned (.ok (serial, count, reason)) →
        ∃ guid, final.closing.round.guid = some guid ∧ IsGuid guid ∧
          Online inputs guid serial) ∧
      ∀ endpoint, .issued (.connect endpoint) ∈ final.history →
        ∃ guid service, final.closing.round.guid = some guid ∧ IsGuid guid ∧
          Offered inputs guid service ∧ endpoint = service.endpoint := by
  refine ⟨fun guid other name is isOther differ both =>
    differ (guid_unique is isOther both.1 both.2), ?_⟩
  intro secret token signals inputs final ran
  have guided := Machine.run_history guided_of_advance (guided_start secret token signals) ran
  rw [List.nil_append] at guided
  constructor
  · intro serial count reason returned
    have fits := guided.fits
    rw [returned] at fits
    obtain ⟨guid, bound, online⟩ := fits serial count reason rfl
    exact ⟨guid, bound.named, bound.is, online⟩
  · intro endpoint issued
    obtain ⟨guid, service, bound, offered, same⟩ := guided.connects endpoint issued
    exact ⟨guid, service, bound.named, bound.is, offered, same⟩

/-- A pairing whose device comes once it is connected to. -/
def pairedByConnecting : List Input :=
  [.checked (.ok ()), .rendered (.ok ['#']) 0, .loop (.cancelled false), .loop (.time 0),
    .loop (.answered (.ok ⟨0, [Loop.samplePairing], []⟩)), .loop (.spawned (.ok 1)),
    .loop (.child (.exited (.ok ⟨0, "[guid=adb-X]".toList, []⟩))), .reaped fun _ => .exited,
    .time 2, .entered 2 2, .time (2 + roundTimeout), .check,
    .services (.ok ⟨0, [⟨"adb-X".toList, connectService, ['h'], 9⟩], []⟩), .check,
    .connected (.ok ⟨0, [], []⟩), .check, .entered 3 3, .time 3, .check,
    .listed (.ok ⟨0, .ok [⟨"adb-X.local".toList, .device⟩], []⟩), .check, .check,
    .counted (.ok []) fun _ => none]

theorem guid_binds_pairedByConnecting :
    ¬ (serialMatchesGuid "adb-X.local".toList "adb-X".toList = true ∧
        serialMatchesGuid "adb-X.local".toList "adb-Y".toList = true) ∧
    ∃ final, Machine.run advance (start Loop.sampleSecret false 0) pairedByConnecting = some final ∧
      final.stage = .returned (.ok ("adb-X.local".toList, 0, .success)) ∧
      final.history.getLast? = some (.issued (.pair "h:7".toList)) ∧
      (∃ guid, final.closing.round.guid = some guid ∧ IsGuid guid ∧
        Online pairedByConnecting guid "adb-X.local".toList) ∧
      ∃ guid service, final.closing.round.guid = some guid ∧ IsGuid guid ∧
        Offered pairedByConnecting guid service ∧ "h:9".toList = service.endpoint := by
  have isX : IsGuid "adb-X".toList := ⟨"[guid=adb-X]".toList, rfl⟩
  have isY : IsGuid "adb-Y".toList := ⟨"[guid=adb-Y]".toList, rfl⟩
  have keeps := guid_binds.2 Loop.sampleSecret false 0 pairedByConnecting _ rfl
  refine ⟨guid_binds.1 _ _ _ isX isY (by decide), _, rfl, rfl, rfl, keeps.1 _ _ _ rfl, ?_⟩
  exact keeps.2 _ (List.mem_cons_of_mem _ List.mem_cons_self)

end PairQr

end QuadControl.Android.Wireless
