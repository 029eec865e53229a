import QuadControl.Android.PairInFlight
import QuadControl.Lib.Replace

/-! # The password in the errors of a pairing

What `adb pair` writes to its stderr is summed up with the password taken out of it, so
that an error may quote it. The other texts an error can carry are passed on as they are:
the host's own errors, and what a query of services that fails has written.
-/

namespace QuadControl.Android.Wireless

open Lib

/-- A password that is redacted: letters and digits, and no piece of the word that takes
    its place. -/
structure Redactable (password : Text) : Prop where
  nonempty : password ≠ []
  alphanumeric : ∀ c ∈ password, c.isAlphanum = true
  other : ¬ password <:+: "redacted".toList

theorem Redactable.absent {password : Text} (redactable : Redactable password) {c : Char}
    (mark : c.isAlphanum = false) : c ∉ password := by
  intro inside
  rw [redactable.alphanumeric c inside] at mark
  cases mark

theorem length_stderrSummary (stderr secret : Text) : (stderrSummary stderr secret).length ≤ 512 :=
  List.length_take_le ..

/-- Not in what is left of the text, not across its replacements, and the cut only takes
    away from that. -/
theorem not_infix_stderrSummary {password : Text} (redactable : Redactable password)
    (stderr : Text) : ¬ password <:+: stderrSummary stderr password := by
  intro inside
  unfold stderrSummary at inside
  dsimp only at inside
  rw [if_pos redactable.nonempty] at inside
  have whole := inside.trans (List.take_prefix _ _).isInfix
  have left : '[' ∉ password := redactable.absent rfl
  have right : ']' ∉ password := redactable.absent rfl
  exact Text.not_infix_replace redactable.nonempty left right redactable.other whole

/-! ### One pairing -/

/-- What `pair` makes of a process that has exited. -/
def paired (password : Text) (output : Output Text) : Except WirelessError Text :=
  if output.status ≠ 0 then .error (.commandFailed (stderrSummary output.stderr password))
  else
    match findGuid output.stdout with
    | some guid => .ok guid
    | none => .error .pairOutputUnparseable

/-- The loop of `pair`, as long as its process is polled. -/
def Process.pairing (password : Text) (process : Process) :
    List ChildReport → Option (Except WirelessError Text)
  | [] => none
  | report :: reports =>
      match process.poll report with
      | .error error => some (.error error)
      | .ok (some output) => some (paired password output)
      | .ok none => process.pairing password reports

/-- `pair`: the process it spawns, with the time it is started at, and the polls of it. -/
def pair (endpoint password : Text) (spawned : Except SpawnFailure Nat)
    (reports : List ChildReport) : Option (Except WirelessError Text) :=
  match spawned with
  | .error failure => some (.error failure.error)
  | .ok started => Process.pairing password ⟨0, endpoint, started⟩ reports

/-! ### What an error is made of -/

/-- The program's own wording of these errors: their fixed texts, and what stands before a
    text that is carried. -/
def wording : List Text :=
  [WirelessError.adbNotFound.text, WirelessError.timedOut.text, WirelessError.outputTooLarge.text,
    WirelessError.pairOutputUnparseable.text, WirelessError.cancelled.text,
    WirelessError.roundTimedOut.text, WirelessError.serviceLost.text,
    (WirelessError.io []).text, (WirelessError.commandFailed []).text, "pair failed".toList]

def SpawnFailure.texts : SpawnFailure → List Text
  | .notFound => []
  | .io error => [error]

def ReadFailure.texts : ReadFailure → List Text
  | .io error => [error]
  | .outputTooLarge => []

/-- The host's texts: what a process has written is not among them. -/
def ChildReport.texts : ChildReport → List Text
  | .waitFailed error | .running _ (.error error) => [error]
  | .exited (.error failure) => failure.texts
  | .exited (.ok _) | .running _ (.ok ()) => []

def AdbFailure.texts : AdbFailure → List Text
  | .io error => [error]
  | .notFound | .timedOut | .outputTooLarge => []

/-- The texts an answer of the environment brings that are not the output of `adb pair`. -/
def Input.texts : Input → List Text
  | .answered (.error failure) => failure.texts
  | .answered (.ok output) => if output.status ≠ 0 then [output.stderr] else []
  | .spawned (.error failure) => failure.texts
  | .child report => report.texts
  | .cancelled _ | .time _ | .spawned (.ok _) => []

/-- The password is in an error only as the program's wording or one of these texts has it. -/
def Clean (password : Text) (texts : List Text) (error : WirelessError) : Prop :=
  password <:+: error.text →
    (∃ own ∈ wording, password <:+: own) ∨ ∃ text ∈ texts, password <:+: text

theorem io_mem_wording : (WirelessError.io []).text ∈ wording := by simp [wording]

theorem commandFailed_mem_wording : (WirelessError.commandFailed []).text ∈ wording := by
  simp [wording]

theorem text_io (carried : Text) :
    (WirelessError.io carried).text = (WirelessError.io []).text ++ carried := by
  show "ADB process error: ".toList ++ carried = "ADB process error: ".toList ++ [] ++ carried
  rw [List.append_nil]

theorem text_commandFailed (carried : Text) :
    (WirelessError.commandFailed carried).text =
      (WirelessError.commandFailed []).text ++ carried := by
  show "adb 命令失败: ".toList ++ carried = "adb 命令失败: ".toList ++ [] ++ carried
  rw [List.append_nil]

section

variable {password : Text} {texts more : List Text} {error : WirelessError}

theorem Clean.mono (clean : Clean password texts error) (among : ∀ text ∈ texts, text ∈ more) :
    Clean password more error := by
  intro inside
  rcases clean inside with own | ⟨text, member, found⟩
  · exact .inl own
  · exact .inr ⟨text, among text member, found⟩

theorem clean_of_wording (own : error.text ∈ wording) : Clean password texts error :=
  fun inside => .inl ⟨error.text, own, inside⟩

variable (redactable : Redactable password)
include redactable

/-- No password crosses the blank before a text that is carried. -/
theorem infix_of_carried {front carried : Text} (ends : ∃ words, front = words ++ [' '])
    (inside : password <:+: front ++ carried) : password <:+: front ∨ password <:+: carried := by
  obtain ⟨words, rfl⟩ := ends
  have blank : ' ' ∉ password := redactable.absent rfl
  rw [List.append_assoc, List.singleton_append] at inside
  rcases infix_of_append_cons blank inside with before | after
  · exact .inl (before.trans (List.prefix_append _ _).isInfix)
  · exact .inr after

theorem clean_io {carried : Text} (member : carried ∈ texts) :
    Clean password texts (.io carried) := by
  intro inside
  rw [text_io] at inside
  have ends : ∃ words, (WirelessError.io []).text = words ++ [' '] :=
    ⟨"ADB process error:".toList, by decide⟩
  rcases infix_of_carried redactable ends inside with own | found
  · exact .inl ⟨_, io_mem_wording, own⟩
  · exact .inr ⟨carried, member, found⟩

theorem infix_text_commandFailed {carried : Text}
    (inside : password <:+: (WirelessError.commandFailed carried).text) :
    (∃ own ∈ wording, password <:+: own) ∨ password <:+: carried := by
  rw [text_commandFailed] at inside
  have ends : ∃ words, (WirelessError.commandFailed []).text = words ++ [' '] :=
    ⟨"adb 命令失败:".toList, by decide⟩
  rcases infix_of_carried redactable ends inside with own | found
  · exact .inl ⟨_, commandFailed_mem_wording, own⟩
  · exact .inr found

theorem clean_commandFailed {carried : Text} (member : carried ∈ texts) :
    Clean password texts (.commandFailed carried) := fun inside =>
  (infix_text_commandFailed redactable inside).imp_right fun found => ⟨carried, member, found⟩

theorem clean_summary (stderr : Text) :
    Clean password texts (.commandFailed (stderrSummary stderr password)) := fun inside =>
  (infix_text_commandFailed redactable inside).imp_right fun found =>
    absurd found (not_infix_stderrSummary redactable stderr)

theorem SpawnFailure.clean (failure : SpawnFailure) :
    Clean password failure.texts failure.error := by
  cases failure with
  | notFound => exact clean_of_wording (by simp [SpawnFailure.error, wording])
  | io carried => exact clean_io redactable List.mem_cons_self

theorem ReadFailure.clean (failure : ReadFailure) : Clean password failure.texts failure.error := by
  cases failure with
  | outputTooLarge => exact clean_of_wording (by simp [ReadFailure.error, wording])
  | io carried => exact clean_io redactable List.mem_cons_self

theorem AdbFailure.clean (failure : AdbFailure) : Clean password failure.texts failure.error := by
  cases failure with
  | notFound | timedOut | outputTooLarge =>
      exact clean_of_wording (by simp [AdbFailure.error, wording])
  | io carried => exact clean_io redactable List.mem_cons_self

theorem clean_poll {process : Process} {report : ChildReport}
    (polled : process.poll report = .error error) : Clean password report.texts error := by
  unfold Process.poll at polled
  split at polled
  · cases polled
    exact clean_io redactable List.mem_cons_self
  · cases polled
    exact ReadFailure.clean redactable _
  · cases polled
  · split at polled
    · split at polled <;> cases polled
      · exact clean_io redactable List.mem_cons_self
      · exact clean_of_wording (by simp [wording])
    · cases polled

theorem clean_judge {process : Process} {report : ChildReport}
    (judged : judge password (process.poll report) = .failed error) :
    Clean password report.texts error := by
  unfold judge at judged
  split at judged
  · cases judged
  · split at judged
    · split at judged
      · cases judged
      · cases judged
        exact clean_of_wording (by simp [wording])
    · rename_i output _ _
      obtain rfl := Judgement.failed.inj judged
      split
      · -- the summary has nothing, and the round speaks for itself
        intro inside
        rcases infix_text_commandFailed redactable inside with own | fallback
        · exact .inl own
        · exact .inl ⟨_, by simp [wording], fallback⟩
      · exact clean_summary redactable output.stderr
  · rename_i polled
    cases judged
    exact clean_poll redactable polled

theorem clean_adbMdnsServices {answer : Except AdbFailure (Output (List MdnsService))}
    (failed : adbMdnsServices answer = .error error) :
    Clean password (Input.answered answer).texts error := by
  unfold adbMdnsServices at failed
  split at failed
  · cases failed
    exact AdbFailure.clean redactable _
  · split at failed
    · rename_i status
      cases failed
      refine clean_commandFailed redactable ?_
      simp [Input.texts, status]
    · cases failed

theorem clean_pairing {process : Process} {reports : List ChildReport}
    (ended : process.pairing password reports = some (.error error)) :
    Clean password (reports.flatMap ChildReport.texts) error := by
  induction reports with
  | nil => cases ended
  | cons report reports ih =>
      unfold Process.pairing at ended
      split at ended
      · rename_i polled
        cases ended
        refine (clean_poll redactable polled).mono fun text member => ?_
        simp [member]
      · rename_i output polled
        unfold paired at ended
        split at ended
        · cases ended
          exact clean_summary redactable output.stderr
        · split at ended <;> cases ended
          exact clean_of_wording (by simp [wording])
      · refine (ih ended).mono fun text member => ?_
        rw [List.flatMap_cons]
        exact List.mem_append_right _ member

end

/-! ### The errors of a round -/

namespace Loop

theorem Step.secret {loop next : Loop} {input : Input} (step : Step loop input next) :
    next.secret = loop.secret := by
  cases step with
  | cancel | expire | turn | queryFailed | spawnFailed | succeed => rfl
  | queryPostponed | spawnPostponed | wait | remove => exact (alike_pollFrom _ _).secret
  | lose answer =>
      have lost : loop.lose.secret = loop.secret := by
        unfold Loop.lose
        split <;> rfl
      exact (alike_pollFrom _ _).secret.trans lost
  | find | spawn => exact (alike_spawnNext _ _).secret

/-- Every error the loop has noted, or returns, is of a kind. -/
structure Errors (kind : WirelessError → Prop) (loop : Loop) : Prop where
  failure : ∀ error, loop.failure = some error → kind error
  returned : ∀ event error, loop.phase = .returned event (.error error) → kind error

/-- The errors of the round itself, whatever its processes do. -/
structure Fixed (kind : WirelessError → Prop) : Prop where
  cancelled : kind .cancelled
  roundTimedOut : kind .roundTimedOut
  serviceLost : kind .serviceLost
  timedOut : kind .timedOut

/-- The errors that an answer of the environment brings. -/
def Brings (loop : Loop) (error : WirelessError) : Input → Prop
  | .answered answer => adbMdnsServices answer = .error error
  | .spawned (.error failure) => failure.error = error
  | .child report => ∃ process : Process,
      judge loop.secret.password (process.poll report) = .failed error
  | .cancelled _ | .time _ | .spawned (.ok _) => False

variable {kind : WirelessError → Prop} {loop next : Loop} {input : Input} {first : WirelessError}

theorem Errors.goTo (errors : loop.Errors kind) {phase : Phase}
    (fine : ∀ event error, phase = .returned event (.error error) → kind error) :
    (loop.goTo phase).Errors kind :=
  ⟨errors.failure, fine⟩

/-- The first failure stays the first. -/
theorem Errors.getD (errors : loop.Errors kind) (fine : kind first) :
    kind (loop.failure.getD first) := by
  cases failure : loop.failure with
  | none => exact fine
  | some error => exact errors.failure error failure

theorem Errors.insert (errors : loop.Errors kind) (fine : kind first) {other : Loop}
    (failure : other.failure = some (loop.failure.getD first)) (phase : other.phase = loop.phase) :
    other.Errors kind := by
  refine ⟨fun error same => ?_, fun event error same => ?_⟩
  · obtain rfl := Option.some.inj (failure.symm.trans same)
    exact errors.getD fine
  · exact errors.returned event error (phase.symm.trans same)

variable (fixed : Fixed kind)
include fixed

theorem Fixed.classify (serviceLost pairTimedOut : Bool) (fine : kind first) :
    kind (classifyRoundFailure serviceLost pairTimedOut first).2 := by
  unfold classifyRoundFailure
  split
  · exact fixed.serviceLost
  · split
    · exact fixed.timedOut
    · exact fine

theorem Errors.giveUp (errors : loop.Errors kind) (fine : kind first) :
    (loop.giveUp first).Errors kind := by
  refine errors.goTo fun event error same => ?_
  obtain ⟨-, same⟩ := Phase.returned.inj same
  obtain rfl := Except.error.inj same
  exact fixed.classify _ _ fine

theorem Errors.pollFrom (errors : loop.Errors kind) (index : Nat) :
    (loop.pollFrom index).Errors kind := by
  unfold Loop.pollFrom finishPolling
  split
  · exact errors.goTo nofun
  · split
    · have idle : loop.idle.Errors kind := ⟨errors.failure, errors.returned⟩
      split
      · rename_i error failure
        exact idle.giveUp fixed (errors.failure error failure)
      · exact idle.goTo nofun
    · exact errors.goTo nofun

theorem Errors.spawnNext (errors : loop.Errors kind) (services : List MdnsService) :
    (loop.spawnNext services).Errors kind := by
  induction services with
  | nil => exact errors.pollFrom fixed 0
  | cons service rest ih =>
      unfold Loop.spawnNext
      split
      · exact ih
      · exact errors.goTo (by rintro _ _ ⟨⟩)

/-- A step adds no error but those its input brings. -/
theorem Errors.step (errors : loop.Errors kind)
    (brought : ∀ error, loop.Brings error input → kind error) (step : Step loop input next) :
    next.Errors kind := by
  cases step with
  | cancel =>
      refine errors.goTo fun event error same => ?_
      obtain rfl := Except.error.inj (Phase.returned.inj same).2
      exact fixed.cancelled
  | expire now =>
      refine errors.goTo fun event error same => ?_
      obtain rfl := Except.error.inj (Phase.returned.inj same).2
      exact fixed.roundTimedOut
  | turn _ phase plain =>
      refine errors.goTo fun event error same => ?_
      rcases plain with rfl | rfl <;> cases same
  | queryPostponed answer error failed inFlight =>
      have failing : (loop.fail error).Errors kind := errors.insert (brought error failed) rfl rfl
      exact failing.pollFrom fixed 0
  | queryFailed answer error phase failed gone =>
      exact errors.giveUp fixed (errors.getD (brought error failed))
  | lose answer =>
      have lost : loop.lose.Errors kind := by
        unfold Loop.lose
        split <;> exact ⟨errors.failure, errors.returned⟩
      exact lost.pollFrom fixed 0
  | find answer services => exact errors.spawnNext fixed services
  | spawn service rest started phase =>
      have pushed : (loop.push service.endpoint started).Errors kind :=
        ⟨errors.failure, errors.returned⟩
      exact pushed.spawnNext fixed rest
  | spawnPostponed failure inFlight =>
      have failing : (loop.fail failure.error).Errors kind :=
        errors.insert (brought failure.error rfl) rfl rfl
      exact failing.pollFrom fixed 0
  | spawnFailed failure gone =>
      exact errors.giveUp fixed (errors.getD (brought failure.error rfl))
  | wait index process report here =>
      have polled : (loop.recordPoll process false).Errors kind := ⟨errors.failure, errors.returned⟩
      exact polled.pollFrom fixed _
  | succeed index process report guid here judged =>
      have polled : (loop.recordPoll process true).Errors kind := ⟨errors.failure, errors.returned⟩
      exact polled.goTo nofun
  | remove index process report error phase here judged =>
      have removed : ((loop.recordPoll process true).remove index error).Errors kind :=
        errors.insert (brought error ⟨process, judged⟩) rfl rfl
      exact removed.pollFrom fixed index

end Loop

theorem clean_brought {password : Text} (redactable : Redactable password) {loop : Loop}
    {input : Input} {error : WirelessError} (same : loop.secret.password = password)
    (brought : loop.Brings error input) : Clean password input.texts error := by
  cases input with
  | cancelled | time => cases brought
  | answered answer => exact clean_adbMdnsServices redactable brought
  | spawned outcome =>
      cases outcome with
      | ok => cases brought
      | error failure =>
          obtain rfl := brought
          exact failure.clean redactable
  | child report =>
      obtain ⟨process, judged⟩ := brought
      rw [same] at judged
      exact clean_judge redactable judged

theorem fixed_clean (password : Text) (texts : List Text) : Loop.Fixed (Clean password texts) := by
  constructor <;> exact clean_of_wording (by simp [wording])

/-- A round's errors have the password only from what its answers brought. -/
theorem clean_of_run {secret : PairingSecret} (redactable : Redactable secret.password)
    {round : RoundState} {pairs : List Process} {now : Nat} {inputs : List Input} {loop : Loop}
    (ran : Machine.run Loop.advance (Loop.start secret round pairs now) inputs = some loop) :
    loop.Errors (Clean secret.password (inputs.flatMap Input.texts)) := by
  let invariant (past : List Input) (loop : Loop) : Prop :=
    loop.secret = secret ∧ loop.Errors (Clean secret.password (past.flatMap Input.texts))
  have preserved : ∀ past before input after, invariant past before →
      Loop.advance before input = some after → invariant (past ++ [input]) after := by
    rintro past before input after ⟨same, errors⟩ stepped
    have step := Loop.Step.of_advance stepped
    have earlier : ∀ text ∈ past.flatMap Input.texts,
        text ∈ (past ++ [input]).flatMap Input.texts := fun text member => by
      rw [List.flatMap_append]
      exact List.mem_append_left _ member
    have latest : ∀ text ∈ input.texts, text ∈ (past ++ [input]).flatMap Input.texts :=
      fun text member => by simp [member]
    have kept : before.Errors (Clean secret.password ((past ++ [input]).flatMap Input.texts)) :=
      ⟨fun error failure => (errors.failure error failure).mono earlier,
        fun event error returned => (errors.returned event error returned).mono earlier⟩
    refine ⟨step.secret.trans same, kept.step (fixed_clean _ _) (fun error brought => ?_) step⟩
    have known : before.secret.password = secret.password := by rw [same]
    exact (clean_brought redactable known brought).mono latest
  have start : invariant [] (Loop.start secret round pairs now) := ⟨rfl, nofun, nofun⟩
  exact (Machine.run_history preserved start ran).2

/-- No summary has the password, and an error has it only where the program's own wording
    does, or a text that is not from `adb pair`. -/
theorem pairing_errors_redacted {password : Text} (redactable : Redactable password) :
    (∀ stderr, (stderrSummary stderr password).length ≤ 512 ∧
      ¬ password <:+: stderrSummary stderr password) ∧
    (∀ endpoint spawned reports error,
      pair endpoint password spawned reports = some (.error error) →
      Clean password ((Input.spawned spawned).texts ++ reports.flatMap ChildReport.texts) error) ∧
    (∀ serviceName payload round pairs now inputs loop event error,
      Machine.run Loop.advance (Loop.start ⟨serviceName, password, payload⟩ round pairs now)
        inputs = some loop → loop.phase = .returned event (.error error) →
      Clean password (inputs.flatMap Input.texts) error) := by
  refine ⟨fun stderr => ⟨length_stderrSummary stderr password, ?_⟩, ?_, ?_⟩
  · exact not_infix_stderrSummary redactable stderr
  · intro endpoint spawned reports error ended
    cases spawned with
    | error failure =>
        obtain rfl := Except.error.inj (Option.some.inj ended)
        exact (failure.clean redactable).mono fun text => List.mem_append_left _
    | ok started => exact clean_pairing redactable ended
  · intro serviceName payload round pairs now inputs loop event error ran returned
    exact (clean_of_run redactable ran).returned event error returned

/-- A password as it is generated. -/
def code : Text := "AbCdEfGhIjKl".toList

theorem redactable_code : Redactable code where
  nonempty := by decide
  alphanumeric := List.all_eq_true.mp (by decide)
  other := by decide

theorem pairing_errors_redacted_code :
    pair "10.0.0.2:37000".toList code (.ok 0)
        [.running 1 (.ok ()), .exited (.ok ⟨1, [], "wrong code AbCdEfGhIjKl\n".toList⟩)] =
      some (.error (.commandFailed "wrong code [redacted]".toList)) ∧
    (∀ stderr, (stderrSummary stderr code).length ≤ 512 ∧ ¬ code <:+: stderrSummary stderr code) ∧
    Clean code [] (.commandFailed "wrong code [redacted]".toList) := by
  obtain ⟨summaries, once, -⟩ := @pairing_errors_redacted code redactable_code
  have ended : pair "10.0.0.2:37000".toList code (.ok 0)
      [.running 1 (.ok ()), .exited (.ok ⟨1, [], "wrong code AbCdEfGhIjKl\n".toList⟩)] =
        some (.error (.commandFailed "wrong code [redacted]".toList)) := by decide
  exact ⟨ended, summaries, once _ _ _ _ ended⟩

/-- A service to pair with is found, and its process fails without a word. -/
def failing : List Input :=
  [.cancelled false, .time 0,
    .answered (.ok ⟨0, [⟨['s'], pairingService, "10.0.0.2".toList, 37000⟩], []⟩),
    .spawned (.ok 0), .child (.exited (.ok ⟨1, [], []⟩))]

/-- What is said of the failure has the password, and so has a query that quotes it. -/
theorem pairing_error_exposes :
    (Redactable "pair".toList ∧ ∃ loop error,
      Machine.run Loop.advance (Loop.start ⟨['s'], "pair".toList, []⟩ (.new 1) [] 0) failing =
        some loop ∧ loop.phase = .returned .pairFailed (.error (.commandFailed error)) ∧
      "pair".toList <:+: error) ∧
    (Redactable code ∧ ∃ loop error,
      Machine.run Loop.advance (Loop.start ⟨['s'], code, []⟩ (.new 1) [] 0)
        [.cancelled false, .time 0, .answered (.ok ⟨1, [], code⟩)] = some loop ∧
      loop.phase = .returned .pairFailed (.error (.commandFailed error)) ∧ code <:+: error) := by
  have short : Redactable "pair".toList :=
    ⟨by decide, List.all_eq_true.mp (by decide), by decide⟩
  exact ⟨⟨short, _, "pair failed".toList, rfl, rfl, by decide⟩,
    ⟨redactable_code, _, code, rfl, rfl, by decide⟩⟩

end QuadControl.Android.Wireless
