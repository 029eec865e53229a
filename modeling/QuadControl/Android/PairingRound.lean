import QuadControl.Android.Wireless
import QuadControl.Lib.Machine

/-! # The loop of a pairing round

`run_pairing_round_with_cancel` looks for the services of its secret, runs one `adb pair`
for each of their endpoints and polls those processes until one succeeds or none is left.
The loop is a machine: it asks the environment one thing at a time (whether it is
cancelled, the time, the services, a process, how a process is doing) and goes on with
the answer. Instants and durations are in nanoseconds.
-/

namespace QuadControl.Android.Wireless

open Lib

/-- `ROUND_TIMEOUT`. -/
def roundTimeout : Nat := 300 * 10 ^ 9

/-- `COMMAND_TIMEOUT`. -/
def commandTimeout : Nat := 10 * 10 ^ 9

/-! ### Pair processes -/

/-- `PairProcess`, numbered in the order of spawning. -/
structure Process where
  number : Nat
  endpoint : Text
  started : Nat
  deriving Repr, DecidableEq

/-- How `PairProcess::spawn` fails. -/
inductive SpawnFailure where
  | notFound
  | io (error : Text)
  deriving Repr, DecidableEq

def SpawnFailure.error : SpawnFailure → WirelessError
  | .notFound => .adbNotFound
  | .io error => .io error

/-- How the output of a process that has exited cannot be had. -/
inductive ReadFailure where
  | io (error : Text)
  | outputTooLarge
  deriving Repr, DecidableEq

def ReadFailure.error : ReadFailure → WirelessError
  | .io error => .io error
  | .outputTooLarge => .outputTooLarge

/-- What a poll of a process meets. -/
inductive ChildReport where
  | waitFailed (error : Text)
  | exited (output : Except ReadFailure (Output Text))
  /-- The time, and how `kill_reap` goes if the time is over. -/
  | running (now : Nat) (reaped : Except Text Unit)
  deriving Repr, DecidableEq

/-- `PairProcess::poll`. -/
def Process.poll (process : Process) : ChildReport → Except WirelessError (Option (Output Text))
  | .waitFailed error => .error (.io error)
  | .exited (.error failure) => .error failure.error
  | .exited (.ok output) => .ok (some output)
  | .running now reaped =>
      if commandTimeout ≤ now - process.started then
        match reaped with
        | .error error => .error (.io error)
        | .ok () => .error .timedOut
      else .ok none

/-- What the loop makes of a poll. -/
inductive Judgement where
  | running
  | succeeded (guid : Text)
  | failed (error : WirelessError)
  deriving Repr, DecidableEq

def judge (password : Text) : Except WirelessError (Option (Output Text)) → Judgement
  | .ok none => .running
  | .ok (some output) =>
      if output.status = 0 then
        match findGuid output.stdout with
        | some guid => .succeeded guid
        | none => .failed .pairOutputUnparseable
      else
        let summary := stderrSummary output.stderr password
        .failed (.commandFailed (if summary = [] then "pair failed".toList else summary))
  | .error error => .failed error

/-! ### The loop -/

/-- `classify_round_failure`. -/
def classifyRoundFailure (serviceLost pairTimedOut : Bool) (first : WirelessError) :
    RoundEvent × WirelessError :=
  if serviceLost then (.serviceLost, .serviceLost)
  else if pairTimedOut then (.pairTimedOut, .timedOut)
  else (.pairFailed, first)

/-- Where the loop stands. -/
inductive Phase where
  | cancelCheck
  | deadlineCheck
  | querying
  | spawning (service : MdnsService) (rest : List MdnsService)
  | polling (index : Nat)
  | returned (event : RoundEvent) (result : Except WirelessError Text)

def Phase.isReturned : Phase → Bool
  | .returned _ _ => true
  | _ => false

/-- The variables of the loop. The last two are not the code's: every process spawned, and
    the polls, latest first, with the process and whether it was reported finished. -/
structure Loop where
  secret : PairingSecret
  round : RoundState
  pairs : List Process
  roundId : Nat
  deadline : Nat
  spawned : List Text
  serviceLost : Bool
  failure : Option WirelessError
  pairTimedOut : Bool
  phase : Phase
  started : List Process
  polls : List (Nat × Bool)

inductive Input where
  /-- Whether the token is tripped or a signal has come. -/
  | cancelled (now : Bool)
  | time (now : Nat)
  | answered (answer : Except AdbFailure (Output (List MdnsService)))
  /-- With the time the process was started at. -/
  | spawned (outcome : Except SpawnFailure Nat)
  | child (report : ChildReport)

namespace Loop

/-- The loop as it is entered. -/
def start (secret : PairingSecret) (round : RoundState) (pairs : List Process) (now : Nat) : Loop :=
  ⟨secret, round, pairs, round.id, now + roundTimeout, [], false, none, false, .cancelCheck, pairs,
    []⟩

variable (loop : Loop)

def goTo (phase : Phase) : Loop := { loop with phase := phase }

/-- `failure.get_or_insert(error)`. -/
def fail (error : WirelessError) : Loop :=
  { loop with failure := some (loop.failure.getD error) }

/-- The return for a failure that is the first, or not. -/
def giveUp (first : WirelessError) : Loop :=
  let (event, error) := classifyRoundFailure loop.serviceLost loop.pairTimedOut first
  loop.goTo (.returned event (.error error))

/-- The round's mark goes with the last process. -/
def idle : Loop := { loop with round.pairInFlight := false }

/-- What follows the polling of all processes. -/
def finishPolling : Loop :=
  if loop.pairs = [] then
    match loop.failure with
    | some error => loop.idle.giveUp error
    | none => loop.idle.goTo .cancelCheck
  else loop.goTo .cancelCheck

/-- On to the next process, if there is one. -/
def pollFrom (index : Nat) : Loop :=
  if index < loop.pairs.length then loop.goTo (.polling index) else loop.finishPolling

/-- On to the next service whose endpoint has no process yet. -/
def spawnNext : List MdnsService → Loop
  | [] => loop.pollFrom 0
  | service :: rest =>
      if service.endpoint ∈ loop.spawned then spawnNext rest else loop.goTo (.spawning service rest)

/-- No service is there any more: it is lost once one was there. -/
def lose : Loop :=
  if loop.spawned ≠ [] ∧ ¬ loop.serviceLost then
    { loop with
      serviceLost := true
      round := (loop.round.observeForRound loop.roundId .serviceLost).2 }
  else loop

def push (endpoint : Text) (started : Nat) : Loop :=
  let process : Process := ⟨loop.started.length, endpoint, started⟩
  { loop with
    pairs := loop.pairs ++ [process]
    spawned := loop.spawned ++ [endpoint]
    round.pairInFlight := true
    started := loop.started ++ [process] }

/-- The process is taken out, for a failure of its own. -/
def remove (index : Nat) (error : WirelessError) : Loop :=
  { loop with
    pairs := loop.pairs.eraseIdx index
    pairTimedOut := loop.pairTimedOut || error = .timedOut
    failure := some (loop.failure.getD error) }

def recordPoll (process : Process) (finished : Bool) : Loop :=
  { loop with polls := (process.number, finished) :: loop.polls }

/-- One step of the loop. -/
def advance (loop : Loop) (input : Input) : Option Loop :=
  match loop.phase, input with
  | .cancelCheck, .cancelled now =>
      some (loop.goTo (if now then .returned .cancelled (.error .cancelled) else .deadlineCheck))
  | .deadlineCheck, .time now =>
      some (loop.goTo
        (if loop.deadline ≤ now then .returned .timeout (.error .roundTimedOut) else .querying))
  | .querying, .answered answer =>
      match adbMdnsServices answer with
      | .error error =>
          -- A query that fails does not end the round while a process is in flight.
          if loop.pairs ≠ [] then some ((loop.fail error).pollFrom 0)
          else some (loop.giveUp (loop.failure.getD error))
      | .ok found =>
          match findPairingServices found loop.secret.serviceName with
          | [] => some (loop.lose.pollFrom 0)
          | service :: rest => some (loop.spawnNext (service :: rest))
  | .spawning service rest, .spawned (.ok started) =>
      some ((loop.push service.endpoint started).spawnNext rest)
  | .spawning _ _, .spawned (.error failure) =>
      if loop.pairs ≠ [] then some ((loop.fail failure.error).pollFrom 0)
      else some (loop.giveUp (loop.failure.getD failure.error))
  | .polling index, .child report =>
      match loop.pairs[index]? with
      | none => none
      | some process =>
          match judge loop.secret.password (process.poll report) with
          | .running => some ((loop.recordPoll process false).pollFrom (index + 1))
          | .succeeded guid =>
              some ((loop.recordPoll process true).goTo
                (.returned (.pairSucceeded guid) (.ok guid)))
          | .failed error =>
              some (((loop.recordPoll process true).remove index error).pollFrom index)
  | _, _ => none

/-- What a step can do, one constructor a kind of step. -/
inductive Step (loop : Loop) : Input → Loop → Prop
  | cancel :
      Step loop (.cancelled true) (loop.goTo (.returned .cancelled (.error .cancelled)))
  | expire (now) :
      Step loop (.time now) (loop.goTo (.returned .timeout (.error .roundTimedOut)))
  | turn (input phase) (plain : phase = .deadlineCheck ∨ phase = .querying) :
      Step loop input (loop.goTo phase)
  | queryPostponed (answer error) (failed : adbMdnsServices answer = .error error)
      (inFlight : loop.pairs ≠ []) :
      Step loop (.answered answer) ((loop.fail error).pollFrom 0)
  | queryFailed (answer error) (phase : loop.phase = .querying)
      (failed : adbMdnsServices answer = .error error) (gone : loop.pairs = []) :
      Step loop (.answered answer) (loop.giveUp (loop.failure.getD error))
  | lose (answer) : Step loop (.answered answer) (loop.lose.pollFrom 0)
  | find (answer services) : Step loop (.answered answer) (loop.spawnNext services)
  | spawn (service rest started) (phase : loop.phase = .spawning service rest) :
      Step loop (.spawned (.ok started)) ((loop.push service.endpoint started).spawnNext rest)
  | spawnPostponed (failure) (inFlight : loop.pairs ≠ []) :
      Step loop (.spawned (.error failure)) ((loop.fail failure.error).pollFrom 0)
  | spawnFailed (failure) (gone : loop.pairs = []) :
      Step loop (.spawned (.error failure)) (loop.giveUp (loop.failure.getD failure.error))
  | wait (index : Nat) (process report) (here : loop.pairs[index]? = some process) :
      Step loop (.child report) ((loop.recordPoll process false).pollFrom (index + 1))
  | succeed (index : Nat) (process report guid) (here : loop.pairs[index]? = some process)
      (judged : judge loop.secret.password (process.poll report) = .succeeded guid) :
      Step loop (.child report)
        ((loop.recordPoll process true).goTo (.returned (.pairSucceeded guid) (.ok guid)))
  | remove (index : Nat) (process report error) (phase : loop.phase = .polling index)
      (here : loop.pairs[index]? = some process)
      (judged : judge loop.secret.password (process.poll report) = .failed error) :
      Step loop (.child report) (((loop.recordPoll process true).remove index error).pollFrom index)

theorem Step.of_advance {loop next : Loop} {input : Input} (h : loop.advance input = some next) :
    Step loop input next := by
  unfold Loop.advance at h
  split at h
  · cases h
    split
    · rename_i now
      subst now
      exact .cancel
    · exact .turn _ _ (.inl rfl)
  · cases h
    split
    · exact .expire _
    · exact .turn _ _ (.inr rfl)
  · split at h
    · rename_i failed
      split at h
      · cases h
        exact .queryPostponed _ _ failed ‹_›
      · cases h
        exact .queryFailed _ _ ‹_› failed (not_not.mp ‹_›)
    · split at h
      · cases h
        exact .lose _
      · cases h
        exact .find _ _
  · cases h
    exact .spawn _ _ _ ‹_›
  · split at h
    · cases h
      exact .spawnPostponed _ ‹_›
    · cases h
      exact .spawnFailed _ (not_not.mp ‹_›)
  · split at h
    · cases h
    · split at h
      · cases h
        exact .wait _ _ _ ‹_›
      · cases h
        exact .succeed _ _ _ _ ‹_› ‹_›
      · cases h
        exact .remove _ _ _ _ ‹_› ‹_› ‹_›
  · cases h

theorem advance_of_returned {loop : Loop} {input : Input} (returned : loop.phase.isReturned = true) :
    loop.advance input = none := by
  unfold Loop.advance
  cases phase : loop.phase with
  | returned => rfl
  | _ =>
      rw [phase] at returned
      cases returned

end Loop

end QuadControl.Android.Wireless
