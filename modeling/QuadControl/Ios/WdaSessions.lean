import Mathlib.Data.List.Nodup
import QuadControl.Ios.Wda

/-! # Recreating the session

Any number of clones may be told that their session is gone. The lock and the
comparison under it let one of them replace it: an id is replaced once, a call is
sent twice at most, and the ids are stored in the order the device created them.
What the lock does not give is the settings: the new id is stored before they are
replayed, and stays when the replay fails.
-/

namespace QuadControl.Ios.Wda

open Lib Lib.Interleaving

variable {Session Element : Type}

theorem Answer.whenLocked_quiet (answer : Answer Element) {locked unlocked : Call Session Element}
    (whenLocked : locked.quiet = true) (whenUnlocked : unlocked.quiet = true) :
    (answer.whenLocked locked unlocked).quiet = true := by
  unfold Answer.whenLocked
  split
  · rfl
  · exact whenLocked
  · exact whenUnlocked

/-- A session call ends its method, or leads to the next one, or to an element. -/
theorem Task.proceed_quiet (task : Task) (source : Session) (answer : Answer Element) :
    (task.proceed source answer).quiet = true ∨
      ∃ text element, task = .activeElement text ∧ answer.element = some element ∧
        task.proceed source answer = .holding text element source := by
  cases task with
  | activeElement text =>
      cases element : answer.element with
      | none => simp [Task.proceed, element, failed, Call.quiet]
      | some e => exact .inr ⟨text, e, rfl, rfl, by simp [Task.proceed, element]⟩
  | windowSize =>
      left
      simp only [Task.proceed]
      split <;> rfl
  | activeApp =>
      left
      simp only [Task.proceed]
      split <;> rfl
  | home | command | settings => exact .inl rfl
  | locked | beforeCommand | beforeWake | unlockFailed | unlocked | beforeText =>
      exact .inl (answer.whenLocked_quiet rfl rfl)

theorem Method.start_quiet (method : Method) :
    (method.start : Call Session Element).quiet = true := by
  unfold Method.start
  split <;> rfl

theorem Call.recreating_of_quiet {call : Call Session Element} (quiet : call.quiet = true) :
    call.recreating = none := by
  cases call <;> first | rfl | cases quiet

/-- The shared state is changed by the holder of the lock, by the one who takes it,
    and where settings are recorded. -/
theorem Step.effect {me : Nat} {shared shared' : Shared Session}
    {own own' : Local Session Element} {action : Action Session Element}
    (step : Step me shared own action shared' own') :
    (∃ stale, own.call.recreating = some stale) ∨ shared' = shared ∨
      (∃ method, shared' = shared.record method) ∨
      (shared.client.recreateLock = none ∧ shared' = shared.withLock (some me)) := by
  cases step with
  | begin => exact .inr (.inr (.inl ⟨_, rfl⟩))
  | lock _ _ _ free => exact .inr (.inr (.inr ⟨free, rfl⟩))
  | orphaned _ stale _ _ recreating => exact .inl ⟨stale, recreating⟩
  | replaced | post | mint | store | unrecorded | recorded | unstored | unstoredRecorded
  | configure | configured | postFailed | replayFailed => exact .inl ⟨_, rfl⟩
  | ask | answered | invalid | retry | reanswered | type | confirm | quiet => exact .inr (.inl rfl)

@[simp] theorem Shared.record_sessionId (shared : Shared Session) (method : Method) :
    (shared.record method).client.sessionId = shared.client.sessionId := by
  cases method <;> rfl

@[simp] theorem Shared.record_recreateLock (shared : Shared Session) (method : Method) :
    (shared.record method).client.recreateLock = shared.client.recreateLock := by
  cases method <;> rfl

@[simp] theorem Shared.record_ledger (shared : Shared Session) (method : Method) :
    (shared.record method).ledger = shared.ledger := rfl

/-- While another clone holds the lock, a step leaves all but the recorded settings. -/
theorem Step.beside {me i : Nat} {shared shared' : Shared Session}
    {own own' : Local Session Element} {action : Action Session Element}
    (step : Step me shared own action shared' own') (different : i ≠ me)
    (locked : shared.client.recreateLock = some i)
    (holds : ∀ stale, own.call.recreating = some stale → shared.client.recreateLock = some me) :
    shared' = shared ∨ ∃ method, shared' = shared.record method := by
  rcases step.effect with ⟨stale, hold⟩ | same | recorded | ⟨free, -⟩
  · exact absurd (Option.some.inj (locked.symm.trans (holds stale hold))) different
  · exact .inl same
  · exact .inr recorded
  · rw [free] at locked
    cases locked

/-! ### One recreation at a time -/

/-- The session ids of the ledger, while the lock is free. -/
def Settled (ledger : Ledger Session) : Prop :=
  ledger.minted = ledger.stored ∧ ledger.posts = ledger.stored.tail

/-- What holds of the shared state when ids are fresh. -/
structure Serial (shared : Shared Session) : Prop where
  fresh : shared.ledger.minted.Nodup
  current : shared.client.sessionId = shared.ledger.stored.head?
  ordered : shared.ledger.stored.Sublist shared.ledger.minted
  posted : shared.ledger.posts = shared.ledger.stored.tail ∨ shared.ledger.posts = shared.ledger.stored
  returned : ∀ stale ∈ shared.ledger.returned, stale ∈ shared.ledger.stored.tail
  settled : shared.client.recreateLock = none → Settled shared.ledger

/-- What holds where a clone stands. -/
def Standing (me : Nat) (shared : Shared Session) (own : Local Session Element) : Prop :=
  match own.call with
  | .asking _ session => own.attempts = [session] ∧ session ∈ shared.ledger.stored
  | .blocked _ stale => own.attempts = [stale] ∧ stale ∈ shared.ledger.stored
  | .comparing _ stale =>
      shared.client.recreateLock = some me ∧ own.attempts = [stale] ∧
        stale ∈ shared.ledger.stored ∧ Settled shared.ledger
  | .creating _ stale =>
      shared.client.recreateLock = some me ∧ own.attempts = [stale] ∧
        shared.ledger.stored.head? = some stale ∧ shared.ledger.minted = shared.ledger.stored ∧
        shared.ledger.posts = shared.ledger.stored
  | .storing _ stale id =>
      shared.client.recreateLock = some me ∧ own.attempts = [stale] ∧
        shared.ledger.stored.head? = some stale ∧
        shared.ledger.minted = id :: shared.ledger.stored ∧
        shared.ledger.posts = shared.ledger.stored
  | .created _ stale | .replaying _ stale _ | .configuring _ stale _ _ =>
      shared.client.recreateLock = some me ∧ own.attempts = [stale] ∧
        stale ∈ shared.ledger.stored.tail ∧ Settled shared.ledger
  | .retrying _ stale => own.attempts = [stale] ∧ stale ∈ shared.ledger.stored.tail
  | .reasking _ stale session =>
      own.attempts = [session, stale] ∧ session ≠ stale ∧ stale ∈ shared.ledger.stored.tail
  | _ => True

/-- What the latest session call of a clone has sent: nothing, one request, or a
    second one to another session, the first of which has been replaced. -/
def Attempts (stored attempts : List Session) : Prop :=
  attempts.length ≤ 2 ∧
    ∀ stale session, attempts = [session, stale] → session ≠ stale ∧ stale ∈ stored.tail

/-- `POST /session` succeeds, with an id that has not been seen before. -/
def MintsFresh (minted : List Session) : Action Session Element → Prop
  | .mint (.ok (some id)) => id ∉ minted
  | .mint _ => False
  | _ => True

instance [DecidableEq Session] (minted : List Session) (action : Action Session Element) :
    Decidable (MintsFresh minted action) :=
  match action with
  | .mint (.ok (some id)) => inferInstanceAs (Decidable (id ∉ minted))
  | .mint (.ok none) | .mint (.error _) => inferInstanceAs (Decidable False)
  | .begin _ | .go | .answer _ | .expire => inferInstanceAs (Decidable True)

def FreshIds (pool : Pool (Shared Session) (Local Session Element))
    (event : Event (Action Session Element)) : Prop :=
  MintsFresh pool.shared.ledger.minted event.2

instance [DecidableEq Session] (pool : Pool (Shared Session) (Local Session Element))
    (event : Event (Action Session Element)) : Decidable (FreshIds pool event) :=
  inferInstanceAs (Decidable (MintsFresh pool.shared.ledger.minted event.2))

theorem Standing.of_quiet {me : Nat} {shared : Shared Session} {call : Call Session Element}
    (quiet : call.quiet = true) (tried : List Session) : Standing me shared ⟨call, tried⟩ := by
  cases call <;> trivial

theorem Standing.of_proceed {me : Nat} {shared : Shared Session} (task : Task) (source : Session)
    (answer : Answer Element) (tried : List Session) :
    Standing me shared ⟨task.proceed source answer, tried⟩ := by
  rcases task.proceed_quiet source answer with quiet | ⟨text, element, -, -, holding⟩
  · exact .of_quiet quiet tried
  · rw [holding]
    trivial

/-- The lock is held for an id that has been the client's. -/
theorem Standing.recreating {me : Nat} {shared : Shared Session} {own : Local Session Element}
    {stale : Session} (standing : Standing me shared own)
    (recreating : own.call.recreating = some stale) :
    shared.client.recreateLock = some me ∧ stale ∈ shared.ledger.stored := by
  obtain ⟨call, tried⟩ := own
  cases call with
  | comparing =>
      obtain rfl := Option.some.inj recreating
      exact ⟨standing.1, standing.2.2.1⟩
  | creating | storing =>
      obtain rfl := Option.some.inj recreating
      exact ⟨standing.1, List.mem_of_mem_head? standing.2.2.1⟩
  | created | replaying | configuring =>
      obtain rfl := Option.some.inj recreating
      exact ⟨standing.1, List.mem_of_mem_tail standing.2.2.1⟩
  | _ => cases recreating

/-- Where recreation returns, the replaced id is no longer the latest. -/
theorem Serial.leave {shared : Shared Session} (whole : Serial shared) {stale : Session}
    (replaced : stale ∈ shared.ledger.stored.tail) (settled : Settled shared.ledger) :
    Serial (shared.leave stale) where
  fresh := whole.fresh
  current := whole.current
  ordered := whole.ordered
  posted := whole.posted
  returned := by
    intro s inside
    rcases List.mem_cons.mp inside with rfl | inside
    · exact replaced
    · exact whole.returned s inside
  settled := fun _ => settled

theorem Serial.own {me : Nat} {shared shared' : Shared Session}
    {own own' : Local Session Element} {action : Action Session Element}
    (step : Step me shared own action shared' own')
    (fresh : MintsFresh shared.ledger.minted action)
    (whole : Serial shared) (standing : Standing me shared own)
    (attempts : Attempts shared.ledger.stored own.attempts) :
    Serial shared' ∧ Standing me shared' own' ∧ Attempts shared'.ledger.stored own'.attempts := by
  cases step with
  | begin last tried method =>
      exact ⟨⟨whole.fresh, by simpa using whole.current, whole.ordered, whole.posted,
        whole.returned, by simpa using whole.settled⟩, .of_quiet method.start_quiet tried, attempts⟩
  | ask task tried session current =>
      have inside : session ∈ shared.ledger.stored :=
        List.mem_of_mem_head? (whole.current ▸ current)
      exact ⟨whole, ⟨rfl, inside⟩, by simp [Attempts]⟩
  | answered task session answer tried =>
      exact ⟨whole, .of_proceed task session answer tried, attempts⟩
  | invalid => exact ⟨whole, standing, attempts⟩
  | lock task stale tried free =>
      obtain ⟨tries, inside⟩ := standing
      exact ⟨⟨whole.fresh, whole.current, whole.ordered, whole.posted, whole.returned,
        fun impossible => by cases impossible⟩, ⟨rfl, tries, inside, whole.settled free⟩, attempts⟩
  | replaced task stale session tried current other =>
      obtain ⟨-, tries, inside, settled⟩ := standing
      have replaced : stale ∈ shared.ledger.stored.tail := by
        have head := whole.current.symm.trans current
        cases stored : shared.ledger.stored with
        | nil => simp [stored] at inside
        | cons first rest =>
            simp only [stored, List.head?_cons, Option.some.injEq] at head
            rw [stored, head] at inside
            exact (List.mem_cons.mp inside).resolve_left (Ne.symm other)
      exact ⟨whole.leave replaced settled, ⟨tries, replaced⟩, attempts⟩
  | post task stale tried current =>
      obtain ⟨locked, tries, -, same, posts⟩ := standing
      have head := whole.current.symm.trans current
      have posted : stale :: shared.ledger.posts = shared.ledger.stored := by
        rw [posts]
        exact List.cons_head?_tail head
      exact ⟨⟨whole.fresh, whole.current, whole.ordered, .inr posted, whole.returned,
        fun free => by simp [Shared.post, locked] at free⟩, ⟨locked, tries, head, same, posted⟩,
        attempts⟩
  | mint task stale id tried =>
      obtain ⟨locked, tries, head, same, posts⟩ := standing
      refine ⟨⟨List.nodup_cons.mpr ⟨fresh, whole.fresh⟩, whole.current, whole.ordered.cons id,
        whole.posted, whole.returned, fun free => by simp [Shared.mint, locked] at free⟩,
        ⟨locked, tries, head, ?_, posts⟩, attempts⟩
      exact congrArg (List.cons id) same
  | store task stale id tried =>
      obtain ⟨locked, tries, head, same, posts⟩ := standing
      have inside : stale ∈ shared.ledger.stored := List.mem_of_mem_head? head
      refine ⟨⟨whole.fresh, rfl, ?_, .inl posts, fun s returned => ?_,
        fun free => by simp [Shared.store, locked] at free⟩, ⟨locked, tries, inside, same, posts⟩,
        attempts.1, fun old session sent => ?_⟩
      · exact same ▸ List.Sublist.refl _
      · exact List.mem_of_mem_tail (whole.returned s returned)
      · obtain ⟨other, replaced⟩ := attempts.2 old session sent
        exact ⟨other, List.mem_of_mem_tail replaced⟩
  | unrecorded task stale session tried =>
      obtain ⟨-, tries, replaced, settled⟩ := standing
      have same : Serial (shared.replay session) :=
        ⟨whole.fresh, whole.current, whole.ordered, whole.posted, whole.returned, whole.settled⟩
      exact ⟨same.leave replaced settled, ⟨tries, replaced⟩, attempts⟩
  | recorded task stale session settings tried =>
      exact ⟨⟨whole.fresh, whole.current, whole.ordered, whole.posted, whole.returned,
        whole.settled⟩, standing, attempts⟩
  | unstored task stale tried current =>
      obtain ⟨-, tries, replaced, settled⟩ := standing
      exact ⟨whole.leave replaced settled, ⟨tries, replaced⟩, attempts⟩
  | unstoredRecorded => exact ⟨whole, standing, attempts⟩
  | configure => exact ⟨whole, standing, attempts⟩
  | configured task stale session settings answer tried =>
      obtain ⟨-, tries, replaced, settled⟩ := standing
      have same : Serial (shared.apply session settings) :=
        ⟨whole.fresh, whole.current, whole.ordered, whole.posted, whole.returned, whole.settled⟩
      exact ⟨same.leave replaced settled, ⟨tries, replaced⟩, attempts⟩
  | postFailed task stale response tried error idless =>
      match response, idless with
      | .ok (some id), idless => exact absurd rfl (idless id)
  | replayFailed task stale session settings message tried =>
      obtain ⟨-, tries, replaced, settled⟩ := standing
      exact ⟨whole.leave replaced settled, trivial, attempts⟩
  | orphaned call stale tried error recreating current =>
      have none : shared.ledger.stored.head? = none := whole.current.symm.trans current
      have inside := (standing.recreating recreating).2
      rw [List.head?_eq_none_iff.mp none] at inside
      cases inside
  | retry task stale session tried current =>
      obtain ⟨tries, replaced⟩ := standing
      have head : shared.ledger.stored.head? = some session := whole.current.symm.trans current
      have distinct : session ≠ stale := by
        rintro rfl
        have once := whole.ordered.nodup whole.fresh
        rw [← List.cons_head?_tail head] at once
        exact (List.nodup_cons.mp once).1 replaced
      obtain rfl : tried = [stale] := tries
      refine ⟨whole, ⟨rfl, distinct, replaced⟩, by simp, fun old latest sent => ?_⟩
      obtain ⟨rfl, rfl⟩ : session = latest ∧ stale = old := by simpa using sent
      exact ⟨distinct, replaced⟩
  | reanswered task stale session answer tried =>
      exact ⟨whole, .of_proceed task session answer tried, attempts⟩
  | type => exact ⟨whole, trivial, attempts⟩
  | confirm => exact ⟨whole, trivial, attempts⟩
  | quiet call next tried action free quiet => exact ⟨whole, .of_quiet quiet tried, attempts⟩

/-- A clone without the lock keeps its standing while ids are added. -/
theorem Standing.grow {i : Nat} {shared shared' : Shared Session} {own : Local Session Element}
    (standing : Standing i shared own) (free : own.call.recreating = none)
    (stored : shared.ledger.stored ⊆ shared'.ledger.stored)
    (replaced : shared.ledger.stored.tail ⊆ shared'.ledger.stored.tail) :
    Standing i shared' own := by
  obtain ⟨call, tried⟩ := own
  cases call with
  | asking | blocked => exact ⟨standing.1, stored standing.2⟩
  | retrying => exact ⟨standing.1, replaced standing.2⟩
  | reasking => exact ⟨standing.1, standing.2.1, replaced standing.2.2⟩
  | comparing | creating | storing | created | replaying | configuring => cases free
  | _ => trivial

/-- Ids are only added, at the front. -/
theorem Step.stored {me : Nat} {shared shared' : Shared Session}
    {own own' : Local Session Element} {action : Action Session Element}
    (step : Step me shared own action shared' own') :
    shared'.ledger.stored = shared.ledger.stored ∨
      ∃ id, shared'.ledger.stored = id :: shared.ledger.stored := by
  cases step with
  | store _ _ id => exact .inr ⟨id, rfl⟩
  | _ => exact .inl rfl

theorem Step.stored_subset {me : Nat} {shared shared' : Shared Session}
    {own own' : Local Session Element} {action : Action Session Element}
    (step : Step me shared own action shared' own') :
    shared.ledger.stored ⊆ shared'.ledger.stored ∧
      shared.ledger.stored.tail ⊆ shared'.ledger.stored.tail := by
  rcases step.stored with same | ⟨id, added⟩
  · simp [same]
  · rw [added]
    exact ⟨List.subset_cons_self id _, List.tail_subset _⟩

/-- What a step of one clone leaves to another. -/
theorem Standing.other {me i : Nat} {shared shared' : Shared Session}
    {own own' theirs : Local Session Element} {action : Action Session Element}
    (step : Step me shared own action shared' own') (different : i ≠ me)
    (standing : Standing me shared own) (theirStanding : Standing i shared theirs) :
    Standing i shared' theirs := by
  obtain ⟨stored, replaced⟩ := step.stored_subset
  cases theirHold : theirs.call.recreating with
  | none => exact theirStanding.grow theirHold stored replaced
  | some stale =>
      rcases step.beside different (theirStanding.recreating theirHold).1
        (fun _ hold => (standing.recreating hold).1) with rfl | ⟨method, rfl⟩
      · exact theirStanding
      · simpa only [Standing, Shared.record_recreateLock, Shared.record_ledger] using theirStanding

/-- The invariant of all runs whose new ids are fresh. -/
abbrev Flight (pool : Pool (Shared Session) (Local Session Element)) : Prop :=
  Everywhere Serial
    (fun i shared own => Standing i shared own ∧ Attempts shared.ledger.stored own.attempts) pool

theorem Flight.initial (sessionId : Option Session) (mjpeg : Option Settings) :
    Flight (Wda.initial sessionId mjpeg : Pool (Shared Session) (Local Session Element)) := by
  cases sessionId with
  | none => exact ⟨⟨by simp [Wda.initial], rfl, .refl _, .inl rfl, by simp [Wda.initial],
      fun _ => ⟨rfl, rfl⟩⟩, fun _ => ⟨trivial, by simp [Attempts, Wda.initial]⟩⟩
  | some session => exact ⟨⟨by simp [Wda.initial], rfl, .refl _, .inl rfl, by simp [Wda.initial],
      fun _ => ⟨rfl, rfl⟩⟩, fun _ => ⟨trivial, by simp [Attempts, Wda.initial]⟩⟩

section SingleFlight

variable [DecidableEq Session]

/-- Single flight: an id is replaced by one `POST /session`, and has been when its
    recreation returns; a call is sent twice at most, the second time to another
    session; the ids are stored in the order of their creation, and the latest counts. -/
structure SingleFlight (pool : Pool (Shared Session) (Local Session Element)) : Prop where
  once : pool.shared.ledger.posts.Nodup
  replaced : ∀ stale ∈ pool.shared.ledger.returned, pool.shared.ledger.posts.count stale = 1
  retried : ∀ i, (pool.threads i).attempts.length ≤ 2 ∧
    ∀ stale session, (pool.threads i).attempts = [session, stale] →
      session ≠ stale ∧ pool.shared.ledger.posts.count stale = 1
  ordered : pool.shared.ledger.stored.Sublist pool.shared.ledger.minted
  latest : pool.shared.client.sessionId = pool.shared.ledger.stored.head?

theorem Flight.step {pool next : Pool (Shared Session) (Local Session Element)}
    {event : Event (Action Session Element)} (flight : Flight pool) (fresh : FreshIds pool event)
    (stepped : Interleaving.step advance pool event = some next) : Flight next := by
  refine Everywhere.step flight stepped (fun shared own acted => ?_)
    (fun shared own i acted different theirs => ?_)
  · obtain ⟨standing, attempts⟩ := flight.2 event.1
    exact flight.1.own (.of_advance acted) fresh standing attempts
  · have step := Step.of_advance acted
    refine ⟨.other step different (flight.2 event.1).1 theirs.1, theirs.2.1,
      fun stale session sent => ?_⟩
    obtain ⟨other, replaced⟩ := theirs.2.2 stale session sent
    exact ⟨other, step.stored_subset.2 replaced⟩

theorem Flight.singleFlight {pool : Pool (Shared Session) (Local Session Element)}
    (flight : Flight pool) : SingleFlight pool := by
  have whole := flight.1
  have once : pool.shared.ledger.posts.Nodup := by
    have stored := whole.ordered.nodup whole.fresh
    rcases whole.posted with posts | posts
    · exact posts ▸ stored.tail
    · exact posts ▸ stored
  have counted : ∀ stale ∈ pool.shared.ledger.stored.tail,
      pool.shared.ledger.posts.count stale = 1 := by
    intro stale replaced
    apply List.count_eq_one_of_mem once
    rcases whole.posted with posts | posts
    · exact posts ▸ replaced
    · exact posts ▸ List.mem_of_mem_tail replaced
  refine ⟨once, fun stale returned => counted stale (whole.returned stale returned), fun i => ?_,
    whole.ordered, whole.current⟩
  obtain ⟨few, again⟩ := (flight.2 i).2
  exact ⟨few, fun stale session sent =>
    ⟨(again stale session sent).1, counted stale (again stale session sent).2⟩⟩

/-- Recreation is single-flight in every run whose new ids are fresh. -/
theorem recreation_singleFlight (sessionId : Option Session) (mjpeg : Option Settings)
    (events : List (Event (Action Session Element)))
    (final : Pool (Shared Session) (Local Session Element))
    (fresh : Meets advance FreshIds (initial sessionId mjpeg) events)
    (ran : run advance (initial sessionId mjpeg) events = some final) : SingleFlight final :=
  Flight.singleFlight (run_invariant (fun _ _ _ flight fresh stepped => flight.step fresh stepped)
    (Flight.initial sessionId mjpeg) fresh ran)

/-- What a session call is told when its session is gone. -/
def invalidSession : Text := "WDA /session/0 returned 404: invalid session id".toList

/-- Two clones are told so at once; the first replaces session 0 by session 1. -/
def twoClones : List (Event (Action Nat Nat)) :=
  [(0, .begin .home), (1, .begin .home), (0, .go), (1, .go),
    (0, .answer (.error invalidSession)), (1, .answer (.error invalidSession)),
    (0, .go), (0, .go), (0, .mint (.ok (some 1))), (0, .go), (0, .go),
    (1, .go), (1, .go), (0, .go), (1, .go)]

theorem recreation_singleFlight_twoClones :
    ∃ final, run advance (initial (some 0) none) twoClones = some final ∧ SingleFlight final :=
  ⟨_, rfl, recreation_singleFlight (some 0) none twoClones _ (by decide) rfl⟩

end SingleFlight

/-! ### The settings of a recreated session -/

/-- The session is the one the client started with, or a recreation has found out
    what was recorded and put it into effect there. -/
def Kept (start : Option Session) (shared : Shared Session) : Prop :=
  ∀ session, shared.client.sessionId = some session →
    some session = start ∨ ∃ recorded, (session, recorded) ∈ shared.ledger.replays ∧
      ∀ settings, recorded = some settings → (session, settings) ∈ shared.ledger.applied

/-- What a recreation has done so far for the settings. -/
def Replaying (start : Option Session) (me : Nat) (shared : Shared Session)
    (own : Local Session Element) : Prop :=
  match own.call with
  | .comparing _ _ | .creating _ _ | .storing _ _ _ =>
      shared.client.recreateLock = some me ∧ Kept start shared
  | .created _ _ => shared.client.recreateLock = some me
  | .replaying _ _ settings =>
      shared.client.recreateLock = some me ∧
        ∀ session, shared.client.sessionId = some session →
          (session, some settings) ∈ shared.ledger.replays
  | .configuring _ _ session settings =>
      shared.client.recreateLock = some me ∧ shared.client.sessionId = some session ∧
        (session, some settings) ∈ shared.ledger.replays
  | _ => True

/-- No request that replays settings fails. -/
def ReplaySucceeds : Call Session Element → Action Session Element → Prop
  | .configuring _ _ _ _, .answer (.error _) => False
  | _, _ => True

theorem Replaying.recreating {start : Option Session} {me : Nat} {shared : Shared Session}
    {own : Local Session Element} {stale : Session} (replaying : Replaying start me shared own)
    (recreating : own.call.recreating = some stale) : shared.client.recreateLock = some me := by
  obtain ⟨call, tried⟩ := own
  cases call with
  | comparing | creating | storing | replaying | configuring => exact replaying.1
  | created => exact replaying
  | _ => cases recreating

theorem Replaying.of_free {start : Option Session} {me : Nat} {shared : Shared Session}
    {own : Local Session Element} (free : own.call.recreating = none) :
    Replaying start me shared own := by
  obtain ⟨call, tried⟩ := own
  cases call with
  | comparing | creating | storing | created | replaying | configuring => cases free
  | _ => trivial

theorem Task.proceed_free (task : Task) (source : Session) (answer : Answer Element) :
    (task.proceed source answer).recreating = none := by
  rcases task.proceed_quiet source answer with quiet | ⟨text, element, -, -, holding⟩
  · exact Call.recreating_of_quiet quiet
  · rw [holding]
    rfl

theorem Replaying.own {start : Option Session} {me : Nat} {shared shared' : Shared Session}
    {own own' : Local Session Element} {action : Action Session Element}
    (step : Step me shared own action shared' own') (succeeds : ReplaySucceeds own.call action)
    (whole : shared.client.recreateLock = none → Kept start shared)
    (replaying : Replaying start me shared own) :
    (shared'.client.recreateLock = none → Kept start shared') ∧ Replaying start me shared' own' := by
  cases step with
  | begin last tried method =>
      refine ⟨?_, .of_free (Call.recreating_of_quiet method.start_quiet)⟩
      simpa [Kept] using whole
  | ask | invalid | retry | type | confirm => exact ⟨whole, trivial⟩
  | answered task session answer | reanswered task stale session answer =>
      exact ⟨whole, .of_free (task.proceed_free session answer)⟩
  | lock task stale tried free =>
      exact ⟨fun impossible => (by cases impossible), rfl, whole free⟩
  | replaced => exact ⟨fun _ => replaying.2, trivial⟩
  | post => exact ⟨fun free => whole free, replaying⟩
  | mint => exact ⟨fun free => whole free, replaying⟩
  | store =>
      refine ⟨fun free => ?_, replaying.1⟩
      cases replaying.1.symm.trans free
  | unrecorded task stale session tried current recorded =>
      refine ⟨fun _ latest same => .inr ⟨none, ?_, by simp⟩, trivial⟩
      obtain rfl := Option.some.inj (current.symm.trans same)
      simp [Shared.leave, Shared.replay, recorded]
  | recorded task stale session settings tried current recorded =>
      refine ⟨fun free => ?_, replaying, fun latest same => ?_⟩
      · cases replaying.symm.trans free
      · obtain rfl := Option.some.inj (current.symm.trans same)
        simp [Shared.replay, recorded]
  | unstored task stale tried current =>
      refine ⟨fun _ latest same => ?_, trivial⟩
      cases current.symm.trans same
  | unstoredRecorded task stale settings tried current =>
      refine ⟨whole, replaying, fun latest same => ?_⟩
      cases current.symm.trans same
  | configure task stale session settings tried current =>
      exact ⟨whole, replaying.1, current, replaying.2 session current⟩
  | configured task stale session settings answer tried =>
      obtain ⟨-, current, replayed⟩ := replaying
      refine ⟨fun _ latest same => .inr ⟨some settings, ?_, ?_⟩, trivial⟩
      · obtain rfl := Option.some.inj (current.symm.trans same)
        exact replayed
      · rintro applied ⟨rfl⟩
        obtain rfl := Option.some.inj (current.symm.trans same)
        simp [Shared.leave, Shared.apply]
  | postFailed => exact ⟨fun _ => replaying.2, trivial⟩
  | replayFailed => exact succeeds.elim
  | orphaned call stale tried error recreating current =>
      refine ⟨fun _ latest same => ?_, trivial⟩
      cases current.symm.trans same
  | quiet call next tried action free quiet =>
      exact ⟨whole, .of_free (Call.recreating_of_quiet quiet)⟩

/-- While nobody recreates the session, it has its settings. -/
def SettingsKept (start : Option Session) (pool : Pool (Shared Session) (Local Session Element)) :
    Prop :=
  pool.shared.client.recreateLock = none → Kept start pool.shared

def ReplaysSucceed (pool : Pool (Shared Session) (Local Session Element))
    (event : Event (Action Session Element)) : Prop :=
  ReplaySucceeds (pool.threads event.1).call event.2

theorem Replaying.step [DecidableEq Session] {start : Option Session}
    {pool next : Pool (Shared Session) (Local Session Element)}
    {event : Event (Action Session Element)}
    (invariant : Everywhere (fun shared => shared.client.recreateLock = none → Kept start shared)
      (Replaying start) pool)
    (succeeds : ReplaysSucceed pool event)
    (stepped : Interleaving.step advance pool event = some next) :
    Everywhere (fun shared => shared.client.recreateLock = none → Kept start shared)
      (Replaying start) next := by
  refine Everywhere.step invariant stepped (fun shared own acted => ?_)
    (fun shared own i acted different theirs => ?_)
  · exact Replaying.own (.of_advance acted) succeeds invariant.1 (invariant.2 event.1)
  · cases theirHold : (pool.threads i).call.recreating with
    | none => exact .of_free theirHold
    | some stale =>
        rcases (Step.of_advance acted).beside different (theirs.recreating theirHold)
          (fun _ hold => (invariant.2 event.1).recreating hold) with rfl | ⟨method, rfl⟩
        · exact theirs
        · simpa only [Replaying, Kept, Shared.record_recreateLock, Shared.record_sessionId,
            Shared.record_ledger] using theirs

/-- In every run in which no replay of the settings fails, a session that recreation
    has stored has the settings by the time recreation returns. -/
theorem recreation_settingsKept [DecidableEq Session] (sessionId : Option Session)
    (mjpeg : Option Settings) (events : List (Event (Action Session Element)))
    (final : Pool (Shared Session) (Local Session Element))
    (succeed : Meets advance ReplaysSucceed (initial sessionId mjpeg) events)
    (ran : run advance (initial sessionId mjpeg) events = some final) :
    SettingsKept sessionId final := by
  have start : Everywhere (fun shared => shared.client.recreateLock = none → Kept sessionId shared)
      (Replaying sessionId)
      (initial sessionId mjpeg : Pool (Shared Session) (Local Session Element)) :=
    ⟨fun _ _ same => .inl same.symm, fun _ => trivial⟩
  exact (run_invariant (fun _ _ _ invariant succeeds stepped =>
    Replaying.step invariant succeeds stepped) start succeed ran).1

instance (call : Call Session Element) (action : Action Session Element) :
    Decidable (ReplaySucceeds call action) := by
  induction call using Call.casesOn with
  | configuring =>
      induction action using Action.casesOn with
      | answer response =>
          induction response using Except.casesOn with
          | ok => exact instDecidableTrue
          | error => exact instDecidableFalse
      | _ => exact instDecidableTrue
  | _ => exact instDecidableTrue

instance (pool : Pool (Shared Session) (Local Session Element))
    (event : Event (Action Session Element)) : Decidable (ReplaysSucceed pool event) :=
  inferInstanceAs (Decidable (ReplaySucceeds (pool.threads event.1).call event.2))

/-- An answer in which nothing is found. -/
def emptyAnswer : Answer Nat := ⟨none, none, none, none, none, none, none⟩

def unreachable : Text := "WDA /session/1/appium/settings is unreachable: timed out".toList

/-- A clone replaces session 0 by session 1, up to the answer to the replay. -/
def recreationRun (replayed : Response Nat) : List (Event (Action Nat Nat)) :=
  [(0, .begin .home), (0, .go), (0, .answer (.error invalidSession)), (0, .go), (0, .go),
    (0, .mint (.ok (some 1))), (0, .go), (0, .go), (0, .go), (0, .answer replayed)]

theorem recreation_settingsKept_replayed :
    ∃ final, run advance (initial (some 0) (some (15, 50))) (recreationRun (.ok emptyAnswer)) =
      some final ∧ SettingsKept (some 0) final :=
  ⟨_, rfl, recreation_settingsKept (some 0) (some (15, 50)) (recreationRun (.ok emptyAnswer)) _
    (by decide) rfl⟩

/-- Where the replay fails, recreation leaves the new session without the settings. -/
theorem recreation_loses_settings :
    ¬ ∀ (events : List (Event (Action Nat Nat))) final,
      run advance (initial (some 0) (some (15, 50))) events = some final →
        SettingsKept (some 0) final := by
  intro kept
  obtain ⟨final, ran, unlocked, current, applied, replays⟩ : ∃ final,
      run advance (initial (some 0) (some (15, 50))) (recreationRun (.error unreachable)) =
          some final ∧
        final.shared.client.recreateLock = none ∧ final.shared.client.sessionId = some 1 ∧
        final.shared.ledger.applied = [] ∧ final.shared.ledger.replays = [(1, some (15, 50))] :=
    ⟨_, rfl, rfl, rfl, rfl, rfl⟩
  rcases kept _ _ ran unlocked 1 current with same | ⟨recorded, replayed, inEffect⟩
  · cases same
  · rw [replays, List.mem_singleton, Prod.mk.injEq] at replayed
    have := inEffect (15, 50) replayed.2
    rw [applied] at this
    cases this

end QuadControl.Ios.Wda
