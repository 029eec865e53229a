import QuadControl.Ios.WdaSessions

/-! # Typing into the element that was found

`send_text` finds the active element with a session call, then reads the session
id again for its two requests to that element. Between the two another clone may
have stored the id of a new session, to which the element means nothing.
-/

namespace QuadControl.Ios.Wda

open Lib Lib.Interleaving

variable {Session Element : Type}

def Call.stores : Call Session Element → Bool
  | .storing _ _ _ => true
  | _ => false

def Call.holds : Call Session Element → Bool
  | .holding _ _ _ => true
  | _ => false

/-- The text and the read-back go to the session whose answer held the element. -/
def TypedAtSource (pool : Pool (Shared Session) (Local Session Element)) : Prop :=
  ∀ i text element source session,
    (pool.threads i).call = .typing text element source session ∨
      (pool.threads i).call = .confirming text element source session → session = source

/-- An element is answered by the session that is still the client's. -/
def FromCurrent (sessionId : Option Session) : Call Session Element → Action Session Element → Prop
  | .asking (.activeElement _) session, .answer (.ok _)
  | .reasking (.activeElement _) _ session, .answer (.ok _) => sessionId = some session
  | _, _ => True

/-- No new session id is stored between the answer that holds an element and the
    reading of the id for its use. -/
def Undisturbed (pool : Pool (Shared Session) (Local Session Element))
    (event : Event (Action Session Element)) : Prop :=
  FromCurrent pool.shared.client.sessionId (pool.threads event.1).call event.2 ∧
    ((pool.threads event.1).call.stores = true → ∀ i, (pool.threads i).call.holds = false)

/-- What `send_text` knows of the session behind its element. -/
def Sourced (shared : Shared Session) (own : Local Session Element) : Prop :=
  match own.call with
  | .holding _ _ source => shared.client.sessionId = some source
  | .typing _ _ source session | .confirming _ _ source session => session = source
  | _ => True

theorem Sourced.of_quiet {shared : Shared Session} {call : Call Session Element}
    (quiet : call.quiet = true) (tried : List Session) : Sourced shared ⟨call, tried⟩ := by
  cases call <;> trivial

theorem Sourced.of_proceed {shared : Shared Session} {task : Task} {source : Session}
    {answer : Answer Element} (tried : List Session)
    (current : ∀ text, task = .activeElement text → shared.client.sessionId = some source) :
    Sourced shared ⟨task.proceed source answer, tried⟩ := by
  rcases task.proceed_quiet source answer with quiet | ⟨text, element, rfl, -, holding⟩
  · exact .of_quiet quiet tried
  · rw [holding]
    exact current text rfl

/-- The session id changes where a clone stores one. -/
theorem Step.sessionId {me : Nat} {shared shared' : Shared Session}
    {own own' : Local Session Element} {action : Action Session Element}
    (step : Step me shared own action shared' own') :
    own.call.stores = true ∨ shared'.client.sessionId = shared.client.sessionId := by
  cases step with
  | begin => exact .inr (Shared.record_sessionId ..)
  | store => exact .inl rfl
  | _ => exact .inr rfl

theorem Sourced.own {me : Nat} {shared shared' : Shared Session}
    {own own' : Local Session Element} {action : Action Session Element}
    (step : Step me shared own action shared' own')
    (current : FromCurrent shared.client.sessionId own.call action)
    (sourced : Sourced shared own) : Sourced shared' own' := by
  cases step with
  | begin last tried method => exact .of_quiet method.start_quiet tried
  | answered task session answer tried | reanswered task stale session answer tried =>
      refine .of_proceed tried fun text same => ?_
      subst same
      exact current
  | type text element source session tried now =>
      exact Option.some.inj (now.symm.trans sourced)
  | confirm => exact sourced
  | quiet call next tried action free quiet => exact .of_quiet quiet tried
  | _ => trivial

theorem Sourced.other {me : Nat} {shared shared' : Shared Session}
    {own own' theirs : Local Session Element} {action : Action Session Element}
    (step : Step me shared own action shared' own')
    (undisturbed : own.call.stores = true → theirs.call.holds = false)
    (sourced : Sourced shared theirs) : Sourced shared' theirs := by
  obtain ⟨call, tried⟩ := theirs
  cases call with
  | holding =>
      rcases step.sessionId with stores | same
      · cases undisturbed stores
      · exact same.trans sourced
  | typing | confirming => exact sourced
  | _ => trivial

theorem Sourced.step [DecidableEq Session]
    {pool next : Pool (Shared Session) (Local Session Element)}
    {event : Event (Action Session Element)}
    (invariant : Everywhere (fun _ => True) (fun _ => Sourced) pool)
    (undisturbed : Undisturbed pool event)
    (stepped : Interleaving.step advance pool event = some next) :
    Everywhere (fun _ => True) (fun _ => Sourced) next :=
  Everywhere.step invariant stepped
    (fun _ _ acted => ⟨trivial, .own (.of_advance acted) undisturbed.1 (invariant.2 event.1)⟩)
    (fun _ _ i acted _ theirs =>
      .other (.of_advance acted) (fun stores => undisturbed.2 stores i) theirs)

/-- In every run in which the session of an element stays the client's until the
    element is used, the element is used in that session only. -/
theorem sendText_typedAtSource [DecidableEq Session] (sessionId : Option Session)
    (mjpeg : Option Settings) (events : List (Event (Action Session Element)))
    (final : Pool (Shared Session) (Local Session Element))
    (undisturbed : Meets advance Undisturbed (initial sessionId mjpeg) events)
    (ran : run advance (initial sessionId mjpeg) events = some final) : TypedAtSource final := by
  have start : Everywhere (fun _ => True) (fun _ => Sourced)
      (initial sessionId mjpeg : Pool (Shared Session) (Local Session Element)) :=
    ⟨trivial, fun _ => trivial⟩
  have sourced := (run_invariant (fun _ _ _ invariant undisturbed stepped =>
    Sourced.step invariant undisturbed stepped) start undisturbed ran).2
  intro i text element source session call
  have here := sourced i
  unfold Sourced at here
  rcases call with call | call <;> simpa only [call] using here

instance [DecidableEq Session] (sessionId : Option Session) (call : Call Session Element)
    (action : Action Session Element) : Decidable (FromCurrent sessionId call action) := by
  induction call using Call.casesOn with
  | asking task session | reasking task stale session =>
      induction task using Task.casesOn with
      | activeElement =>
          induction action using Action.casesOn with
          | answer response =>
              induction response using Except.casesOn with
              | ok => exact inferInstanceAs (Decidable (sessionId = some session))
              | error => exact instDecidableTrue
          | _ => exact instDecidableTrue
      | _ => exact instDecidableTrue
  | _ => exact instDecidableTrue

def unlockedAnswer : Answer Nat := { emptyAnswer with bool := some false }

def elementAnswer : Answer Nat := { emptyAnswer with element := some 7 }

/-- Clone 0 has found element 7 in session 0. -/
def findElement : List (Event (Action Nat Nat)) :=
  [(0, .begin (.sendText ['a'])), (0, .go), (0, .answer (.ok unlockedAnswer)), (0, .go),
    (0, .answer (.ok elementAnswer))]

/-- Clone 1 recreates the session before clone 0 asks for the element, and goes on while
    clone 0 types into it. -/
def recreatedBefore : List (Event (Action Nat Nat)) :=
  [(1, .begin .home), (1, .go), (0, .begin (.sendText ['a'])), (0, .go),
    (0, .answer (.ok unlockedAnswer)), (1, .answer (.error invalidSession)), (1, .go), (1, .go),
    (1, .mint (.ok (some 1))), (1, .go), (0, .go), (0, .answer (.ok elementAnswer)), (1, .go),
    (0, .go), (1, .go), (1, .answer (.ok emptyAnswer)), (0, .answer (.ok emptyAnswer))]

theorem sendText_typedAtSource_recreatedBefore :
    ∃ final, run advance (initial (some 0) none) recreatedBefore = some final ∧
      (final.threads 0).call = .confirming ['a'] 7 1 1 ∧ TypedAtSource final := by
  have undisturbed : Meets advance Undisturbed (initial (some 0) none) recreatedBefore := by
    refine @meets_of_few _ _ _ advance (fun pool event =>
        FromCurrent pool.shared.client.sessionId (pool.threads event.1).call event.2 ∧
          ((pool.threads event.1).call.stores = true → ∀ i < 2, (pool.threads i).call.holds = false))
      _ _ (initial (some 0) none) _ 2 (by decide) (fun pool event idle early => ?_)
      (fun _ _ => rfl) (by decide)
    refine ⟨early.1, fun stores i => ?_⟩
    by_cases first : i < 2
    · exact early.2 stores i first
    · rw [idle i (Nat.le_of_not_lt first)]
      rfl
  exact ⟨_, rfl, rfl, sendText_typedAtSource (some 0) none recreatedBefore _ undisturbed rfl⟩

/-- Another clone recreates the session while the element is held. -/
def recreatedMeanwhile : List (Event (Action Nat Nat)) :=
  [(1, Action.begin .home), (1, .go)] ++ findElement ++
    [(1, Action.answer (.error invalidSession)), (1, .go), (1, .go), (1, .mint (.ok (some 1))),
      (1, .go), (0, .go)]

theorem sendText_types_elsewhere :
    ¬ ∀ (events : List (Event (Action Nat Nat))) final,
      run advance (initial (some 0) none) events = some final → TypedAtSource final := by
  intro typed
  obtain ⟨final, ran, call⟩ : ∃ final,
      run advance (initial (some 0) none) recreatedMeanwhile = some final ∧
        (final.threads 0).call = .typing ['a'] 7 0 1 := ⟨_, rfl, rfl⟩
  cases typed _ _ ran 0 _ _ _ _ (.inl call)

end QuadControl.Ios.Wda
