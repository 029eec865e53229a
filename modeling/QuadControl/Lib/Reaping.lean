import Mathlib.Logic.Function.Basic
import QuadControl.Lib.Machine

/-! # Programs that wait for a child

A program polls a child process, kills it, waits for it and joins the threads that read what it
writes into its pipes. Such a thread ends only when no process holds the write end of its pipe
any more: neither the child nor a descendant that inherited it. What the processes do, and how
the calls of the system end, is not up to the program.
-/

namespace QuadControl.Lib.Reaping

variable {π ε σ γ ρ ρ' : Type}

/-! ### Processes -/

inductive Phase where
  | running
  | exited
  | reaped
  deriving Repr, DecidableEq

/-- A child, the pipes whose write end it holds, and how many descendants hold them. -/
structure Processes (π : Type) where
  phase : Phase
  child : π → Bool
  descendants : π → Nat
  /-- A process that has ended holds nothing. -/
  gone : phase ≠ .running → ∀ pipe, child pipe = false

inductive Happening (π : Type) where
  /-- One more descendant gets the write end, from a process that has it. -/
  | inherits (pipe : π)
  /-- A descendant closes it or ends. -/
  | closes (pipe : π)
  | childCloses (pipe : π)
  /-- The child ends, of itself or since it was killed. -/
  | exits
  deriving Repr, DecidableEq

namespace Processes

variable (processes : Processes π)

/-- Whether some process holds the write end of a pipe. -/
def held (pipe : π) : Bool := processes.child pipe || 0 < processes.descendants pipe

def happen [DecidableEq π] : Happening π → Option (Processes π)
  | .inherits pipe =>
      if processes.held pipe then
        some { processes with
          descendants := Function.update processes.descendants pipe
            (processes.descendants pipe + 1) }
      else none
  | .closes pipe =>
      if processes.descendants pipe = 0 then none
      else
        some { processes with
          descendants := Function.update processes.descendants pipe
            (processes.descendants pipe - 1) }
  | .childCloses pipe =>
      some { processes with
        child := fun other => if other = pipe then false else processes.child other
        gone := fun ended other => by split <;> simp [processes.gone ended] }
  | .exits =>
      if processes.phase = .running then
        some ⟨.exited, fun _ => false, processes.descendants, fun _ _ => rfl⟩
      else none

def reap (ended : processes.phase ≠ .running) : Processes π :=
  { processes with
    phase := .reaped
    gone := fun _ => processes.gone ended }

end Processes

/-! ### Programs -/

/-- What is left of a program, after the answers that it got so far. -/
inductive Program (π ε σ γ ρ : Type) where
  | give (result : ρ)
  /-- Once more from the beginning of the loop. -/
  | again
  | tryWait (rest : Except ε (Option σ) → Program π ε σ γ ρ)
  | kill (rest : Except ε Unit → Program π ε σ γ ρ)
  | wait (rest : Except ε σ → Program π ε σ γ ρ)
  | join (pipe : π) (rest : γ → Program π ε σ γ ρ)
  /-- Whether the time is up. -/
  | elapsed (rest : Bool → Program π ε σ γ ρ)

namespace Program

def bind : Program π ε σ γ ρ → (ρ → Program π ε σ γ ρ') → Program π ε σ γ ρ'
  | .give result, next => next result
  | .again, _ => .again
  | .tryWait rest, next => .tryWait fun answer => (rest answer).bind next
  | .kill rest, next => .kill fun answer => (rest answer).bind next
  | .wait rest, next => .wait fun answer => (rest answer).bind next
  | .join pipe rest, next => .join pipe fun answer => (rest answer).bind next
  | .elapsed rest, next => .elapsed fun answer => (rest answer).bind next

instance : Monad (Program π ε σ γ) where
  pure := .give
  bind := .bind

end Program

def tryWait : Program π ε σ γ (Except ε (Option σ)) := .tryWait .give

def kill : Program π ε σ γ (Except ε Unit) := .kill .give

def wait : Program π ε σ γ (Except ε σ) := .wait .give

def join (pipe : π) : Program π ε σ γ γ := .join pipe .give

def elapsed : Program π ε σ γ Bool := .elapsed .give

/-! ### Runs -/

structure State (π ε σ γ ρ : Type) where
  processes : Processes π
  program : Program π ε σ γ ρ
  /-- The child was waited for, or a poll reported its end. -/
  waited : Bool
  /-- A thread was joined while a process held the write end of its pipe. -/
  blocked : Bool

/-- What the processes do, and the answers to the program. -/
inductive Input (π ε σ γ : Type) where
  | happens (happening : Happening π)
  | tryWait (answer : Except ε (Option σ))
  | kill (answer : Except ε Unit)
  | wait (answer : Except ε σ)
  | join (answer : γ)
  | elapsed (answer : Bool)
  | again
  deriving DecidableEq

def start (processes : Processes π) (body : Program π ε σ γ ρ) : State π ε σ γ ρ :=
  ⟨processes, body, false, false⟩

/-- A step of a loop with some body, or of the processes. A status is there once the child has
    ended; that a call fails tells nothing. -/
def step [DecidableEq π] (body : Program π ε σ γ ρ) (state : State π ε σ γ ρ) :
    Input π ε σ γ → Option (State π ε σ γ ρ)
  | .happens happening =>
      (state.processes.happen happening).map fun processes => { state with processes }
  | .tryWait answer =>
      match state.program, answer with
      | .tryWait rest, .ok (some status) =>
          if ended : state.processes.phase ≠ .running then
            some { state with
              processes := state.processes.reap ended
              program := rest (.ok (some status))
              waited := true }
          else none
      | .tryWait rest, .ok none =>
          if state.processes.phase = .running then some { state with program := rest (.ok none) }
          else none
      | .tryWait rest, .error error => some { state with program := rest (.error error) }
      | _, _ => none
  | .kill answer =>
      match state.program with
      | .kill rest => some { state with program := rest answer }
      | _ => none
  | .wait answer =>
      match state.program, answer with
      | .wait rest, .ok status =>
          if ended : state.processes.phase ≠ .running then
            some { state with
              processes := state.processes.reap ended
              program := rest (.ok status)
              waited := true }
          else none
      | .wait rest, .error error =>
          some { state with
            program := rest (.error error)
            waited := true }
      | _, _ => none
  | .join answer =>
      match state.program with
      | .join pipe rest =>
          some { state with
            program := rest answer
            blocked := state.blocked || state.processes.held pipe }
      | _ => none
  | .elapsed answer =>
      match state.program with
      | .elapsed rest => some { state with program := rest answer }
      | _ => none
  | .again =>
      match state.program with
      | .again => some { state with program := body }
      | _ => none

/-! ### Preconditions -/

/-- Whether the polls of a program may fail, and the pipes whose readers it has. -/
structure Terms (π : Type) where
  fails : Bool
  reads : π → Bool

namespace Program

/-- What makes sure that a program joins none but its own readers, and none before the child was
    waited for, and that its result meets a condition. -/
def wp (terms : Terms π) : Program π ε σ γ ρ → (Bool → ρ → Prop) → Bool → Prop
  | .give result, post, waited => post waited result
  | .again, _, _ => True
  | .tryWait rest, post, waited =>
      (terms.fails = true → ∀ error, (rest (.error error)).wp terms post waited) ∧
        (∀ status, (rest (.ok (some status))).wp terms post true) ∧
        (rest (.ok none)).wp terms post waited
  | .kill rest, post, waited => ∀ answer, (rest answer).wp terms post waited
  | .wait rest, post, _ => ∀ answer, (rest answer).wp terms post true
  | .join pipe rest, post, waited =>
      (terms.reads pipe = true ∧ waited = true) ∧ ∀ answer, (rest answer).wp terms post waited
  | .elapsed rest, post, waited => ∀ answer, (rest answer).wp terms post waited

variable {terms : Terms π} {waited : Bool} {post : Bool → ρ → Prop}

@[simp] theorem wp_pure {result : ρ} :
    (pure result : Program π ε σ γ ρ).wp terms post waited ↔ post waited result :=
  Iff.rfl

@[simp] theorem wp_again : (again : Program π ε σ γ ρ).wp terms post waited := trivial

theorem wp_bind_eq {first : Program π ε σ γ ρ'} {next : ρ' → Program π ε σ γ ρ} :
    (first.bind next).wp terms post waited ↔
      first.wp terms (fun waited result => (next result).wp terms post waited) waited := by
  induction first generalizing waited with
  | give => exact Iff.rfl
  | again => exact Iff.rfl
  | tryWait rest ih => simp only [bind, wp, ih]
  | kill rest ih => simp only [bind, wp, ih]
  | wait rest ih => simp only [bind, wp, ih]
  | join pipe rest ih => simp only [bind, wp, ih]
  | elapsed rest ih => simp only [bind, wp, ih]

@[simp] theorem wp_bind {first : Program π ε σ γ ρ'} {next : ρ' → Program π ε σ γ ρ} :
    (first >>= next).wp terms post waited ↔
      first.wp terms (fun waited result => (next result).wp terms post waited) waited :=
  wp_bind_eq

end Program

section

variable {terms : Terms π} {waited : Bool}

@[simp] theorem wp_tryWait {post : Bool → Except ε (Option σ) → Prop} :
    (tryWait : Program π ε σ γ _).wp terms post waited ↔
      (terms.fails = true → ∀ error, post waited (.error error)) ∧
        (∀ status, post true (.ok (some status))) ∧ post waited (.ok none) :=
  Iff.rfl

@[simp] theorem wp_kill {post : Bool → Except ε Unit → Prop} :
    (kill : Program π ε σ γ _).wp terms post waited ↔ ∀ answer, post waited answer :=
  Iff.rfl

@[simp] theorem wp_wait {post : Bool → Except ε σ → Prop} :
    (wait : Program π ε σ γ _).wp terms post waited ↔ ∀ answer, post true answer :=
  Iff.rfl

@[simp] theorem wp_join {post : Bool → γ → Prop} {pipe : π} :
    (join pipe : Program π ε σ γ _).wp terms post waited ↔
      (terms.reads pipe = true ∧ waited = true) ∧ ∀ answer, post waited answer :=
  Iff.rfl

@[simp] theorem wp_elapsed {post : Bool → Bool → Prop} :
    (elapsed : Program π ε σ γ _).wp terms post waited ↔ ∀ answer, post waited answer :=
  Iff.rfl

end

/-! ### Joins that end -/

/-- No thread was joined while its pipe was held, and the child was waited for before any result
    that needs it. -/
structure Prompt (needs : ρ → Prop) (state : State π ε σ γ ρ) : Prop where
  free : state.blocked = false
  waited : ∀ result, state.program = .give result → needs result → state.waited = true

/-- No process but the child holds a pipe that is read. -/
def Processes.Alone (processes : Processes π) (terms : Terms π) : Prop :=
  ∀ pipe, terms.reads pipe = true → processes.descendants pipe = 0

/-- When the end of the child is reported, no descendant holds a pipe that is read any more; a
    wait fails only once the child has ended; and only where the terms allow it, a poll fails. -/
def Released (terms : Terms π) (state : State π ε σ γ ρ) : Input π ε σ γ → Prop
  | .tryWait (.ok (some _)) | .wait (.ok _) => state.processes.Alone terms
  | .wait (.error _) => state.processes.phase ≠ .running ∧ state.processes.Alone terms
  | .tryWait (.error _) => terms.fails = true
  | _ => True

/-- Nothing is left that could write. -/
structure Processes.Silent (processes : Processes π) (terms : Terms π) : Prop where
  ended : processes.phase ≠ .running
  alone : processes.Alone terms

variable {terms : Terms π}

theorem Processes.Silent.held {processes : Processes π} (silent : processes.Silent terms) {pipe : π}
    (read : terms.reads pipe = true) : processes.held pipe = false := by
  rw [Processes.held, processes.gone silent.ended, silent.alone pipe read]
  rfl

theorem Processes.Silent.happen [DecidableEq π] {processes next : Processes π}
    (silent : processes.Silent terms) {happening : Happening π}
    (happened : processes.happen happening = some next) : next.Silent terms := by
  cases happening with
  | inherits pipe =>
      obtain ⟨held, same⟩ := Option.ite_none_right_eq_some.mp happened
      obtain rfl := Option.some.inj same
      refine ⟨silent.ended, fun other read => ?_⟩
      -- A pipe that is read is nobody's to pass on.
      have apart : other ≠ pipe := by
        rintro rfl
        rw [silent.held read] at held
        cases held
      exact (Function.update_of_ne apart ..).trans (silent.alone other read)
  | closes pipe =>
      obtain ⟨-, same⟩ := Option.ite_none_left_eq_some.mp happened
      obtain rfl := Option.some.inj same
      refine ⟨silent.ended, fun other read => ?_⟩
      have none := silent.alone other read
      show Function.update processes.descendants pipe _ other = 0
      by_cases same : other = pipe
      · subst same
        rw [Function.update_self, none]
      · rw [Function.update_of_ne same, none]
  | childCloses pipe =>
      obtain rfl := Option.some.inj happened
      exact ⟨silent.ended, silent.alone⟩
  | exits =>
      rw [Processes.happen, if_neg silent.ended] at happened
      cases happened

/-- What holds on the way of a program with a precondition. -/
structure Orderly (terms : Terms π) (needs : ρ → Prop) (state : State π ε σ γ ρ) : Prop where
  free : state.blocked = false
  silent : state.waited = true → state.processes.Silent terms
  next : state.program.wp terms (fun waited result => needs result → waited = true) state.waited

theorem Orderly.prompt {needs : ρ → Prop} {state : State π ε σ γ ρ}
    (orderly : Orderly terms needs state) : Prompt needs state := by
  refine ⟨orderly.free, fun result done needed => ?_⟩
  have next := orderly.next
  rw [done] at next
  exact next needed

theorem Orderly.step [DecidableEq π] {needs : ρ → Prop} {body : Program π ε σ γ ρ}
    (guarded : ∀ waited, body.wp terms (fun waited result => needs result → waited = true) waited)
    {state next : State π ε σ γ ρ} {input : Input π ε σ γ} (orderly : Orderly terms needs state)
    (released : Released terms state input) (stepped : step body state input = some next) :
    Orderly terms needs next := by
  obtain ⟨processes, program, waited, blocked⟩ := state
  obtain ⟨free, silent, wp⟩ := orderly
  cases input with
  | happens happening =>
      simp only [Reaping.step, Option.map_eq_some_iff] at stepped
      obtain ⟨processes', happened, rfl⟩ := stepped
      exact ⟨free, fun waited => (silent waited).happen happened, wp⟩
  | tryWait answer =>
      cases program with
      | tryWait rest =>
          obtain ⟨failed, reported, running⟩ := wp
          match answer with
          | .error error =>
              obtain rfl := Option.some.inj stepped
              exact ⟨free, silent, failed released error⟩
          | .ok none =>
              obtain ⟨-, same⟩ := Option.ite_none_right_eq_some.mp stepped
              obtain rfl := Option.some.inj same
              exact ⟨free, silent, running⟩
          | .ok (some status) =>
              obtain ⟨ended, same⟩ := Option.dite_none_right_eq_some.mp stepped
              obtain rfl := Option.some.inj same
              exact ⟨free, fun _ => ⟨nofun, released⟩, reported status⟩
      | _ => cases stepped
  | kill answer =>
      cases program with
      | kill rest =>
          obtain rfl := Option.some.inj stepped
          exact ⟨free, silent, wp answer⟩
      | _ => cases stepped
  | wait answer =>
      cases program with
      | wait rest =>
          match answer with
          | .error error =>
              obtain rfl := Option.some.inj stepped
              exact ⟨free, fun _ => ⟨released.1, released.2⟩, wp (.error error)⟩
          | .ok status =>
              obtain ⟨ended, same⟩ := Option.dite_none_right_eq_some.mp stepped
              obtain rfl := Option.some.inj same
              exact ⟨free, fun _ => ⟨nofun, released⟩, wp (.ok status)⟩
      | _ => cases stepped
  | join answer =>
      cases program with
      | join pipe rest =>
          obtain rfl := Option.some.inj stepped
          obtain ⟨⟨read, waited'⟩, wp⟩ := wp
          refine ⟨?_, silent, wp answer⟩
          show (blocked || processes.held pipe) = false
          rw [(silent waited').held read, Bool.or_false]
          exact free
      | _ => cases stepped
  | elapsed answer =>
      cases program with
      | elapsed rest =>
          obtain rfl := Option.some.inj stepped
          exact ⟨free, silent, wp answer⟩
      | _ => cases stepped
  | again =>
      cases program with
      | again =>
          obtain rfl := Option.some.inj stepped
          exact ⟨free, silent, guarded waited⟩
      | _ => cases stepped

/-- No join of a loop blocks and the child is always waited for, in every run where no descendant
    outlives the child with a pipe. -/
def Timely [DecidableEq π] (terms : Terms π) (needs : ρ → Prop) (body : Program π ε σ γ ρ) : Prop :=
  ∀ (processes : Processes π) (inputs : List (Input π ε σ γ)),
    Machine.Meets (step body) (Released terms) (start processes body) inputs →
    Machine.Throughout (step body) (Prompt needs) (start processes body) inputs

theorem timely_of_wp [DecidableEq π] {needs : ρ → Prop} {body : Program π ε σ γ ρ}
    (guarded : ∀ waited, body.wp terms (fun waited result => needs result → waited = true) waited) :
    Timely terms needs body := by
  intro processes inputs meets
  have first : Orderly terms needs (start processes body) := ⟨rfl, nofun, guarded false⟩
  exact (Machine.throughout_of_meets (fun _ _ _ orderly => orderly.step guarded) first meets).mono
    fun _ => Orderly.prompt

/-- A descendant that outlives the report of the child's end with a pipe blocks the loop at its
    next join. -/
def Blocks [DecidableEq π] (pipe : π) (body : Program π ε σ γ ρ) : Prop :=
  ∀ processes : Processes π, processes.phase ≠ .running → 0 < processes.descendants pipe →
    ∀ (status : σ) (answer : γ), ∃ final, Machine.run (step body) (start processes body)
      [.tryWait (.ok (some status)), .join answer] = some final ∧ final.blocked = true

theorem blocks_of_join [DecidableEq π] {body : Program π ε σ γ ρ} {pipe : π}
    {rest : Except ε (Option σ) → Program π ε σ γ ρ} {joined : σ → γ → Program π ε σ γ ρ}
    (polls : body = .tryWait rest)
    (joins : ∀ status, rest (.ok (some status)) = .join pipe (joined status)) :
    Blocks pipe body := by
  intro processes ended outlives status answer
  have reported : step body (start processes body) (.tryWait (.ok (some status))) =
      some ⟨processes.reap ended, .join pipe (joined status), true, false⟩ := by
    rw [polls, ← joins]
    exact dif_pos ended
  have held : (processes.reap ended).held pipe = true := by
    rw [Processes.held, Bool.or_eq_true]
    exact .inr (decide_eq_true outlives)
  exact ⟨_, by rw [Machine.run, reported]; rfl, held⟩

end QuadControl.Lib.Reaping
