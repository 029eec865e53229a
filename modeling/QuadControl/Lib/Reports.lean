import QuadControl.Lib.Machine

/-! # What a worker reports

A worker of a machine writes one status after the other into a cell that others read, and
sends one message when it is done. Its report obeys a grammar when what it has written
begins a word of it, and when the message follows a whole word. That it is never written
again behind a terminal status is a matter of whole runs.
-/

namespace QuadControl.Lib

open Machine

variable {State Input Status : Type}

/-- The cell, all that was written to it, and the messages that were sent. -/
structure Report (Status : Type) where
  status : Status
  statuses : List Status
  done : Nat

structure Report.Obeys (words : List Status → Prop) (terminal : Status → Prop)
    (report : Report Status) : Prop where
  grammar : ∃ word, words word ∧ report.statuses <+: word
  visible : ∀ status, report.statuses.getLast? = some status → report.status = status
  once : report.done ≤ 1
  last : report.done = 1 → words report.statuses ∧ terminal report.status

def Report.write (report : Report Status) (status : Status) : Report Status :=
  { report with status, statuses := report.statuses ++ [status] }

/-- Messages are sent. -/
def Report.send (report : Report Status) (messages : Nat) : Report Status :=
  { report with done := report.done + messages }

/-- A machine, the inputs that are steps of its worker, and what the worker reports. -/
structure Worker (State Input Status : Type) where
  step : State → Input → Option State
  own : Input → Bool
  report : State → Report Status

namespace Worker

variable (worker : Worker State Input Status)

/-- A terminal status is followed by nothing but the message, and that by the worker's
    very next step. -/
structure Settles (terminal : Status → Prop) (state : State) : Prop where
  sends : terminal (worker.report state).status → (worker.report state).done = 0 →
    ∃ input next, worker.own input = true ∧ worker.step state input = some next
  counts : ∀ input next, terminal (worker.report state).status →
    worker.step state input = some next →
    worker.report next = (worker.report state).send (if worker.own input then 1 else 0)

/-- In every run the report obeys the grammar, terminal statuses are absorbing, and the
    message follows. -/
structure Reports (words : List Status → Prop) (terminal : Status → Prop) (start : State) :
    Prop where
  obeys : ∀ inputs reached, run worker.step start inputs = some reached →
    (worker.report reached).Obeys words terminal
  absorbing : ∀ inputs reached more later, run worker.step start inputs = some reached →
    terminal (worker.report reached).status → run worker.step reached more = some later →
    (worker.report later).status = (worker.report reached).status ∧
      (worker.report later).statuses = (worker.report reached).statuses
  settles : ∀ inputs reached, run worker.step start inputs = some reached →
    worker.Settles terminal reached

variable {worker} {words : List Status → Prop} {terminal : Status → Prop}

theorem reports_of_invariant {invariant : State → Prop}
    (preserved : ∀ state input next, invariant state → worker.step state input = some next →
      invariant next)
    (obeys : ∀ state, invariant state → (worker.report state).Obeys words terminal)
    (settles : ∀ state, invariant state → worker.Settles terminal state)
    {start : State} (first : invariant start) : worker.Reports words terminal start where
  obeys _ reached ran := obeys reached (run_preserves preserved first ran)
  absorbing := by
    intro inputs reached more later ran settled further
    have stays : ∀ state input next,
        (invariant state ∧ (worker.report state).status = (worker.report reached).status ∧
          (worker.report state).statuses = (worker.report reached).statuses) →
        worker.step state input = some next →
        invariant next ∧ (worker.report next).status = (worker.report reached).status ∧
          (worker.report next).statuses = (worker.report reached).statuses := by
      rintro state input next ⟨holds, status, statuses⟩ stepped
      have same := (settles state holds).counts input next (status ▸ settled) stepped
      exact ⟨preserved state input next holds stepped, same ▸ status, same ▸ statuses⟩
    exact (run_preserves stays ⟨run_preserves preserved first ran, rfl, rfl⟩ further).2
  settles _ reached ran := settles reached (run_preserves preserved first ran)

/-- No message is taken back. -/
theorem Reports.done_mono {start state next : State} {inputs : List Input} {input : Input}
    (reports : worker.Reports words terminal start)
    (ran : run worker.step start inputs = some state)
    (stepped : worker.step state input = some next) :
    (worker.report state).done ≤ (worker.report next).done := by
  have obeys := reports.obeys inputs state ran
  rcases Nat.eq_zero_or_pos (worker.report state).done with none | sent
  · omega
  · have settled := (obeys.last (le_antisymm obeys.once sent)).2
    rw [(reports.settles inputs state ran).counts input next settled stepped]
    exact Nat.le_add_right _ _

end Worker

end QuadControl.Lib
