import Mathlib.Data.Finset.Card
import QuadControl.Apple.Transcript
import QuadControl.Lib.Machine
import QuadControl.Lib.Multimap

/-! # The admission controller

A connection is pending until it fails, ends or is authenticated, and one authenticated
connection keeps all others out. Failures of the last minute are counted, in total and by
peer. Connections that were let in just below a limit may still fail, so what is bounded
is the failures together with the connections that are pending.
-/

namespace QuadControl.Apple.Diagnostic

open Lib Constants

namespace Constants

def maxPending : Nat := 8

def maxFailuresPerPeer : Nat := 5

def maxFailuresGlobal : Nat := 20

def failureWindowNanos : Nat := 60000000000

end Constants

/-- `DiagnosticAdmissionController`. -/
structure AdmissionController (Id Peer : Type) where
  pending : Finset Id
  active : Option Id
  globalFailures : List Nat
  peerFailures : Multimap Peer Nat

/-- What `prune` keeps. -/
def cutoff (nowNanos : Nat) : Nat :=
  if failureWindowNanos < nowNanos then nowNanos - failureWindowNanos else 0

namespace AdmissionController

variable {Id Peer : Type} [DecidableEq Id] [DecidableEq Peer]

def new : AdmissionController Id Peer := ⟨∅, none, [], ∅⟩

variable (admission : AdmissionController Id Peer)

def prune (nowNanos : Nat) : AdmissionController Id Peer :=
  { admission with
    globalFailures := admission.globalFailures.filter (cutoff nowNanos ≤ ·)
    peerFailures := admission.peerFailures.filter (cutoff nowNanos ≤ ·) }

def begin (connectionID : Id) (peerKey : Peer) (nowNanos : Nat) :
    Except Failure Unit × AdmissionController Id Peer :=
  let pruned := admission.prune nowNanos
  if pruned.active = none ∧ pruned.pending.card < maxPending then
    if pruned.globalFailures.length < maxFailuresGlobal ∧
        (pruned.peerFailures.get peerKey).length < maxFailuresPerPeer then
      (.ok (), { pruned with pending := insert connectionID pruned.pending })
    else (.error .rateLimited, pruned)
  else (.error .resourceLimit, pruned)

def authenticationSucceeded (connectionID : Id) : Bool × AdmissionController Id Peer :=
  if connectionID ∈ admission.pending then
    let removed := { admission with pending := admission.pending.erase connectionID }
    if removed.active = none then (true, { removed with active := some connectionID })
    else (false, removed)
  else (false, admission)

def recordFailure (connectionID : Id) (peerKey : Peer) (nowNanos : Nat) :
    AdmissionController Id Peer :=
  let removed := { admission with pending := admission.pending.erase connectionID }
  let pruned := removed.prune nowNanos
  { pruned with
    globalFailures := pruned.globalFailures ++ [nowNanos]
    peerFailures := pruned.peerFailures.add peerKey nowNanos }

/-- `end`. -/
def endConnection (connectionID : Id) : AdmissionController Id Peer :=
  { admission with
    pending := admission.pending.erase connectionID
    active := if admission.active = some connectionID then none else admission.active }

/-- A connection becomes pending where there is room and no other is active, or not at all. -/
theorem begin_cases {connectionID : Id} {peerKey : Peer} {nowNanos : Nat}
    {result : Except Failure Unit} {next : AdmissionController Id Peer}
    (begun : admission.begin connectionID peerKey nowNanos = (result, next)) :
    next.active = admission.active ∧
      (result = .ok () ∧ admission.active = none ∧ admission.pending.card < maxPending ∧
          next.pending = insert connectionID admission.pending ∨
        (∃ failure, result = .error failure) ∧ next.pending = admission.pending) := by
  unfold begin at begun
  dsimp only at begun
  split at begun
  · rename_i room
    split at begun
    · obtain ⟨rfl, rfl⟩ := Prod.mk.inj begun
      exact ⟨rfl, .inl ⟨rfl, room.1, room.2, rfl⟩⟩
    · obtain ⟨rfl, rfl⟩ := Prod.mk.inj begun
      exact ⟨rfl, .inr ⟨⟨_, rfl⟩, rfl⟩⟩
  · obtain ⟨rfl, rfl⟩ := Prod.mk.inj begun
    exact ⟨rfl, .inr ⟨⟨_, rfl⟩, rfl⟩⟩

omit [DecidableEq Peer] in
/-- A connection that tries to be authenticated is no longer pending, whether it succeeds or
    not. -/
theorem authenticationSucceeded_eq (connectionID : Id) :
    admission.authenticationSucceeded connectionID =
      if connectionID ∈ admission.pending ∧ admission.active = none then
        (true, { admission with
          pending := admission.pending.erase connectionID
          active := some connectionID })
      else (false, { admission with pending := admission.pending.erase connectionID }) := by
  unfold authenticationSucceeded
  by_cases known : connectionID ∈ admission.pending
  · by_cases free : admission.active = none <;> simp [known, free]
  · simp [known]

end AdmissionController

/-! ### What is recorded over time -/

/-- The controller with what it has been told: the connections that have begun and not ended in
    any way yet, all failures that were recorded, and the time of the latest operation. -/
structure Ledger (Id Peer : Type) where
  admission : AdmissionController Id Peer
  outstanding : List (Id × Peer)
  failures : List (Peer × Nat)
  latest : Nat

inductive Operation (Id Peer : Type) where
  | begin (connectionID : Id) (peerKey : Peer) (nowNanos : Nat)
  | authenticationSucceeded (connectionID : Id)
  | recordFailure (connectionID : Id) (peerKey : Peer) (nowNanos : Nat)
  | endConnection (connectionID : Id)
  deriving Repr, DecidableEq

namespace Ledger

variable {Id Peer : Type} [DecidableEq Id] [DecidableEq Peer]

def start : Ledger Id Peer := ⟨.new, [], [], 0⟩

variable (ledger : Ledger Id Peer)

def without (connectionID : Id) : List (Id × Peer) :=
  ledger.outstanding.filter fun entry => entry.1 ≠ connectionID

def apply : Operation Id Peer → Ledger Id Peer
  | .begin connectionID peerKey nowNanos =>
      match ledger.admission.begin connectionID peerKey nowNanos with
      | (.ok (), next) => { ledger with
          admission := next
          outstanding := (connectionID, peerKey) :: ledger.outstanding
          latest := nowNanos }
      | (.error _, next) => { ledger with admission := next, latest := nowNanos }
  | .authenticationSucceeded connectionID => { ledger with
      admission := (ledger.admission.authenticationSucceeded connectionID).2
      outstanding := ledger.without connectionID }
  | .recordFailure connectionID peerKey nowNanos =>
      { admission := ledger.admission.recordFailure connectionID peerKey nowNanos
        outstanding := ledger.without connectionID
        failures := ledger.failures ++ [(peerKey, nowNanos)]
        latest := nowNanos }
  | .endConnection connectionID => { ledger with
      admission := ledger.admission.endConnection connectionID
      outstanding := ledger.without connectionID }

def step (operation : Operation Id Peer) : Option (Ledger Id Peer) := some (ledger.apply operation)

/-- Time does not go back, a connection begins once, and a failure is recorded only of a
    connection that has begun, with its peer, and has not ended in any way yet. -/
def Allowed : Operation Id Peer → Prop
  | .begin connectionID _ nowNanos =>
      ledger.latest ≤ nowNanos ∧ connectionID ∉ ledger.outstanding.map Prod.fst
  | .recordFailure connectionID peerKey nowNanos =>
      ledger.latest ≤ nowNanos ∧ (connectionID, peerKey) ∈ ledger.outstanding
  | .authenticationSucceeded _ => True
  | .endConnection _ => True

instance (operation : Operation Id Peer) : Decidable (ledger.Allowed operation) :=
  match operation with
  | .begin _ _ _ => instDecidableAnd
  | .recordFailure _ _ _ => instDecidableAnd
  | .authenticationSucceeded _ => instDecidableTrue
  | .endConnection _ => instDecidableTrue

/-- The failures that were recorded between two times. -/
def recorded (low high : Nat) : List (Peer × Nat) :=
  ledger.failures.filter fun failure => low ≤ failure.2 ∧ failure.2 ≤ high

/-- The connections of a peer that are pending. -/
def pendingOf (peer : Peer) : List (Id × Peer) :=
  ledger.outstanding.filter fun entry => entry.2 = peer

structure Bounded : Prop where
  pending : ledger.admission.pending = (ledger.outstanding.map Prod.fst).toFinset
  total : ledger.admission.globalFailures.length + ledger.admission.pending.card ≤ 19 + 8
  peer : ∀ peer, (ledger.admission.peerFailures.get peer).length +
    (ledger.pendingOf peer).length ≤ 4 + 8
  window : ∀ low, (ledger.recorded low (low + failureWindowNanos)).length ≤ 27
  peerWindow : ∀ low peer,
    ((ledger.recorded low (low + failureWindowNanos)).filter (·.1 = peer)).length ≤ 12
  union : ledger.admission.globalFailures.Perm ledger.admission.peerFailures.values

end Ledger

end QuadControl.Apple.Diagnostic
