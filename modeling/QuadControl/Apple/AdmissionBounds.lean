import QuadControl.Apple.Admission

/-! # What the admission controller bounds

The failures it retains are those since the cutoff of its latest operation, so that of all
failures in a window of a minute none was dropped when the last of them was recorded.
-/

namespace QuadControl.Apple.Diagnostic

open Lib Constants

theorem cutoff_eq (nowNanos : Nat) : cutoff nowNanos = nowNanos - failureWindowNanos := by
  unfold cutoff
  split <;> omega

theorem cutoff_mono {early late : Nat} (later : early ≤ late) : cutoff early ≤ cutoff late := by
  rw [cutoff_eq, cutoff_eq]
  omega

/-- What an earlier cutoff keeps makes no difference to a later one. -/
theorem filter_cutoff {early late : Nat} (later : early ≤ late) (times : List Nat) :
    (times.filter (cutoff early ≤ ·)).filter (cutoff late ≤ ·) =
      times.filter (cutoff late ≤ ·) := by
  rw [List.filter_filter]
  apply List.filter_congr
  intro time _
  have mono := cutoff_mono later
  simp only [← Bool.decide_and, decide_eq_decide]
  omega

namespace Ledger

variable {Id Peer : Type} [DecidableEq Id] [DecidableEq Peer] {ledger : Ledger Id Peer}

/-- What holds of the controller and what it has been told, after every operation. -/
structure Holds (ledger : Ledger Id Peer) : Prop extends Bounded ledger where
  once : (ledger.outstanding.map Prod.fst).Nodup
  few : ledger.admission.pending.card ≤ maxPending
  retained : ledger.admission.globalFailures =
    (ledger.failures.map Prod.snd).filter (cutoff ledger.latest ≤ ·)
  retainedOf : ∀ peer, ledger.admission.peerFailures.get peer =
    ((ledger.failures.filter (·.1 = peer)).map Prod.snd).filter (cutoff ledger.latest ≤ ·)

theorem Holds.card_pending (holds : ledger.Holds) :
    ledger.admission.pending.card = ledger.outstanding.length := by
  rw [holds.pending, List.toFinset_card_of_nodup holds.once, List.length_map]

/-! ### Connections that end -/

omit [DecidableEq Peer] in
theorem toFinset_without (connectionID : Id) :
    ((ledger.without connectionID).map Prod.fst).toFinset =
      (ledger.outstanding.map Prod.fst).toFinset.erase connectionID := by
  ext other
  simp [without, and_comm]

/-- A connection that ends leaves the failures as they are. -/
theorem Holds.without (holds : ledger.Holds) (connectionID : Id)
    {next : AdmissionController Id Peer}
    (pending : next.pending = ledger.admission.pending.erase connectionID)
    (total : next.globalFailures = ledger.admission.globalFailures)
    (peers : next.peerFailures = ledger.admission.peerFailures) :
    Holds { ledger with admission := next, outstanding := ledger.without connectionID } where
  pending := by
    rw [pending, holds.pending]
    exact (toFinset_without connectionID).symm
  total := by
    have fewer := Finset.card_erase_le (s := ledger.admission.pending) (a := connectionID)
    have bound := holds.total
    rw [pending, total]
    omega
  peer := by
    intro peer
    have fewer : ((ledger.without connectionID).filter fun entry => entry.2 = peer).length ≤
        (ledger.pendingOf peer).length := by
      apply List.Sublist.length_le
      exact List.Sublist.filter _ List.filter_sublist
    have bound := holds.peer peer
    rw [peers]
    exact (Nat.add_le_add_left fewer _).trans bound
  window := holds.window
  peerWindow := holds.peerWindow
  union := by
    rw [total, peers]
    exact holds.union
  once := holds.once.sublist (List.filter_sublist.map Prod.fst)
  few := by
    rw [pending]
    exact Finset.card_erase_le.trans holds.few
  retained := by
    rw [total]
    exact holds.retained
  retainedOf := by
    intro peer
    rw [peers]
    exact holds.retainedOf peer

/-! ### Time that passes -/

theorem Holds.prune (holds : ledger.Holds) {nowNanos : Nat} (later : ledger.latest ≤ nowNanos) :
    Holds { ledger with admission := ledger.admission.prune nowNanos, latest := nowNanos } where
  pending := holds.pending
  total := by
    have fewer := List.length_filter_le (cutoff nowNanos ≤ ·) ledger.admission.globalFailures
    exact (Nat.add_le_add_right fewer _).trans holds.total
  peer := by
    intro peer
    have fewer := List.length_filter_le (cutoff nowNanos ≤ ·)
      (ledger.admission.peerFailures.get peer)
    show ((ledger.admission.peerFailures.filter _).get peer).length + _ ≤ _
    rw [Multimap.get_filter]
    exact (Nat.add_le_add_right fewer _).trans (holds.peer peer)
  window := holds.window
  peerWindow := holds.peerWindow
  union := by
    show (ledger.admission.globalFailures.filter _).Perm (ledger.admission.peerFailures.filter _).values
    rw [Multimap.values_filter]
    exact holds.union.filter _
  once := holds.once
  few := holds.few
  retained := by
    show ledger.admission.globalFailures.filter _ = _
    rw [holds.retained, filter_cutoff later]
  retainedOf := by
    intro peer
    show (ledger.admission.peerFailures.filter _).get peer = _
    rw [Multimap.get_filter, holds.retainedOf, filter_cutoff later]

/-! ### Connections that begin -/

theorem Holds.begun (holds : ledger.Holds) {connectionID : Id} {peerKey : Peer}
    (fresh : connectionID ∉ ledger.outstanding.map Prod.fst)
    (room : ledger.admission.pending.card < maxPending)
    (below : ledger.admission.globalFailures.length < maxFailuresGlobal)
    (belowOf : (ledger.admission.peerFailures.get peerKey).length < maxFailuresPerPeer) :
    Holds { ledger with
      admission := { ledger.admission with
        pending := insert connectionID ledger.admission.pending }
      outstanding := (connectionID, peerKey) :: ledger.outstanding } := by
  have new : connectionID ∉ ledger.admission.pending := by
    rw [holds.pending]
    simpa using fresh
  have card := Finset.card_insert_of_notMem new
  unfold maxPending at room
  unfold maxFailuresGlobal at below
  unfold maxFailuresPerPeer at belowOf
  refine { holds with pending := ?_, total := ?_, peer := ?_, once := ?_, few := ?_ }
  · show insert connectionID ledger.admission.pending = _
    rw [holds.pending, List.map_cons, List.toFinset_cons]
  · show ledger.admission.globalFailures.length + (insert connectionID ledger.admission.pending).card ≤ _
    omega
  · intro peer
    show (ledger.admission.peerFailures.get peer).length +
      (((connectionID, peerKey) :: ledger.outstanding).filter _).length ≤ _
    by_cases same : peerKey = peer
    · -- All that are pending may be of this peer.
      subst same
      have pending := holds.card_pending
      have all := List.length_filter_le (fun entry : Id × Peer => entry.2 = peerKey)
        ((connectionID, peerKey) :: ledger.outstanding)
      rw [List.length_cons] at all
      omega
    · rw [List.filter_cons_of_neg (by simpa using same)]
      exact holds.peer peer
  · exact List.nodup_cons.mpr ⟨fresh, holds.once⟩
  · show (insert connectionID ledger.admission.pending).card ≤ maxPending
    unfold maxPending
    omega

/-! ### Failures that are recorded -/

/-- The failures of a window that ends with the latest operation are all retained. -/
theorem Holds.recorded_le (holds : ledger.Holds) {low : Nat}
    (reaches : ledger.latest ≤ low + failureWindowNanos) :
    (ledger.recorded low (low + failureWindowNanos)).length ≤
      ledger.admission.globalFailures.length := by
  rw [holds.retained, List.filter_map, List.length_map]
  apply List.Sublist.length_le
  apply List.monotone_filter_right
  intro failure inside
  have cut := cutoff_eq ledger.latest
  simp only [decide_eq_true_eq, Function.comp_apply] at inside ⊢
  omega

theorem Holds.recorded_of_le (holds : ledger.Holds) {low : Nat}
    (reaches : ledger.latest ≤ low + failureWindowNanos) (peer : Peer) :
    ((ledger.recorded low (low + failureWindowNanos)).filter (·.1 = peer)).length ≤
      (ledger.admission.peerFailures.get peer).length := by
  rw [holds.retainedOf, List.filter_map, List.length_map, recorded, List.filter_comm]
  apply List.Sublist.length_le
  apply List.monotone_filter_right
  intro failure inside
  have cut := cutoff_eq ledger.latest
  simp only [decide_eq_true_eq, Function.comp_apply] at inside ⊢
  omega

omit [DecidableEq Id] [DecidableEq Peer] in
/-- One element more stays within a bound where there was room for it. -/
theorem length_filter_concat_le {α : Type} {list : List α} {last : α} {p : α → Bool} {n : Nat}
    (bound : (list.filter p).length ≤ n) (room : p last = true → (list.filter p).length < n) :
    ((list ++ [last]).filter p).length ≤ n := by
  rw [List.filter_append, List.length_append, List.filter_singleton]
  cases counts : p last with
  | true => exact room counts
  | false => exact bound

/-- A failure that is recorded at the latest time. -/
def failing (ledger : Ledger Id Peer) (peerKey : Peer) : Ledger Id Peer :=
  { ledger with
    admission := { ledger.admission with
      globalFailures := ledger.admission.globalFailures ++ [ledger.latest]
      peerFailures := ledger.admission.peerFailures.add peerKey ledger.latest }
    failures := ledger.failures ++ [(peerKey, ledger.latest)] }

omit [DecidableEq Id] [DecidableEq Peer] in
theorem cutoff_latest (ledger : Ledger Id Peer) : cutoff ledger.latest ≤ ledger.latest := by
  rw [cutoff_eq]
  omega

/-- A failure adds to the windows that reach it, whose other failures are all retained. -/
theorem Holds.failing (holds : ledger.Holds) {peerKey : Peer}
    (room : ledger.admission.globalFailures.length + ledger.admission.pending.card < 19 + 8)
    (roomOf : (ledger.admission.peerFailures.get peerKey).length +
      (ledger.pendingOf peerKey).length < 4 + 8) :
    (ledger.failing peerKey).Holds where
  pending := holds.pending
  total := by
    show (ledger.admission.globalFailures ++ [ledger.latest]).length +
      ledger.admission.pending.card ≤ _
    rw [List.length_append, List.length_singleton]
    omega
  peer := by
    intro peer
    show ((ledger.admission.peerFailures.add _ _).get peer).length +
      (ledger.pendingOf peer).length ≤ _
    by_cases same : peer = peerKey
    · subst same
      rw [Multimap.get_add_self, List.length_append, List.length_singleton]
      omega
    · rw [Multimap.get_add_of_ne _ same]
      exact holds.peer peer
  window := by
    intro low
    apply length_filter_concat_le (holds.window low)
    intro within
    have reaches : ledger.latest ≤ low + failureWindowNanos := (of_decide_eq_true within).2
    have before := holds.recorded_le reaches
    rw [recorded] at before
    omega
  peerWindow := by
    intro low peer
    have bound := holds.peerWindow low peer
    rw [recorded, List.filter_filter] at bound ⊢
    apply length_filter_concat_le bound
    intro within
    obtain ⟨same, reaches⟩ := Bool.and_eq_true_iff.mp within
    obtain rfl := of_decide_eq_true same
    have before := holds.recorded_of_le (of_decide_eq_true reaches).2 peerKey
    rw [recorded, List.filter_filter] at before
    apply Nat.lt_of_le_of_lt before
    omega
  union := by
    have one := List.perm_append_singleton ledger.latest ledger.admission.globalFailures
    exact (one.trans (holds.union.cons _)).trans (Multimap.values_add _ _ _).symm
  once := holds.once
  few := holds.few
  retained := by
    show ledger.admission.globalFailures ++ [ledger.latest] =
      ((ledger.failures ++ [(peerKey, ledger.latest)]).map Prod.snd).filter
        (cutoff ledger.latest ≤ ·)
    rw [List.map_append, List.filter_append, holds.retained]
    simp [ledger.cutoff_latest]
  retainedOf := by
    intro peer
    show (ledger.admission.peerFailures.add _ _).get peer =
      (((ledger.failures ++ [(peerKey, ledger.latest)]).filter (·.1 = peer)).map Prod.snd).filter
        (cutoff ledger.latest ≤ ·)
    rw [List.filter_append, List.map_append, List.filter_append]
    by_cases same : peer = peerKey
    · subst same
      rw [Multimap.get_add_self, holds.retainedOf]
      simp [ledger.cutoff_latest]
    · rw [Multimap.get_add_of_ne _ same, holds.retainedOf]
      simp [Ne.symm same]

/-! ### Every run -/

theorem Holds.start : (start : Ledger Id Peer).Holds where
  pending := rfl
  total := Nat.zero_le _
  peer := fun _ => Nat.zero_le _
  window := fun _ => Nat.zero_le _
  peerWindow := fun _ _ => Nat.zero_le _
  union := List.Perm.refl _
  once := List.nodup_nil
  few := Nat.zero_le _
  retained := rfl
  retainedOf := fun _ => rfl

/-- A pending connection that fails makes room for its failure. -/
theorem length_without {connectionID : Id} {peerKey : Peer}
    (inside : (connectionID, peerKey) ∈ ledger.outstanding) :
    ((ledger.without connectionID).filter fun entry => entry.2 = peerKey).length <
      (ledger.pendingOf peerKey).length := by
  have inside' : (connectionID, peerKey) ∈ ledger.pendingOf peerKey :=
    List.mem_filter.mpr ⟨inside, by simp⟩
  rw [Ledger.without, List.filter_comm, ← pendingOf]
  apply List.length_filter_lt_length_iff_exists.mpr
  exact ⟨_, inside', by simp⟩

theorem Holds.recordFailure (holds : ledger.Holds) {connectionID : Id} {peerKey : Peer}
    {nowNanos : Nat} (later : ledger.latest ≤ nowNanos)
    (inside : (connectionID, peerKey) ∈ ledger.outstanding) :
    (ledger.apply (.recordFailure connectionID peerKey nowNanos)).Holds := by
  let removed : Ledger Id Peer := { ledger with
    admission := { ledger.admission with pending := ledger.admission.pending.erase connectionID }
    outstanding := ledger.without connectionID }
  have removed' : removed.Holds := holds.without connectionID rfl rfl rfl
  have pruned := removed'.prune later
  have pending : connectionID ∈ ledger.admission.pending := by
    rw [holds.pending]
    exact List.mem_toFinset.mpr (List.mem_map_of_mem inside)
  have card := Finset.card_erase_lt_of_mem pending
  have total := holds.total
  have fewer := List.length_filter_le (cutoff nowNanos ≤ ·) ledger.admission.globalFailures
  have peer := holds.peer peerKey
  have fewerOf := List.length_filter_le (cutoff nowNanos ≤ ·)
    (ledger.admission.peerFailures.get peerKey)
  have without := ledger.length_without inside
  apply pruned.failing
  · show (ledger.admission.globalFailures.filter _).length +
      (ledger.admission.pending.erase connectionID).card < _
    omega
  · show ((ledger.admission.peerFailures.filter _).get peerKey).length +
      ((ledger.without connectionID).filter fun entry => entry.2 = peerKey).length < _
    rw [Multimap.get_filter]
    omega

theorem Holds.apply (holds : ledger.Holds) {operation : Operation Id Peer}
    (allowed : ledger.Allowed operation) : (ledger.apply operation).Holds := by
  cases operation with
  | begin connectionID peerKey nowNanos =>
      obtain ⟨later, fresh⟩ := allowed
      have pruned := holds.prune later
      rw [Ledger.apply, AdmissionController.begin]
      by_cases room : (ledger.admission.prune nowNanos).active = none ∧
          (ledger.admission.prune nowNanos).pending.card < maxPending
      · by_cases below : (ledger.admission.prune nowNanos).globalFailures.length <
            maxFailuresGlobal ∧
            ((ledger.admission.prune nowNanos).peerFailures.get peerKey).length < maxFailuresPerPeer
        · simp only [if_pos room, if_pos below]
          exact pruned.begun fresh room.2 below.1 below.2
        · simp only [if_pos room, if_neg below]
          exact pruned
      · simp only [if_neg room]
        exact pruned
  | authenticationSucceeded connectionID =>
      rw [Ledger.apply, AdmissionController.authenticationSucceeded_eq]
      split
      · exact holds.without connectionID rfl rfl rfl
      · exact holds.without connectionID rfl rfl rfl
  | recordFailure connectionID peerKey nowNanos => exact holds.recordFailure allowed.1 allowed.2
  | endConnection connectionID => exact holds.without connectionID rfl rfl rfl

/-- Whatever connections do, and whenever: the failures that are retained are bounded together
    with the connections that may still fail, in total and by peer, and so are the failures of
    every minute; and the failures of all peers are the failures in total. -/
theorem admission_bounded {operations : List (Operation Id Peer)} {final : Ledger Id Peer}
    (allowed : Machine.Meets step Allowed (start : Ledger Id Peer) operations)
    (ran : Machine.run step (start : Ledger Id Peer) operations = some final) :
    final.Bounded := by
  have holds : final.Holds := by
    apply Machine.run_invariant _ Holds.start allowed ran
    intro ledger operation next holds allowed stepped
    obtain rfl := Option.some.inj stepped
    exact holds.apply allowed
  exact holds.toBounded

/-- Three connections of two peers: one fails, one is authenticated and ends, one is pending. -/
def visits : List (Operation Nat Nat) :=
  [.begin 0 7 1, .begin 1 7 2, .recordFailure 0 7 3, .begin 2 8 4, .authenticationSucceeded 2,
    .endConnection 2]

theorem admission_bounded_visits :
    ∃ final, Machine.run step (start : Ledger Nat Nat) visits = some final ∧
      final.outstanding = [(1, 7)] ∧ final.failures = [(7, 3)] ∧ final.Bounded := by
  have allowed : Machine.Meets step Allowed (start : Ledger Nat Nat) visits := by decide
  exact ⟨_, rfl, rfl, rfl, admission_bounded allowed rfl⟩

end Ledger

end QuadControl.Apple.Diagnostic
