import QuadControl.Ios.MjpegSlot

/-! # What writers take from the slot

The mutex has one holder, the count of the writers is that of the registered ones, and
what the slot holds is what was published last. From these follow, in every run, the
order of what a writer takes and the count of the drops.
-/

namespace QuadControl.Ios.Mjpeg

open Lib Lib.Utf8 Lib.Interleaving

namespace Point

def holds : Point → Bool
  | publishing _ | counting _ | storing _ | locked _ | looking _ => true
  | outside | pumping | serving _ | waiting _ | leaving | gone => false

def pumps : Point → Bool
  | pumping | publishing _ | counting _ | storing _ => true
  | _ => false

def registered : Point → Bool
  | serving _ | waiting _ | locked _ | looking _ | leaving => true
  | _ => false

/-- The number a writer has come to, before its first frame too. -/
def lastSeq? : Point → Option Nat
  | outside => some 0
  | serving lastSeq | waiting lastSeq | locked lastSeq | looking lastSeq => some lastSeq
  | _ => none

/-- What a publish has found lost and not counted yet. -/
def owed : Point → Nat
  | counting _ => 1
  | _ => 0

end Point

variable {me : Nat} {slot slot' : Slot} {history history' : History} {point point' : Point}

/-! ### The mutex -/

theorem Move.holder (move : Move me slot history point slot' history' point') :
    slot'.holder = slot.holder ∧ point'.holds = point.holds ∨
      slot.holder = none ∧ slot'.holder = some me ∧ point'.holds = true ∨
      point.holds = true ∧ slot'.holder = none ∧ point'.holds = false := by
  cases move with
  | publish free => exact .inr (.inl ⟨free, rfl, rfl⟩)
  | lock free => exact .inr (.inl ⟨free, rfl, rfl⟩)
  | store | stopped | take | wait => exact .inr (.inr ⟨rfl, rfl, rfl⟩)
  | stop | drop | register | call | running => exact .inl ⟨rfl, rfl⟩
  | count counts =>
      refine .inl ⟨rfl, ?_⟩
      rw [counts]
      split <;> rfl
  | leave done =>
      obtain rfl | ⟨lastSeq, rfl⟩ := done
      · exact .inl ⟨rfl, rfl⟩
      · exact .inl ⟨rfl, rfl⟩

/-- The mutex is held by the thread that is in a critical section. -/
def Exclusive : Pool (Slot × History) Point → Prop :=
  Everywhere (fun _ => True) fun i shared point => shared.1.holder = some i ↔ point.holds = true

theorem Exclusive.step (pool : Pool (Slot × History) Point) (event : Event Action)
    (next : Pool (Slot × History) Point) (exclusive : Exclusive pool)
    (stepped : Interleaving.step advanceNoted pool event = some next) : Exclusive next := by
  have mine : pool.shared.1.holder = some event.1 ↔ (pool.threads event.1).holds = true :=
    exclusive.2 event.1
  refine Move.everywhere exclusive stepped (fun slot history point move => ⟨trivial, ?_⟩)
    fun slot history point j move apart here => ?_
  · obtain ⟨free, still⟩ | ⟨free, taken, held⟩ | ⟨held, free, given⟩ := move.holder
    · simpa only [free, still] using mine
    · simp [taken, held]
    · simp [free, given]
  · obtain ⟨free, -⟩ | ⟨free, taken, -⟩ | ⟨held, free, -⟩ := move.holder
    · simpa only [free] using here
    · have other : ¬ (pool.threads j).holds = true := by
        rw [← here, free]
        nofun
      simp [taken, other, apart.symm]
    · have other : ¬ (pool.threads j).holds = true := by
        rw [← here, mine.mpr held]
        simpa using apart.symm
      simp [free, other]

/-! ### The writers -/

theorem Move.writers (move : Move me slot history point slot' history' point') :
    slot'.writers = slot.writers ∧ history'.registered = history.registered ∧
        point'.registered = point.registered ∨
      point.registered = false ∧ point'.registered = true ∧ slot'.writers = slot.writers + 1 ∧
        history'.registered = me :: history.registered ∨
      point.registered = true ∧ point'.registered = false ∧ slot'.writers = slot.writers - 1 ∧
        history'.registered = history.registered.erase me := by
  cases move with
  | register => exact .inr (.inl ⟨rfl, rfl, rfl, rfl⟩)
  | leave done =>
      obtain rfl | ⟨lastSeq, rfl⟩ := done
      · exact .inr (.inr ⟨rfl, rfl, rfl, rfl⟩)
      · exact .inr (.inr ⟨rfl, rfl, rfl, rfl⟩)
  | count counts =>
      refine .inl ⟨rfl, ?_, ?_⟩
      · simp only [note]
        split <;> rfl
      · rw [counts]
        split <;> rfl
  | stop | publish | drop | store | call | lock | stopped | running | take | wait =>
      exact .inl ⟨rfl, rfl, rfl⟩

/-- The count is that of the registered writers. -/
def Counted : Pool (Slot × History) Point → Prop :=
  Everywhere
    (fun shared => shared.2.registered.Nodup ∧ shared.1.writers = shared.2.registered.length)
    fun i shared point => i ∈ shared.2.registered ↔ point.registered = true

theorem Counted.step (pool : Pool (Slot × History) Point) (event : Event Action)
    (next : Pool (Slot × History) Point) (counted : Counted pool)
    (stepped : Interleaving.step advanceNoted pool event = some next) : Counted next := by
  obtain ⟨nodup, count⟩ := counted.1
  have mine : event.1 ∈ pool.shared.2.registered ↔ (pool.threads event.1).registered = true :=
    counted.2 event.1
  refine Move.everywhere counted stepped (fun slot history point move => ?_)
    fun slot history point j move apart here => ?_
  · obtain ⟨writers, registered, still⟩ | ⟨outside, joined, writers, registered⟩ |
      ⟨inside, left, writers, registered⟩ := move.writers
    · simp only [writers, registered, still]
      exact ⟨⟨nodup, count⟩, mine⟩
    · have absent : event.1 ∉ pool.shared.2.registered := by simp [mine, outside]
      simp [writers, registered, joined, absent, nodup, count]
    · have member := mine.mpr inside
      simp only [writers, registered, left, List.length_erase_of_mem member, count]
      exact ⟨⟨nodup.erase _, trivial⟩, by simp [nodup.mem_erase_iff]⟩
  · obtain ⟨-, registered, -⟩ | ⟨-, -, -, registered⟩ | ⟨-, -, -, registered⟩ := move.writers
    · simpa only [registered] using here
    · simpa only [registered, List.mem_cons, apart, false_or] using here
    · simpa only [registered, List.mem_erase_of_ne apart] using here

/-! ### The frames -/

/-- A frame that was taken is the one that was published with its number, and was the
    newest then. -/
structure Genuine (published : List Bytes) (take : Take) : Prop where
  positive : 0 < take.seq
  newest : take.seq = take.newest
  known : take.seq ≤ published.length
  frame : ∃ frame, take.frame = some frame ∧ published[take.seq - 1]? = some frame

theorem Genuine.append {published : List Bytes} {take : Take} (genuine : Genuine published take)
    (frame : Bytes) : Genuine (published ++ [frame]) take where
  positive := genuine.positive
  newest := genuine.newest
  known := by
    have known := genuine.known
    simp only [List.length_append]
    omega
  frame := by
    obtain ⟨taken, returned, here⟩ := genuine.frame
    exact ⟨taken, returned, List.getElem?_append_left (List.getElem?_eq_some_iff.mp here).1 ▸ here⟩

/-- What the slot holds is the last frame that was published. -/
structure Current (slot : Slot) (history : History) : Prop where
  seq : slot.seq = history.published.length
  frame : slot.frame = history.published.getLast?
  takes : ∀ take ∈ history.takes, Genuine history.published take
  consumed : slot.consumed = history.taken slot.seq

/-- A step leaves the frames alone, publishes one or takes one. -/
theorem Move.frames (move : Move me slot history point slot' history' point') :
    (slot'.seq = slot.seq ∧ slot'.frame = slot.frame ∧ slot'.consumed = slot.consumed ∧
        history'.published = history.published ∧ history'.takes = history.takes) ∨
      (∃ frame, slot' = slot.store frame ∧
        history' = { history with published := history.published ++ [frame] }) ∨
      ∃ lastSeq, lastSeq < slot.seq ∧ point = .looking lastSeq ∧ point' = .serving slot.seq ∧
        slot' = { slot with consumed := true }.unlock ∧
        history' = { history with
          takes := history.takes ++ [⟨me, slot.seq, slot.frame, history.published.length⟩] } := by
  cases move with
  | @store frame => exact .inr (.inl ⟨frame, rfl, rfl⟩)
  | @take lastSeq newer => exact .inr (.inr ⟨lastSeq, newer, rfl, rfl, rfl, rfl⟩)
  | count =>
      refine .inl ⟨rfl, rfl, rfl, ?_⟩
      simp only [note]
      split <;> exact ⟨rfl, rfl⟩
  | stop | publish | drop | register | call | lock | stopped | running | wait | leave =>
      exact .inl ⟨rfl, rfl, rfl, rfl, rfl⟩

theorem History.taken_eq_true {seq : Nat} :
    history.taken seq = true ↔ ∃ take ∈ history.takes, take.seq = seq := by
  simp [taken]

theorem History.taken_append {take : Take} {seq : Nat} :
    ({ history with takes := history.takes ++ [take] } : History).taken seq =
      (history.taken seq || decide (take.seq = seq)) := by
  simp [taken]

theorem Current.store (current : Current slot history) (frame : Bytes) :
    Current (slot.store frame) { history with published := history.published ++ [frame] } where
  seq := by simp [Slot.store, Slot.unlock, current.seq]
  frame := by simp [Slot.store, Slot.unlock]
  takes take inside := (current.takes take inside).append frame
  consumed := by
    have fresh : history.taken (slot.seq + 1) = false := by
      by_contra taken
      obtain ⟨take, inside, same⟩ := History.taken_eq_true.mp (by simpa using taken)
      have known := (current.takes take inside).known
      have seq := current.seq
      omega
    exact fresh.symm

theorem Current.take (current : Current slot history) {lastSeq : Nat}
    (newer : lastSeq < slot.seq) :
    Current { slot with consumed := true }.unlock { history with
      takes := history.takes ++ [⟨me, slot.seq, slot.frame, history.published.length⟩] } where
  seq := current.seq
  frame := current.frame
  consumed := by simp [History.taken_append, Slot.unlock]
  takes := by
    have seq := current.seq
    intro take inside
    rcases List.mem_append.mp inside with before | last
    · exact current.takes take before
    · obtain rfl := List.mem_singleton.mp last
      refine ⟨by simp only; omega, seq, Nat.le_of_eq seq, ?_⟩
      have some : slot.seq - 1 < history.published.length := by omega
      refine ⟨history.published[slot.seq - 1], ?_, List.getElem?_eq_getElem some⟩
      rw [current.frame, List.getLast?_eq_getElem?, ← seq]
      exact List.getElem?_eq_getElem some

theorem Current.move (current : Current slot history)
    (move : Move me slot history point slot' history' point') : Current slot' history' := by
  obtain ⟨seq, frame, consumed, published, takes⟩ | ⟨frame, rfl, rfl⟩ |
    ⟨lastSeq, newer, -, -, rfl, rfl⟩ := move.frames
  · refine ⟨?_, ?_, ?_, ?_⟩
    · rw [seq, published]
      exact current.seq
    · rw [frame, published]
      exact current.frame
    · rw [takes, published]
      exact current.takes
    · rw [consumed, seq, History.taken, takes]
      exact current.consumed
  · exact current.store frame
  · exact current.take newer

/-! ### The order of what a writer takes -/

/-- A writer has taken frames of rising numbers, up to the one it has come to. -/
structure Rising (writer : Nat) (history : History) (point : Point) : Prop where
  sorted : ((history.received writer).map Take.seq).Pairwise (· < ·)
  bounded : ∀ lastSeq, point.lastSeq? = some lastSeq →
    ∀ take ∈ history.received writer, take.seq ≤ lastSeq

theorem Rising.of_lastSeq {writer : Nat} (rising : Rising writer history point)
    (takes : history'.takes = history.takes)
    (last : point'.lastSeq? = point.lastSeq? ∨ point'.lastSeq? = none) :
    Rising writer history' point' := by
  constructor
  · simpa only [History.received, takes] using rising.sorted
  · intro lastSeq here
    rcases last with same | none
    · simpa only [History.received, takes] using rising.bounded lastSeq (same ▸ here)
    · rw [none] at here
      cases here

theorem Move.lastSeq (move : Move me slot history point slot' history' point') :
    history'.takes = history.takes ∧
        (point'.lastSeq? = point.lastSeq? ∨ point'.lastSeq? = none) ∨
      ∃ lastSeq, lastSeq < slot.seq ∧ point = .looking lastSeq ∧ point' = .serving slot.seq ∧
        history' = { history with
          takes := history.takes ++ [⟨me, slot.seq, slot.frame, history.published.length⟩] } := by
  cases move with
  | @take lastSeq newer => exact .inr ⟨lastSeq, newer, rfl, rfl, rfl⟩
  | count counts =>
      refine .inl ⟨?_, .inr ?_⟩
      · simp only [note]
        split <;> rfl
      · rw [counts]
        split <;> rfl
  | stop | register | call | lock | running | wait => exact .inl ⟨rfl, .inl rfl⟩
  | publish | drop | store | stopped | leave => exact .inl ⟨rfl, .inr rfl⟩

theorem History.received_append {writer : Nat} {take : Take} :
    ({ history with takes := history.takes ++ [take] } : History).received writer =
      history.received writer ++ if take.writer = writer then [take] else [] := by
  simp only [received, List.filter_append, List.filter_cons, List.filter_nil]
  split <;> simp_all

theorem Rising.own (rising : Rising me history point)
    (move : Move me slot history point slot' history' point') : Rising me history' point' := by
  obtain ⟨takes, last⟩ | ⟨lastSeq, newer, rfl, rfl, rfl⟩ := move.lastSeq
  · exact rising.of_lastSeq takes last
  · have below := rising.bounded lastSeq rfl
    constructor
    · rw [History.received_append, if_pos rfl, List.map_append, List.pairwise_append]
      refine ⟨rising.sorted, List.pairwise_singleton .., fun before inside last here => ?_⟩
      obtain ⟨take, taken, rfl⟩ := List.mem_map.mp inside
      obtain rfl := List.mem_singleton.mp here
      exact Nat.lt_of_le_of_lt (below take taken) newer
    · intro seq here take inside
      obtain rfl := Option.some.inj here
      rw [History.received_append, if_pos rfl] at inside
      rcases List.mem_append.mp inside with before | last
      · exact (below take before).trans (Nat.le_of_lt newer)
      · obtain rfl := List.mem_singleton.mp last
        exact Nat.le_refl _

theorem Rising.other {j : Nat} {theirs : Point} (rising : Rising j history theirs) (apart : j ≠ me)
    (move : Move me slot history point slot' history' point') : Rising j history' theirs := by
  obtain ⟨takes, -⟩ | ⟨lastSeq, newer, rfl, rfl, rfl⟩ := move.lastSeq
  · exact rising.of_lastSeq takes (.inl rfl)
  · have same : ({ history with takes :=
        history.takes ++ [⟨me, slot.seq, slot.frame, history.published.length⟩] } :
          History).received j = history.received j := by
      rw [History.received_append, if_neg apart.symm, List.append_nil]
    exact ⟨same ▸ rising.sorted, same ▸ rising.bounded⟩

/-! ### The count of the drops -/

/-- The drops are the frames that were lost. A publish that stands before its count owes
    one; before it looks at the frame it overwrites, no number of that frame is noted. -/
def Accounted (slot : Slot) (history : History) : Point → Prop
  | .pumping | .publishing _ =>
      slot.drops = history.lost.length ∧
        ∀ overwrite ∈ history.overwritten, overwrite.seq < slot.seq
  | .counting _ =>
      slot.drops + 1 = history.lost.length ∧
        ∀ overwrite ∈ history.overwritten, overwrite.seq ≤ slot.seq
  | .storing _ =>
      slot.drops = history.lost.length ∧
        ∀ overwrite ∈ history.overwritten, overwrite.seq ≤ slot.seq
  | _ => True

theorem History.lost_congr (overwritten : history'.overwritten = history.overwritten)
    (takes : history'.takes = history.takes) : history'.lost = history.lost := by
  simp only [lost, taken, overwritten, takes]

theorem Accounted.congr (accounted : Accounted slot history point)
    (drops : slot'.drops = slot.drops) (seq : slot'.seq = slot.seq)
    (overwritten : history'.overwritten = history.overwritten)
    (takes : history'.takes = history.takes) : Accounted slot' history' point := by
  unfold Accounted at accounted ⊢
  rw [drops, seq, overwritten, History.lost_congr overwritten takes]
  exact accounted

/-- The frame that is there cannot be one that was overwritten. -/
theorem History.lost_take {take : Take}
    (fresh : ∀ overwrite ∈ history.overwritten, overwrite.seq < take.seq) :
    ({ history with takes := history.takes ++ [take] } : History).lost = history.lost := by
  refine List.filter_congr fun overwrite inside => ?_
  have other : take.seq ≠ overwrite.seq := (Nat.ne_of_lt (fresh overwrite inside)).symm
  simp only [taken_append, other, decide_false, Bool.or_false]

theorem History.lost_append {overwrite : Overwrite} :
    ({ history with overwritten := history.overwritten ++ [overwrite] } : History).lost =
      history.lost ++
        if overwrite.registered && !history.taken overwrite.seq then [overwrite] else [] := by
  simp only [lost, List.filter_append, List.filter_cons, List.filter_nil]
  rfl

/-- The publisher looks at the frame it overwrites. -/
theorem Accounted.count {frame : Bytes} (current : Current slot history)
    (writers : slot.writers = history.registered.length)
    (accounted : Accounted slot history (.publishing frame)) :
    Accounted slot (note me slot (.publishing frame) .go history)
      (if 0 < slot.seq ∧ slot.consumed = false ∧ 0 < slot.writers then .counting frame
        else .storing frame) := by
  obtain ⟨drops, before⟩ := accounted
  simp only [note]
  by_cases first : 0 < slot.seq
  case neg =>
      rw [if_neg first, if_neg fun counts => first counts.1]
      exact ⟨drops, fun overwrite inside => Nat.le_of_lt (before overwrite inside)⟩
  case pos =>
      have upto : ∀ overwrite ∈ history.overwritten ++
          [⟨slot.seq, !history.registered.isEmpty⟩], overwrite.seq ≤ slot.seq := by
        intro overwrite inside
        rcases List.mem_append.mp inside with noted | last
        · exact Nat.le_of_lt (before overwrite noted)
        · obtain rfl := List.mem_singleton.mp last
          exact Nat.le_refl _
      have registered : history.registered = [] ↔ ¬ 0 < slot.writers := by
        rw [writers, List.length_pos_iff, not_not]
      rw [if_pos first]
      split
      · rename_i counts
        refine ⟨?_, upto⟩
        have some : history.registered ≠ [] := fun none => registered.mp none counts.2.2
        simp [History.lost_append, ← current.consumed, counts.2.1, some, drops]
      · rename_i skips
        refine ⟨?_, upto⟩
        have kept : ¬ (history.registered ≠ [] ∧ history.taken slot.seq = false) := by
          rintro ⟨some, free⟩
          have writer : 0 < slot.writers := by
            by_contra none
            exact some (registered.mpr none)
          exact skips ⟨first, current.consumed.trans free, writer⟩
        rw [History.lost_append, if_neg, List.append_nil]
        · exact drops
        · simpa using kept

/-- The thread that pumps is thread 0, and its account is kept. -/
def Kept : Pool (Slot × History) Point → Prop :=
  Everywhere (fun shared => Current shared.1 shared.2) fun i shared point =>
    (point.pumps = true ↔ i = 0) ∧ Accounted shared.1 shared.2 point ∧ Rising i shared.2 point

theorem Accounted.own (current : Current slot history)
    (writers : slot.writers = history.registered.length)
    (accounted : Accounted slot history point)
    (move : Move me slot history point slot' history' point') : Accounted slot' history' point' := by
  cases move with
  | stop quiet =>
      obtain rfl | rfl := quiet
      · trivial
      · exact accounted
  | publish => exact accounted
  | count counts => exact counts ▸ accounted.count current writers
  | drop => exact accounted
  | store =>
      refine ⟨accounted.1, fun overwrite inside => ?_⟩
      exact Nat.lt_succ_of_le (accounted.2 overwrite inside)
  | register | call | lock | stopped | running | take | wait | leave => trivial

theorem accounted_of_not_pumps (apart : point.pumps = false) : Accounted slot history point := by
  cases point <;> trivial

theorem Accounted.other {theirs : Point} (accounted : Accounted slot history theirs)
    (alone : theirs.pumps = true → point.pumps = false)
    (exclusive : theirs.holds = true → point.holds = false)
    (move : Move me slot history point slot' history' point') : Accounted slot' history' theirs := by
  by_cases pumps : theirs.pumps = true
  case neg => exact accounted_of_not_pumps (by simpa using pumps)
  case pos =>
      have writer := alone pumps
      cases move with
      | publish | count | drop | store => cases writer
      | stop | register | call | lock | stopped | running | wait | leave =>
          exact accounted.congr rfl rfl rfl rfl
      | take newer =>
          -- A writer with the mutex finds the pump between two frames.
          cases theirs with
          | pumping =>
              refine ⟨?_, accounted.2⟩
              rw [History.lost_take accounted.2]
              exact accounted.1
          | publishing | counting | storing => cases exclusive rfl
          | _ => cases pumps

theorem Move.pumps (move : Move me slot history point slot' history' point') :
    point'.pumps = point.pumps := by
  cases move with
  | count counts =>
      rw [counts]
      split <;> rfl
  | leave done => obtain rfl | ⟨lastSeq, rfl⟩ := done <;> rfl
  | _ => rfl

theorem Kept.step (pool : Pool (Slot × History) Point) (event : Event Action)
    (next : Pool (Slot × History) Point)
    (invariant : Exclusive pool ∧ Counted pool ∧ Kept pool)
    (stepped : Interleaving.step advanceNoted pool event = some next) :
    Exclusive next ∧ Counted next ∧ Kept next := by
  obtain ⟨exclusive, counted, kept⟩ := invariant
  refine ⟨exclusive.step _ _ _ stepped, counted.step _ _ _ stepped, ?_⟩
  obtain ⟨pump, accounted, rising⟩ := kept.2 event.1
  refine Move.everywhere kept stepped (fun slot history point move => ?_)
    fun slot history point j move apart ⟨pump', accounted', rising'⟩ => ?_
  · refine ⟨kept.1.move move, move.pumps ▸ pump, ?_, rising.own move⟩
    exact accounted.own kept.1 counted.1.2 move
  · refine ⟨pump', accounted'.other (fun pumps => ?_) (fun holds => ?_) move,
      rising'.other apart move⟩
    · by_contra both
      exact apart ((pump'.mp pumps).trans (pump.mp (by simpa using both)).symm)
    · by_contra both
      have theirs : pool.shared.1.holder = some j := (exclusive.2 j).mpr holds
      have mine : pool.shared.1.holder = some event.1 :=
        (exclusive.2 event.1).mpr (by simpa using both)
      exact apart (Option.some.inj (theirs.symm.trans mine))

theorem initial_invariant : Exclusive initialNoted ∧ Counted initialNoted ∧ Kept initialNoted := by
  have start : ∀ i, initialNoted.threads i = if i = 0 then .pumping else .outside := fun _ => rfl
  refine ⟨⟨trivial, fun i => ?_⟩, ⟨⟨List.nodup_nil, rfl⟩, fun i => ?_⟩,
    ⟨⟨rfl, rfl, nofun, rfl⟩, fun i => ⟨?_, ?_, List.Pairwise.nil, fun _ _ => nofun⟩⟩⟩
  all_goals
    rw [start]
    split
  · exact ⟨nofun, nofun⟩
  · exact ⟨nofun, nofun⟩
  · exact ⟨nofun, nofun⟩
  · exact ⟨nofun, nofun⟩
  · exact iff_of_true rfl ‹_›
  · exact iff_of_false nofun ‹_›
  · exact ⟨rfl, nofun⟩
  · trivial

/-! ### Every run -/

/-- What `next_frame` and the counters promise. The publisher alone is between finding a
    frame lost and counting it. -/
structure Faithful (pool : Pool (Slot × History) Point) : Prop where
  increasing : ∀ writer, ((pool.shared.2.received writer).map Take.seq).Pairwise (· < ·)
  genuine : ∀ take ∈ pool.shared.2.takes, Genuine pool.shared.2.published take
  frames : pool.shared.1.frames = pool.shared.2.published.length
  drops : pool.shared.1.drops + (pool.threads 0).owed = pool.shared.2.lost.length

theorem Kept.faithful {pool : Pool (Slot × History) Point} (kept : Kept pool) : Faithful pool where
  increasing writer := (kept.2 writer).2.2.sorted
  genuine := kept.1.takes
  frames := kept.1.seq
  drops := by
    obtain ⟨pump, accounted, -⟩ := kept.2 0
    have pumps := pump.mpr rfl
    cases here : pool.threads 0 with
    | pumping | publishing | counting | storing =>
        rw [here] at accounted
        exact accounted.1
    | _ =>
        rw [here] at pumps
        cases pumps

/-- However the publisher and the writers interleave, a writer takes frames of rising
    numbers, each as it was published and the newest then, and the counters are right. -/
theorem slot_faithful (events : List (Event Action)) (final : Pool (Slot × History) Point)
    (ran : run advanceNoted initialNoted events = some final) : Faithful final := by
  have invariant := run_invariant (fun pool event next holds _ => Kept.step pool event next holds)
    initial_invariant (meets_trivial _ _) ran
  exact invariant.2.2.faithful

/-- Two writers: one takes the second frame while the first is lost to both. -/
def twoWriters : List (Event Action) :=
  [(1, .go), (0, .publish [1]), (0, .go), (0, .go), (2, .go), (0, .publish [2]), (0, .go),
    (0, .go), (0, .go), (1, .go), (1, .go), (1, .go), (1, .go), (2, .leave)]

theorem slot_faithful_twoWriters :
    ∃ final, run advanceNoted initialNoted twoWriters = some final ∧
      final.shared.1.drops = 1 ∧ final.shared.2.takes = [⟨1, 2, some [2], 2⟩] ∧
      Faithful final := by
  have seen : (run advanceNoted initialNoted twoWriters).map
      (fun pool => (pool.shared.1.drops, pool.shared.2.takes)) =
        some (1, [⟨1, 2, some [2], 2⟩]) := by
    decide +kernel
  obtain ⟨final, ran, same⟩ := Option.map_eq_some_iff.mp seen
  obtain ⟨drops, takes⟩ := Prod.mk.inj same
  exact ⟨final, ran, drops, takes, slot_faithful _ final ran⟩

end QuadControl.Ios.Mjpeg
