import QuadControl.Ios.MjpegDownstream

/-! # What a stop leaves of the connections

The sweep shuts down every registered socket. A connection that is registered after it has
a writer that waits for the client's request, unless the request is there already.
-/

namespace QuadControl.Ios.Mjpeg

open Lib Lib.Text Lib.Machine

/-- From the registration until the guard is dropped. -/
def Stage.live : Stage → Bool
  | registered | cloning | reading | answering | streaming | writing | leaving => true
  | absent | queued | held | gone => false

/-- With a writer whose socket is not shut down yet. -/
def Stage.running : Stage → Bool
  | cloning | reading | answering | streaming | writing => true
  | _ => false

def Stage.accepted : Stage → Bool
  | absent | queued => false
  | _ => true

/-- Where the request is still to be read. -/
def Stage.asking : Stage → Bool
  | held | registered | cloning | reading => true
  | _ => false

/-- What the connection in the hands of the accept loop has come to. -/
def Acceptor.hand? : Acceptor → Option (Nat × Stage)
  | holding k | duplicating k | registering k => some (k, .held)
  | spawning k => some (k, .registered)
  | checking | accepting | done => none

/-- Nothing more of the client is needed for its request to end. -/
def Connection.complete (connection : Connection) : Bool :=
  connection.closed || connection.unread.any Line.ends

/-- Its writer ends without the client. -/
def Connection.Fine (connection : Connection) : Prop :=
  connection.stage.asking = true ∧ connection.complete = true ∨
    connection.stage = .answering ∨ connection.stage = .streaming

/-- It is shut down or will be, without the client, once it was accepted. -/
def Connection.Settled (connection : Connection) : Prop :=
  connection.stage.accepted = true → connection.shut = true ∨ connection.Fine

/-- The steps of a writer. -/
inductive Turn (stopping : Bool) (connection : Connection) : Connection → Prop
  | shut {unread : List Line} (running : connection.stage.running = true) :
      Turn stopping connection { connection with unread, stage := .leaving, shut := true }
  | cloned (here : connection.stage = .cloning) :
      Turn stopping connection { connection with stage := .reading }
  | line {text : Text} {unread : List Line} (here : connection.stage = .reading)
      (next : connection.unread = some text :: unread) (more : trim text ≠ []) :
      Turn stopping connection { connection with unread }
  | blank {text : Text} {unread : List Line} (here : connection.stage = .reading)
      (next : connection.unread = some text :: unread) (blank : trim text = []) :
      Turn stopping connection { connection with unread, stage := .answering }
  | wrote (here : connection.stage = .answering ∨ connection.stage = .writing) :
      Turn stopping connection { connection with stage := .streaming }
  | frame (here : connection.stage = .streaming) (runs : stopping = false) :
      Turn stopping connection { connection with stage := .writing }
  | wait (here : connection.stage = .streaming) : Turn stopping connection connection

theorem live_of_running {stage : Stage} (running : stage.running = true) : stage.live = true := by
  cases stage <;> first | rfl | cases running

theorem not_running {stage : Stage} (one : stage = .held ∨ stage = .registered) :
    stage.running = false := by
  rcases one with rfl | rfl <;> rfl

theorem Turn.keeps {stopping : Bool} {connection connection' : Connection}
    (turn : Turn stopping connection connection') :
    connection.stage.running = true ∧ connection'.id = connection.id ∧
      (connection'.stage.running = true ∨
        connection'.stage = .leaving ∧ connection'.shut = true) := by
  cases turn with
  | shut running => exact ⟨running, rfl, .inr ⟨rfl, rfl⟩⟩
  | cloned here => exact ⟨by rw [here]; rfl, rfl, .inl rfl⟩
  | line here => exact ⟨by rw [here]; rfl, rfl, .inl (by rw [here]; rfl)⟩
  | blank here => exact ⟨by rw [here]; rfl, rfl, .inl rfl⟩
  | wrote here => exact ⟨by rcases here with here | here <;> rw [here] <;> rfl, rfl, .inl rfl⟩
  | frame here => exact ⟨by rw [here]; rfl, rfl, .inl rfl⟩
  | wait here => exact ⟨by rw [here]; rfl, rfl, .inl (by rw [here]; rfl)⟩

namespace Downstream

variable {proxy next : Downstream} {k : Nat}

@[simp] theorem put_connections_self (connection : Connection) :
    (proxy.put k connection).connections k = connection := by
  simp [put]

@[simp] theorem put_acceptor (connection : Connection) :
    (proxy.put k connection).acceptor = proxy.acceptor := rfl

theorem put_connections_of_ne {j : Nat} (connection : Connection) (apart : j ≠ k) :
    (proxy.put k connection).connections j = proxy.connections j :=
  Function.update_of_ne apart ..

theorem atStage_put (connection : Connection) (stage : Stage) :
    (proxy.put k connection).atStage k stage = proxy.put k { connection with stage } := by
  simp [atStage, put]

theorem shut_put (connection : Connection) (stage : Stage) :
    (proxy.put k connection).shut k stage = proxy.put k { connection with stage, shut := true } := by
  simp [shut, put]

theorem put_self : proxy.put k (proxy.connections k) = proxy := by
  simp [put]

theorem readsLine_cases (here : (proxy.connections k).stage = .reading)
    (stepped : proxy.readsLine k = some next) :
    ∃ connection, Turn proxy.stopping (proxy.connections k) connection ∧
      next = proxy.put k connection := by
  have running : (proxy.connections k).stage.running = true := by rw [here]; rfl
  unfold readsLine at stepped
  split at stepped
  · rename_i line unread waiting
    simp only at stepped
    split at stepped
    · obtain rfl := Option.some.inj stepped
      exact ⟨_, .shut running, shut_put ..⟩
    · split at stepped
      · rename_i blank
        obtain rfl := Option.some.inj stepped
        exact ⟨_, .blank here waiting blank, atStage_put ..⟩
      · rename_i more
        obtain rfl := Option.some.inj stepped
        exact ⟨_, .line here waiting more, rfl⟩
  · split at stepped
    · obtain rfl := Option.some.inj stepped
      exact ⟨_, .shut running, rfl⟩
    · cases stepped

theorem writesTo_cases {ok : Bool}
    (here : (proxy.connections k).stage = .answering ∨ (proxy.connections k).stage = .writing)
    (stepped : proxy.writesTo k ok = some next) :
    ∃ connection, Turn proxy.stopping (proxy.connections k) connection ∧
      next = proxy.put k connection := by
  unfold writesTo at stepped
  split at stepped
  · split at stepped
    · cases stepped
    · obtain rfl := Option.some.inj stepped
      exact ⟨_, .wrote here, rfl⟩
  · obtain rfl := Option.some.inj stepped
    have running : (proxy.connections k).stage.running = true := by
      rcases here with here | here <;> rw [here] <;> rfl
    exact ⟨_, .shut running, rfl⟩

/-- A step of a writer is a turn of its connection; the last one takes the socket out. -/
theorem writes_cases {ok : Bool} (stepped : proxy.writes k ok = some next) :
    (∃ connection, Turn proxy.stopping (proxy.connections k) connection ∧
        next = proxy.put k connection) ∨
      (proxy.connections k).stage = .leaving ∧
        next = { proxy.atStage k .gone with
          sockets := proxy.sockets.filter fun entry => entry.1 ≠ (proxy.connections k).id } := by
  unfold writes at stepped
  split at stepped
  case h_1 here =>
      obtain rfl := Option.some.inj stepped
      left
      split
      · exact ⟨_, .cloned here, rfl⟩
      · exact ⟨_, .shut (by rw [here]; rfl), rfl⟩
  case h_2 here =>
      split at stepped
      · exact .inl (readsLine_cases here stepped)
      · obtain rfl := Option.some.inj stepped
        exact .inl ⟨_, .shut (by rw [here]; rfl), rfl⟩
  case h_3 here => exact .inl (writesTo_cases (.inl here) stepped)
  case h_4 here => exact .inl (writesTo_cases (.inr here) stepped)
  case h_5 here =>
      left
      split at stepped
      · obtain rfl := Option.some.inj stepped
        exact ⟨_, .shut (by rw [here]; rfl), rfl⟩
      · rename_i runs
        obtain rfl := Option.some.inj stepped
        split
        · exact ⟨_, .frame here (Bool.not_eq_true _ ▸ runs), rfl⟩
        · exact ⟨_, .wait here, put_self.symm⟩
  case h_6 here =>
      obtain rfl := Option.some.inj stepped
      exact .inr ⟨here, rfl⟩
  all_goals cases stepped

/-! ### What holds of every connection -/

/-- A connection is in the accept loop's hands, in `sockets` or shut down. -/
structure Each (proxy : Downstream) (k : Nat) : Prop where
  owned : ∀ stage, stage = .held ∨ stage = .registered →
    ((proxy.connections k).stage = stage ↔ proxy.acceptor.hand? = some (k, stage))
  listed : (proxy.connections k).stage.live = true →
    ((proxy.connections k).id, k) ∈ proxy.sockets ∧ (proxy.connections k).id < proxy.nextId
  shut : (proxy.connections k).stage = .leaving ∨ (proxy.connections k).stage = .gone →
    (proxy.connections k).shut = true

structure Sound (proxy : Downstream) : Prop where
  each : ∀ k, Each proxy k
  distinct : ∀ k j, (proxy.connections k).stage.live = true →
    (proxy.connections j).stage.live = true →
      (proxy.connections k).id = (proxy.connections j).id → k = j
  stopping : proxy.swept = true ∨ proxy.stopper = .sweeping → proxy.stopping = true
  swept : proxy.returned = true ∨ (∃ threads, proxy.stopper = .joining threads) →
    proxy.swept = true

theorem sound_initial : Sound initial where
  each k := by
    refine ⟨fun stage one => iff_of_false ?_ nofun, nofun, ?_⟩
    · rcases one with rfl | rfl <;> nofun
    · rintro (leaving | gone)
      · cases leaving
      · cases gone
  distinct := nofun
  stopping := by rintro (swept | sweeping) <;> contradiction
  swept := by
    rintro (returned | ⟨threads, joining⟩)
    · cases returned
    · cases joining

/-- What the rest of the proxy does to a connection it leaves alone. -/
theorem Each.of_rest (each : Each proxy k) (same : next.connections k = proxy.connections k)
    (hand : ∀ stage, next.acceptor.hand? = some (k, stage) ↔
      proxy.acceptor.hand? = some (k, stage))
    (listed : ((proxy.connections k).id, k) ∈ proxy.sockets →
      (proxy.connections k).stage.live = true → ((proxy.connections k).id, k) ∈ next.sockets)
    (numbered : proxy.nextId ≤ next.nextId) : Each next k := by
  constructor
  · intro stage one
    rw [same, hand]
    exact each.owned stage one
  · rw [same]
    intro live
    obtain ⟨inside, below⟩ := each.listed live
    exact ⟨listed inside live, by omega⟩
  · rw [same]
    exact each.shut

/-- Steps that leave the connections alone, and all that is registered. -/
structure Rests (proxy next : Downstream) : Prop where
  connections : next.connections = proxy.connections
  hand : next.acceptor.hand? = proxy.acceptor.hand?
  sockets : next.sockets = proxy.sockets
  nextId : next.nextId = proxy.nextId

theorem Sound.rests (sound : Sound proxy) (rests : Rests proxy next)
    (stopping : next.swept = true ∨ next.stopper = .sweeping → next.stopping = true)
    (swept : next.returned = true ∨ (∃ threads, next.stopper = .joining threads) →
      next.swept = true) : Sound next where
  each k := (sound.each k).of_rest (congrFun rests.connections k)
    (fun stage => by rw [rests.hand]) (fun inside _ => rests.sockets ▸ inside)
    (Nat.le_of_eq rests.nextId.symm)
  distinct := by
    rw [rests.connections]
    exact sound.distinct
  stopping := stopping
  swept := swept

/-- A step that changes one connection, and keeps its number while it is live. -/
theorem Sound.put (sound : Sound proxy) {connection : Connection}
    (put : next.connections = (proxy.put k connection).connections)
    (mine : Each next k)
    (hand : ∀ j, j ≠ k → ∀ stage, next.acceptor.hand? = some (j, stage) ↔
      proxy.acceptor.hand? = some (j, stage))
    (listed : ∀ j, j ≠ k → ((proxy.connections j).id, j) ∈ proxy.sockets →
      (proxy.connections j).stage.live = true → ((proxy.connections j).id, j) ∈ next.sockets)
    (numbered : proxy.nextId ≤ next.nextId)
    (fresh : connection.stage.live = true → ∀ j, j ≠ k →
      (proxy.connections j).stage.live = true → (proxy.connections j).id ≠ connection.id)
    (control : next.swept = proxy.swept ∧ next.stopper = proxy.stopper ∧
      next.stopping = proxy.stopping ∧ next.returned = proxy.returned) : Sound next where
  each j := by
    by_cases apart : j = k
    · exact apart ▸ mine
    · refine (sound.each j).of_rest ?_ (hand j apart) (listed j apart) numbered
      rw [put]
      exact put_connections_of_ne connection apart
  distinct i j := by
    rw [put]
    by_cases first : i = k
    · by_cases second : j = k
      · exact fun _ _ _ => first.trans second.symm
      · rw [first, put_connections_self, put_connections_of_ne _ second]
        exact fun live live' same => absurd same.symm (fresh live j second live')
    · by_cases second : j = k
      · rw [second, put_connections_self, put_connections_of_ne _ first]
        exact fun live live' same => absurd same (fresh live' i first live)
      · rw [put_connections_of_ne _ first, put_connections_of_ne _ second]
        exact sound.distinct i j
  stopping := by
    rw [control.1, control.2.1, control.2.2.1]
    exact sound.stopping
  swept := by
    rw [control.1, control.2.1, control.2.2.2]
    exact sound.swept

/-- An edit of a connection that the accept loop has not in its hands, before or after. -/
theorem Sound.edit (sound : Sound proxy) {connection : Connection}
    (stage : ∀ stage, stage = .held ∨ stage = .registered →
      (connection.stage = stage ↔ (proxy.connections k).stage = stage))
    (live : connection.stage.live = true → (proxy.connections k).stage.live = true)
    (id : connection.id = (proxy.connections k).id)
    (shut : connection.stage = .leaving ∨ connection.stage = .gone → connection.shut = true) :
    Sound (proxy.put k connection) := by
  refine sound.put rfl ⟨fun at' one => ?_, ?_, ?_⟩ (fun _ _ _ => Iff.rfl)
    (fun _ _ inside _ => inside) (Nat.le_refl _) (fun live' j apart theirs same => ?_)
    ⟨rfl, rfl, rfl, rfl⟩
  · rw [put_connections_self, stage at' one]
    exact (sound.each k).owned at' one
  · rw [put_connections_self, id]
    exact fun live' => (sound.each k).listed (live live')
  · rw [put_connections_self]
    exact shut
  · exact apart (sound.distinct j k theirs (live live') (same.trans id))

theorem Sound.turn (sound : Sound proxy) {connection : Connection}
    (turn : Turn proxy.stopping (proxy.connections k) connection) :
    Sound (proxy.put k connection) := by
  obtain ⟨running, id, after⟩ := turn.keeps
  refine sound.edit (fun stage one => iff_of_false ?_ ?_) (fun _ => live_of_running running) id ?_
  · rintro rfl
    rcases after with running' | ⟨leaving, -⟩
    · rw [not_running one] at running'
      cases running'
    · rw [leaving] at one
      rcases one with one | one <;> cases one
  · rintro rfl
    rw [not_running one] at running
    cases running
  · intro left
    rcases after with running' | ⟨-, shut⟩
    · rcases left with left | left <;>
        · rw [left] at running'
          cases running'
    · exact shut

/-- The guard takes out the socket of its own connection only. -/
theorem Sound.leave (sound : Sound proxy) (here : (proxy.connections k).stage = .leaving) :
    Sound { proxy.atStage k .gone with
      sockets := proxy.sockets.filter fun entry => entry.1 ≠ (proxy.connections k).id } := by
  have live : (proxy.connections k).stage.live = true := by rw [here]; rfl
  have mine := sound.each k
  refine sound.put rfl ⟨fun stage one => ?_, ?_, ?_⟩ (fun _ _ _ => Iff.rfl)
    (fun j apart inside theirs => ?_) (Nat.le_refl _) nofun ⟨rfl, rfl, rfl, rfl⟩
  · have owned := mine.owned stage one
    simp only [atStage, put_connections_self]
    rcases one with rfl | rfl <;> simpa [here] using owned
  · simp [atStage, Stage.live]
  · intro
    simpa [atStage] using mine.shut (.inl here)
  · refine List.mem_filter.mpr ⟨inside, ?_⟩
    simpa using fun same => apart (sound.distinct j k theirs live same)

theorem sound_of_writes {ok : Bool} (sound : Sound proxy)
    (stepped : proxy.writes k ok = some next) : Sound next := by
  obtain ⟨connection, turn, rfl⟩ | ⟨leaving, rfl⟩ := writes_cases stepped
  · exact sound.turn turn
  · exact sound.leave leaving

theorem sound_of_connects (sound : Sound proxy) (stepped : proxy.connects k = some next) :
    Sound next := by
  simp only [connects, Option.ite_none_right_eq_some, Option.some.injEq] at stepped
  obtain ⟨absent, rfl⟩ := stepped
  refine sound.edit (fun stage one => ?_) nofun rfl (by simp)
  rcases one with rfl | rfl <;> simp [absent]

theorem sound_of_sends {line : Line} (sound : Sound proxy)
    (stepped : proxy.sends k line = some next) : Sound next := by
  simp only [sends, Option.ite_none_right_eq_some, Option.some.injEq] at stepped
  obtain ⟨-, rfl⟩ := stepped
  exact sound.edit (fun _ _ => Iff.rfl) id rfl (sound.each k).shut

theorem sound_of_closes (sound : Sound proxy) (stepped : proxy.closes k = some next) :
    Sound next := by
  simp only [closes, Option.ite_none_right_eq_some, Option.some.injEq] at stepped
  obtain ⟨-, rfl⟩ := stepped
  exact sound.edit (fun _ _ => Iff.rfl) id rfl (sound.each k).shut

theorem sound_of_accepts {accepted : Accepted} (sound : Sound proxy)
    (stepped : proxy.accepts accepted = some next) : Sound next := by
  cases accepted with
  | connection k =>
      simp only [accepts, Option.ite_none_right_eq_some, Option.some.injEq] at stepped
      obtain ⟨⟨accepting, queued⟩, rfl⟩ := stepped
      refine sound.put rfl ⟨fun stage one => ?_, ?_, ?_⟩ (fun j apart stage => ?_)
        (fun _ _ inside _ => inside) (Nat.le_refl _) nofun ⟨rfl, rfl, rfl, rfl⟩
      · rcases one with rfl | rfl <;> simp [atStage, Acceptor.hand?]
      · simp [atStage, Stage.live]
      · simp [atStage]
      · simp [Acceptor.hand?, accepting, apart.symm]
  | wouldBlock =>
      simp only [accepts, Option.ite_none_right_eq_some, Option.some.injEq] at stepped
      obtain ⟨accepting, rfl⟩ := stepped
      exact sound.rests ⟨rfl, by simp [Acceptor.hand?, accepting], rfl, rfl⟩ sound.stopping
        sound.swept
  | failed =>
      simp only [accepts, Option.ite_none_right_eq_some, Option.some.injEq] at stepped
      obtain ⟨accepting, rfl⟩ := stepped
      exact sound.rests ⟨rfl, by simp [Acceptor.hand?, accepting], rfl, rfl⟩ sound.stopping
        sound.swept

/-- The accept loop has one connection in its hands. -/
theorem not_in_hand {j : Nat} {stage : Stage} (hand : proxy.acceptor.hand? = some (k, stage))
    (apart : j ≠ k) (stage' : Stage) : ¬ proxy.acceptor.hand? = some (j, stage') := by
  rw [hand]
  simp [apart.symm]

/-- The accept loop drops a stream. -/
theorem Sound.drop (sound : Sound proxy) (hand : proxy.acceptor.hand? = some (k, .held)) :
    Sound { proxy.shut k .gone with acceptor := .checking } := by
  refine sound.put rfl ⟨fun stage one => ?_, ?_, ?_⟩ (fun j apart stage => ?_)
    (fun _ _ inside _ => inside) (Nat.le_refl _) nofun ⟨rfl, rfl, rfl, rfl⟩
  · rcases one with rfl | rfl <;> simp [shut, Acceptor.hand?]
  · simp [shut, Stage.live]
  · simp [shut]
  · exact iff_of_false nofun (not_in_hand hand apart stage)

theorem Sound.register (sound : Sound proxy) (hand : proxy.acceptor.hand? = some (k, .held)) :
    Sound { proxy.put k { proxy.connections k with stage := .registered, id := proxy.nextId } with
      sockets := proxy.sockets ++ [(proxy.nextId, k)]
      nextId := proxy.nextId + 1
      acceptor := .spawning k } := by
  refine sound.put rfl ⟨fun stage one => ?_, ?_, ?_⟩ (fun j apart stage => ?_)
    (fun _ _ inside _ => List.mem_append_left _ inside) (Nat.le_succ _)
    (fun _ j apart theirs => ?_) ⟨rfl, rfl, rfl, rfl⟩
  · rcases one with rfl | rfl <;> simp [Acceptor.hand?]
  · simp
  · simp
  · exact iff_of_false (by simp [Acceptor.hand?, apart.symm]) (not_in_hand hand apart stage)
  · exact Nat.ne_of_lt ((sound.each j).listed theirs).2

theorem Sound.spawn (sound : Sound proxy) (spawning : proxy.acceptor = .spawning k) :
    Sound { proxy.atStage k .cloning with acceptor := .checking } := by
  have hand : proxy.acceptor.hand? = some (k, .registered) := by rw [spawning]; rfl
  have here := ((sound.each k).owned .registered (.inr rfl)).mpr hand
  have live : (proxy.connections k).stage.live = true := by rw [here]; rfl
  refine sound.put rfl ⟨fun stage one => ?_, ?_, ?_⟩ (fun j apart stage => ?_)
    (fun _ _ inside _ => inside) (Nat.le_refl _) (fun _ j apart theirs same => ?_)
    ⟨rfl, rfl, rfl, rfl⟩
  · rcases one with rfl | rfl <;> simp [atStage, Acceptor.hand?]
  · simp only [atStage, put_connections_self]
    exact fun _ => (sound.each k).listed live
  · simp [atStage]
  · exact iff_of_false nofun (not_in_hand hand apart stage)
  · exact apart (sound.distinct j k theirs live same)

theorem sound_of_serves {ok : Bool} (sound : Sound proxy)
    (stepped : proxy.serves ok = some next) : Sound next := by
  unfold serves at stepped
  split at stepped
  case h_1 checking =>
      obtain rfl := Option.some.inj stepped
      refine sound.rests ⟨rfl, ?_, rfl, rfl⟩ sound.stopping sound.swept
      simp only [checking]
      split <;> rfl
  case h_2 k holding =>
      have hand : proxy.acceptor.hand? = some (k, .held) := by rw [holding]; rfl
      split at stepped
      · obtain rfl := Option.some.inj stepped
        exact sound.rests ⟨rfl, hand.symm, rfl, rfl⟩ sound.stopping sound.swept
      · obtain rfl := Option.some.inj stepped
        exact sound.drop hand
  case h_3 k duplicating =>
      have hand : proxy.acceptor.hand? = some (k, .held) := by rw [duplicating]; rfl
      split at stepped
      · obtain rfl := Option.some.inj stepped
        exact sound.rests ⟨rfl, hand.symm, rfl, rfl⟩ sound.stopping sound.swept
      · obtain rfl := Option.some.inj stepped
        exact sound.drop hand
  case h_4 k registering =>
      obtain rfl := Option.some.inj stepped
      exact sound.register (by rw [registering]; rfl)
  case h_5 k spawning =>
      obtain rfl := Option.some.inj stepped
      exact sound.spawn spawning
  all_goals cases stepped

theorem Sound.sweep (sound : Sound proxy) (stopping : proxy.stopping = true) :
    Sound { proxy.sweep with stopper := .joining proxy.threads, threads := [] } := by
  have same : ∀ k, (proxy.sweep.connections k).stage = (proxy.connections k).stage ∧
      (proxy.sweep.connections k).id = (proxy.connections k).id ∧
      ((proxy.connections k).shut = true → (proxy.sweep.connections k).shut = true) := by
    intro k
    simp only [Downstream.sweep]
    split
    · exact ⟨rfl, rfl, fun _ => rfl⟩
    · exact ⟨rfl, rfl, id⟩
  refine ⟨fun k => ?_, fun k j => ?_, fun _ => stopping, fun _ => rfl⟩
  · obtain ⟨stage, id, shut⟩ := same k
    have each := sound.each k
    refine ⟨fun at' one => ?_, ?_, ?_⟩
    · exact (iff_of_eq (congrArg (· = at') stage)).trans (each.owned at' one)
    · simp only [stage, id]
      exact each.listed
    · simp only [stage]
      exact fun left => shut (each.shut left)
  · obtain ⟨stage, id, -⟩ := same k
    obtain ⟨stage', id', -⟩ := same j
    simp only [stage, stage', id, id']
    exact sound.distinct k j

theorem sound_of_stops {late : Bool} (sound : Sound proxy)
    (stepped : proxy.stops late = some next) : Sound next := by
  unfold stops at stepped
  split at stepped
  case h_1 =>
      obtain rfl := Option.some.inj stepped
      refine sound.rests ⟨rfl, rfl, rfl, rfl⟩ (fun _ => rfl) ?_
      rintro (returned | ⟨threads, joining⟩)
      · exact sound.swept (.inl returned)
      · cases joining
  case h_2 sweeping =>
      obtain rfl := Option.some.inj stepped
      exact sound.sweep (sound.stopping (.inr sweeping))
  case h_3 joining =>
      have swept := sound.swept (.inr ⟨_, joining⟩)
      obtain rfl := Option.some.inj stepped
      exact sound.rests ⟨rfl, rfl, rfl, rfl⟩ (fun _ => sound.stopping (.inl swept)) fun _ => swept
  case h_4 joining =>
      have swept := sound.swept (.inr ⟨_, joining⟩)
      have rests : ∀ {stopper : Stopper} {returned : Bool},
          Sound { proxy with stopper, returned } := fun {_ _} =>
        sound.rests ⟨rfl, rfl, rfl, rfl⟩ (fun _ => sound.stopping (.inl swept)) fun _ => swept
      split at stepped
      · obtain rfl := Option.some.inj stepped
        exact rests
      · split at stepped
        · obtain rfl := Option.some.inj stepped
          exact rests
        · cases stepped
  all_goals cases stepped

theorem sound_of_step (proxy : Downstream) (input : Input) (next : Downstream)
    (sound : Sound proxy) (stepped : proxy.step input = some next) : Sound next := by
  cases input with
  | connects k => exact sound_of_connects sound stepped
  | sends k line => exact sound_of_sends sound stepped
  | closes k => exact sound_of_closes sound stepped
  | accepts accepted => exact sound_of_accepts sound stepped
  | serves ok => exact sound_of_serves sound stepped
  | writes k ok => exact sound_of_writes sound stepped
  | pumpEnds =>
      simp only [step, Option.ite_none_right_eq_some, Option.some.injEq] at stepped
      obtain ⟨-, rfl⟩ := stepped
      exact sound.rests ⟨rfl, rfl, rfl, rfl⟩ (fun _ => rfl) sound.swept
  | stop =>
      simp only [step, Option.ite_none_right_eq_some, Option.some.injEq] at stepped
      obtain ⟨idle, rfl⟩ := stepped
      refine sound.rests ⟨rfl, rfl, rfl, rfl⟩ (fun some => ?_) fun some => ?_
      · rcases some with swept | sweeping
        · exact sound.stopping (.inl swept)
        · cases sweeping
      · rcases some with returned | ⟨threads, joining⟩
        · exact sound.swept (.inl returned)
        · cases joining
  | stops late => exact sound_of_stops sound stepped

/-! ### After the sweep -/

def Settled (proxy : Downstream) : Prop :=
  proxy.swept = true → ∀ k, (proxy.connections k).Settled

/-- The request is there of the connection that was accepted and not registered yet. -/
def handComplete (proxy : Downstream) : Bool :=
  match proxy.acceptor with
  | .holding k | .duplicating k | .registering k => (proxy.connections k).complete
  | .checking | .accepting | .spawning _ | .done => true

/-- At the sweep and after it a connection that the accept loop takes, or has in its hands
    and has not registered, is one whose request is there or that is closed. -/
def Attended (proxy : Downstream) : Input → Prop
  | .stops _ => proxy.stopper = .sweeping → proxy.handComplete = true
  | .accepts (.connection k) =>
      proxy.swept = true → (proxy.connections k).complete = true
  | _ => True

instance (proxy : Downstream) (input : Input) : Decidable (Attended proxy input) :=
  match input with
  | .stops _ => inferInstanceAs (Decidable (proxy.stopper = .sweeping → proxy.handComplete = true))
  | .accepts (.connection k) =>
      inferInstanceAs (Decidable (proxy.swept = true → (proxy.connections k).complete = true))
  | .connects _ | .sends _ _ | .closes _ | .accepts .wouldBlock | .accepts .failed | .serves _
  | .writes _ _ | .pumpEnds | .stop => isTrue trivial

theorem complete_of_hand (attended : proxy.handComplete = true)
    (hand : proxy.acceptor.hand? = some (k, .held)) : (proxy.connections k).complete = true := by
  cases here : proxy.acceptor <;> simp_all [handComplete, Acceptor.hand?]

theorem complete_sends {connection : Connection} (line : Line)
    (complete : connection.complete = true) :
    { connection with unread := connection.unread ++ [line] }.complete = true := by
  simp only [Connection.complete, List.any_append, Bool.or_eq_true] at complete ⊢
  tauto

theorem Settled.put (settled : Settled proxy) {connection : Connection}
    (put : next.connections = (proxy.put k connection).connections)
    (swept : next.swept = proxy.swept) (mine : proxy.swept = true → connection.Settled) :
    Settled next := by
  intro after j
  rw [swept] at after
  rw [put]
  by_cases apart : j = k
  · rw [apart, put_connections_self]
    exact mine after
  · rw [put_connections_of_ne connection apart]
    exact settled after j

theorem Settled.rests (settled : Settled proxy) (connections : next.connections = proxy.connections)
    (swept : next.swept = proxy.swept) : Settled next := by
  unfold Settled
  rw [connections, swept]
  exact settled

theorem settled_of_connects (settled : Settled proxy) (stepped : proxy.connects k = some next) :
    Settled next := by
  simp only [connects, Option.ite_none_right_eq_some, Option.some.injEq] at stepped
  obtain ⟨-, rfl⟩ := stepped
  exact settled.put rfl rfl fun _ => nofun

/-- The client can only help. -/
theorem settled_of_client {connection connection' : Connection} (settled : connection.Settled)
    (stage : connection'.stage = connection.stage) (shut : connection'.shut = connection.shut)
    (complete : connection.complete = true → connection'.complete = true) :
    connection'.Settled := by
  simp only [Connection.Settled, Connection.Fine, stage, shut] at settled ⊢
  intro accepted
  rcases settled accepted with already | ⟨asking, there⟩ | further
  · exact .inl already
  · exact .inr (.inl ⟨asking, complete there⟩)
  · exact .inr (.inr further)

theorem settled_of_sends {line : Line} (settled : Settled proxy)
    (stepped : proxy.sends k line = some next) : Settled next := by
  simp only [sends, Option.ite_none_right_eq_some, Option.some.injEq] at stepped
  obtain ⟨-, rfl⟩ := stepped
  exact settled.put rfl rfl fun swept =>
    settled_of_client (settled swept k) rfl rfl (complete_sends line)

theorem settled_of_closes (settled : Settled proxy) (stepped : proxy.closes k = some next) :
    Settled next := by
  simp only [closes, Option.ite_none_right_eq_some, Option.some.injEq] at stepped
  obtain ⟨-, rfl⟩ := stepped
  exact settled.put rfl rfl fun swept => settled_of_client (settled swept k) rfl rfl fun _ => rfl

/-- Where the request is still to be read, it does not matter how far its reader is. -/
theorem settled_of_asking {connection : Connection} {stage : Stage} {id : Nat}
    (settled : connection.Settled) (asked : connection.stage.asking = true)
    (asks : stage.asking = true) : { connection with stage, id }.Settled := by
  intro _
  have accepted : connection.stage.accepted = true := by
    cases here : connection.stage <;> first | rfl | simp [here, Stage.asking] at asked
  rcases settled accepted with already | ⟨-, there⟩ | further
  · exact .inl already
  · exact .inr (.inl ⟨asks, there⟩)
  · rcases further with further | further <;> simp [further, Stage.asking] at asked

theorem settled_of_accepts {accepted : Accepted} (settled : Settled proxy)
    (attended : Attended proxy (.accepts accepted))
    (stepped : proxy.accepts accepted = some next) : Settled next := by
  cases accepted with
  | connection k =>
      simp only [accepts, Option.ite_none_right_eq_some, Option.some.injEq] at stepped
      obtain ⟨-, rfl⟩ := stepped
      exact settled.put rfl rfl fun swept _ => .inr (.inl ⟨rfl, attended swept⟩)
  | wouldBlock | failed =>
      simp only [accepts, Option.ite_none_right_eq_some, Option.some.injEq] at stepped
      obtain ⟨-, rfl⟩ := stepped
      exact settled.rests rfl rfl

theorem settled_of_serves {ok : Bool} (sound : Sound proxy) (settled : Settled proxy)
    (stepped : proxy.serves ok = some next) : Settled next := by
  unfold serves at stepped
  split at stepped
  case h_1 =>
      obtain rfl := Option.some.inj stepped
      exact settled.rests rfl rfl
  case h_2 =>
      split at stepped
      · obtain rfl := Option.some.inj stepped
        exact settled.rests rfl rfl
      · obtain rfl := Option.some.inj stepped
        exact settled.put rfl rfl fun _ _ => .inl rfl
  case h_3 =>
      split at stepped
      · obtain rfl := Option.some.inj stepped
        exact settled.rests rfl rfl
      · obtain rfl := Option.some.inj stepped
        exact settled.put rfl rfl fun _ _ => .inl rfl
  case h_4 k registering =>
      have held := ((sound.each k).owned .held (.inl rfl)).mpr (by rw [registering]; rfl)
      obtain rfl := Option.some.inj stepped
      exact settled.put rfl rfl fun swept =>
        settled_of_asking (settled swept k) (by rw [held]; rfl) rfl
  case h_5 k spawning =>
      have registered := ((sound.each k).owned .registered (.inr rfl)).mpr (by rw [spawning]; rfl)
      obtain rfl := Option.some.inj stepped
      exact settled.put rfl rfl fun swept =>
        settled_of_asking (settled swept k) (by rw [registered]; rfl) rfl
  all_goals cases stepped

theorem settled_of_turn {connection connection' : Connection} (settled : connection.Settled)
    (turn : Turn true connection connection') : connection'.Settled := by
  cases turn with
  | shut => exact fun _ => .inl rfl
  | cloned here => exact settled_of_asking settled (by rw [here]; rfl) rfl
  | @line text unread here next more =>
      intro _
      rcases settled (by rw [here]; rfl) with already | ⟨asking, there⟩ | further
      · exact .inl already
      · refine .inr (.inl ⟨asking, ?_⟩)
        simpa [Connection.complete, next, Line.ends, more] using there
      · rcases further with further | further <;> simp [further] at here
  | blank => exact fun _ => .inr (.inr (.inl rfl))
  | wrote => exact fun _ => .inr (.inr (.inr rfl))
  | frame here runs => cases runs
  | wait => exact settled

theorem settled_of_writes {ok : Bool} (sound : Sound proxy) (settled : Settled proxy)
    (stepped : proxy.writes k ok = some next) : Settled next := by
  obtain ⟨connection, turn, rfl⟩ | ⟨leaving, rfl⟩ := writes_cases stepped
  · refine settled.put rfl rfl fun swept => ?_
    rw [sound.stopping (.inl swept)] at turn
    exact settled_of_turn (settled swept k) turn
  · exact settled.put rfl rfl fun _ _ => .inl ((sound.each k).shut (.inl leaving))

/-- The sweep finds every connection in the accept loop's hands, in `sockets` or done. -/
theorem settled_sweep (sound : Sound proxy) (attended : proxy.handComplete = true) (k : Nat) :
    (proxy.sweep.connections k).Settled := by
  intro accepted
  simp only [sweep] at accepted ⊢
  split
  · exact .inl rfl
  · rename_i unlisted
    rw [if_neg unlisted] at accepted
    have each := sound.each k
    cases here : (proxy.connections k).stage with
    | absent | queued =>
        rw [here] at accepted
        cases accepted
    | held =>
        have hand := (each.owned .held (.inl rfl)).mp here
        exact .inr (.inl ⟨by rw [here]; rfl, complete_of_hand attended hand⟩)
    | gone => exact .inl (each.shut (.inr here))
    | _ =>
        have listed := (each.listed (by rw [here]; rfl)).1
        exact absurd (List.mem_map_of_mem listed) unlisted

theorem settled_of_stops {late : Bool} (sound : Sound proxy) (settled : Settled proxy)
    (attended : Attended proxy (.stops late)) (stepped : proxy.stops late = some next) :
    Settled next := by
  unfold stops at stepped
  split at stepped
  case h_1 =>
      obtain rfl := Option.some.inj stepped
      exact settled.rests rfl rfl
  case h_2 sweeping =>
      obtain rfl := Option.some.inj stepped
      exact fun _ => settled_sweep sound (attended sweeping)
  case h_3 =>
      obtain rfl := Option.some.inj stepped
      exact settled.rests rfl rfl
  case h_4 =>
      split at stepped
      · obtain rfl := Option.some.inj stepped
        exact settled.rests rfl rfl
      · split at stepped
        · obtain rfl := Option.some.inj stepped
          exact settled.rests rfl rfl
        · cases stepped
  all_goals cases stepped

theorem settled_of_step (proxy : Downstream) (input : Input) (next : Downstream)
    (invariant : Sound proxy ∧ Settled proxy) (attended : Attended proxy input)
    (stepped : proxy.step input = some next) : Sound next ∧ Settled next := by
  obtain ⟨sound, settled⟩ := invariant
  refine ⟨sound_of_step proxy input next sound stepped, ?_⟩
  cases input with
  | connects k => exact settled_of_connects settled stepped
  | sends k line => exact settled_of_sends settled stepped
  | closes k => exact settled_of_closes settled stepped
  | accepts accepted => exact settled_of_accepts settled attended stepped
  | serves ok => exact settled_of_serves sound settled stepped
  | writes k ok => exact settled_of_writes sound settled stepped
  | pumpEnds | stop =>
      simp only [step, Option.ite_none_right_eq_some, Option.some.injEq] at stepped
      obtain ⟨-, rfl⟩ := stepped
      exact settled.rests rfl rfl
  | stops late => exact settled_of_stops sound settled attended stepped

/-! ### Without the client -/

/-- A step of the accept loop, or of the connection's writer, that does not fail. -/
def Alone (k : Nat) : Input → Prop
  | .serves ok => ok = true
  | .writes j ok => j = k ∧ ok = true
  | _ => False

/-- The proxy's own steps bring the connection to its end. -/
def EndsAlone (proxy : Downstream) (k : Nat) : Prop :=
  ∃ inputs final, (∀ input ∈ inputs, Alone k input) ∧ run step proxy inputs = some final ∧
    (final.connections k).shut = true

theorem EndsAlone.of_shut (shut : (proxy.connections k).shut = true) : EndsAlone proxy k :=
  ⟨[], proxy, nofun, rfl, shut⟩

theorem EndsAlone.step {input : Input} (alone : Alone k input)
    (stepped : proxy.step input = some next) (ends : EndsAlone next k) : EndsAlone proxy k := by
  obtain ⟨inputs, final, all, ran, shut⟩ := ends
  refine ⟨input :: inputs, final, List.forall_mem_cons.mpr ⟨alone, all⟩, ?_, shut⟩
  simp only [run, stepped, Option.bind_some, ran]

theorem EndsAlone.write (stepped : proxy.writes k true = some next) (ends : EndsAlone next k) :
    EndsAlone proxy k :=
  ends.step (show Alone k (.writes k true) from ⟨rfl, rfl⟩) stepped

theorem EndsAlone.serve (stepped : proxy.serves true = some next) (ends : EndsAlone next k) :
    EndsAlone proxy k :=
  ends.step (show Alone k (.serves true) from rfl) stepped

theorem ends_streaming (stopping : proxy.stopping = true)
    (here : (proxy.connections k).stage = .streaming) : EndsAlone proxy k := by
  have stepped : proxy.writes k true = some (proxy.shut k .leaving) := by
    simp [writes, here, stopping]
  exact .write stepped (.of_shut (by simp [shut]))

theorem ends_answering (stopping : proxy.stopping = true)
    (here : (proxy.connections k).stage = .answering) : EndsAlone proxy k := by
  by_cases shut : (proxy.connections k).shut = true
  · exact .of_shut shut
  · have stepped : proxy.writes k true = some (proxy.atStage k .streaming) := by
      simp [writes, writesTo, here, shut]
    exact .write stepped (ends_streaming stopping (by simp [atStage]))

/-- The writer reads what is there, line by line. -/
theorem ends_reading (stopping : proxy.stopping = true)
    (here : (proxy.connections k).stage = .reading)
    (complete : (proxy.connections k).complete = true) : EndsAlone proxy k := by
  generalize waiting : (proxy.connections k).unread = unread
  induction unread generalizing proxy with
  | nil =>
      have closed : (proxy.connections k).closed = true := by
        simpa [Connection.complete, waiting] using complete
      have stepped : proxy.writes k true = some (proxy.shut k .leaving) := by
        simp [writes, here, readsLine, waiting, closed]
      exact .write stepped (.of_shut (by simp [shut]))
  | cons line unread ih =>
      -- What the connection is once the line is read.
      let read := proxy.put k { proxy.connections k with unread }
      cases line with
      | none =>
          have stepped : proxy.writes k true = some (read.shut k .leaving) := by
            simp [writes, here, readsLine, waiting, read]
          exact .write stepped (.of_shut (by simp [shut]))
      | some text =>
          by_cases blank : trim text = []
          · have stepped : proxy.writes k true = some (read.atStage k .answering) := by
              simp [writes, here, readsLine, waiting, blank, read]
            exact .write stepped (ends_answering stopping (by simp [atStage]))
          · have stepped : proxy.writes k true = some read := by
              simp [writes, here, readsLine, waiting, blank, read]
            refine .write stepped (ih stopping ?_ ?_ ?_)
            · simpa [read] using here
            · simpa [read, Connection.complete, waiting, Line.ends, blank] using complete
            · simp [read]

theorem ends_cloning (stopping : proxy.stopping = true)
    (here : (proxy.connections k).stage = .cloning)
    (complete : (proxy.connections k).complete = true) : EndsAlone proxy k := by
  have stepped : proxy.writes k true = some (proxy.atStage k .reading) := by
    simp [writes, here]
  refine .write stepped (ends_reading stopping ?_ ?_)
  · simp [atStage]
  · simp only [atStage, put_connections_self]
    exact complete

theorem ends_spawning (stopping : proxy.stopping = true) (here : proxy.acceptor = .spawning k)
    (complete : (proxy.connections k).complete = true) : EndsAlone proxy k := by
  have stepped : proxy.serves true =
      some { proxy.atStage k .cloning with acceptor := .checking } := by
    simp [serves, here]
  refine .serve stepped (ends_cloning stopping ?_ ?_)
  · simp [atStage]
  · simp only [atStage, put_connections_self]
    exact complete

theorem ends_registering (stopping : proxy.stopping = true) (here : proxy.acceptor = .registering k)
    (complete : (proxy.connections k).complete = true) : EndsAlone proxy k := by
  have stepped : proxy.serves true = some
      { proxy.put k { proxy.connections k with stage := .registered, id := proxy.nextId } with
        sockets := proxy.sockets ++ [(proxy.nextId, k)]
        nextId := proxy.nextId + 1
        acceptor := .spawning k } := by
    simp [serves, here]
  refine .serve stepped (ends_spawning stopping rfl ?_)
  simp only [put_connections_self]
  exact complete

theorem ends_duplicating (stopping : proxy.stopping = true) (here : proxy.acceptor = .duplicating k)
    (complete : (proxy.connections k).complete = true) : EndsAlone proxy k := by
  have stepped : proxy.serves true = some { proxy with acceptor := .registering k } := by
    simp [serves, here]
  exact .serve stepped (ends_registering stopping rfl complete)

theorem ends_holding (stopping : proxy.stopping = true) (here : proxy.acceptor = .holding k)
    (complete : (proxy.connections k).complete = true) : EndsAlone proxy k := by
  have stepped : proxy.serves true = some { proxy with acceptor := .duplicating k } := by
    simp [serves, here]
  exact .serve stepped (ends_duplicating stopping rfl complete)

theorem ends_held {stage : Stage} (stopping : proxy.stopping = true)
    (hand : proxy.acceptor.hand? = some (k, stage))
    (complete : (proxy.connections k).complete = true) : EndsAlone proxy k := by
  cases here : proxy.acceptor with
  | holding j =>
      obtain ⟨rfl, -⟩ : j = k ∧ _ := by simpa [here, Acceptor.hand?] using hand
      exact ends_holding stopping here complete
  | duplicating j =>
      obtain ⟨rfl, -⟩ : j = k ∧ _ := by simpa [here, Acceptor.hand?] using hand
      exact ends_duplicating stopping here complete
  | registering j =>
      obtain ⟨rfl, -⟩ : j = k ∧ _ := by simpa [here, Acceptor.hand?] using hand
      exact ends_registering stopping here complete
  | spawning j =>
      obtain ⟨rfl, -⟩ : j = k ∧ _ := by simpa [here, Acceptor.hand?] using hand
      exact ends_spawning stopping here complete
  | checking | accepting | done => simp [here, Acceptor.hand?] at hand

/-- What is fine comes to its end alone. -/
theorem ends_of_fine (sound : Sound proxy) (stopping : proxy.stopping = true)
    (fine : (proxy.connections k).Fine) : EndsAlone proxy k := by
  rcases fine with ⟨asking, complete⟩ | answering | streaming
  · cases here : (proxy.connections k).stage with
    | held =>
        exact ends_held stopping (((sound.each k).owned .held (.inl rfl)).mp here) complete
    | registered =>
        exact ends_held stopping (((sound.each k).owned .registered (.inr rfl)).mp here) complete
    | cloning => exact ends_cloning stopping here complete
    | reading => exact ends_reading stopping here complete
    | _ => simp [here, Stage.asking] at asking
  · exact ends_answering stopping answering
  · exact ends_streaming stopping streaming

/-! ### Every run -/

/-- Once a stop has returned, every socket that was accepted is shut down or will be
    without the client. -/
def Released (proxy : Downstream) : Prop :=
  proxy.returned = true → ∀ k, (proxy.connections k).stage.accepted = true →
    (proxy.connections k).shut = true ∨ EndsAlone proxy k

theorem released_of_settled (sound : Sound proxy) (settled : Settled proxy) : Released proxy := by
  intro returned k accepted
  have swept := sound.swept (.inl returned)
  rcases settled swept k accepted with shut | fine
  · exact .inl shut
  · exact .inr (ends_of_fine sound (sound.stopping (.inl swept)) fine)

/-- In every run that takes no connection past a sweep without its request, nothing that was
    accepted is left to its client once a stop has returned. -/
theorem released_throughout_of_attended (inputs : List Input)
    (attended : Meets step Attended initial inputs) : Throughout step Released initial inputs :=
  (throughout_of_meets settled_of_step ⟨sound_initial, nofun⟩ attended).mono
    fun _ holds => released_of_settled holds.1 holds.2

/-- A client that connects and sends nothing. -/
def accepting : List Input :=
  [.connects 0, .serves true, .accepts (.connection 0), .serves true, .serves true, .serves true,
    .serves true, .writes 0 true]

/-- The sweep finds its socket. -/
theorem released_throughout_of_attended_silent :
    (run step initial (accepting ++ [Input.stop, .stops false, .stops false])).isSome = true ∧
      Throughout step Released initial (accepting ++ [Input.stop, .stops false, .stops false]) := by
  have attended :
      Meets step Attended initial (accepting ++ [Input.stop, .stops false, .stops false]) := by
    decide +kernel
  exact ⟨by decide +kernel, released_throughout_of_attended _ attended⟩

/-- The accept loop looked at the flag before the stop, and registers after its sweep. -/
def overtaken : List Input :=
  [.connects 0, .serves true, .stop, .stops false, .stops false, .accepts (.connection 0),
    .serves true, .serves true, .serves true, .serves true, .serves true, .writes 0 true,
    .pumpEnds, .stops false, .stops false, .stops false]

/-- The stop has returned, every thread is joined, and the writer waits for its client. -/
theorem not_released :
    ¬ ∀ inputs final, run step initial inputs = some final → Released final := by
  intro released
  have seen : (run step initial overtaken).map
      (fun proxy => (proxy.returned, proxy.acceptor, proxy.connections 0)) =
        some (true, .done, ⟨.reading, 0, [], false, false⟩) := by
    decide +kernel
  obtain ⟨final, ran, same⟩ := Option.map_eq_some_iff.mp seen
  obtain ⟨returned, same⟩ := Prod.mk.inj same
  obtain ⟨done, here⟩ := Prod.mk.inj same
  rcases released _ final ran returned 0 (by rw [here]; rfl) with shut | ends
  · rw [here] at shut
    cases shut
  · -- No step of the proxy's own is possible.
    obtain ⟨inputs, last, alone, ran, shut⟩ := ends
    cases inputs with
    | nil =>
        obtain rfl := Option.some.inj ran
        rw [here] at shut
        cases shut
    | cons input inputs =>
        simp only [run, Option.bind_eq_some_iff] at ran
        obtain ⟨next, stepped, -⟩ := ran
        have mine := alone input (.head _)
        cases input with
        | serves ok => simp [Downstream.step, serves, done] at stepped
        | writes j ok =>
            obtain ⟨rfl, rfl⟩ := mine
            simp [Downstream.step, writes, readsLine, here] at stepped
        | _ => cases mine

end Downstream

end QuadControl.Ios.Mjpeg
