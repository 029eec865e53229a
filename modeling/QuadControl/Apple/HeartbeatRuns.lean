import QuadControl.Apple.Heartbeats

/-! # The heartbeats of whole runs

The log of a run is told from both sides. An acknowledgement goes back to a heartbeat that
was accepted, and that to one that was sent. As a session sends nothing new before the last
heartbeat is acknowledged, the server has no gap to accept.
-/

namespace QuadControl.Apple.Diagnostic

open Lib Lib.Utf8 Constants

/-! ### What the log tells of the server -/

section Log

variable {Id : Type} {log : List (Beat Id)}

def Beat.accepts : Beat Id → Option (Established × ℕ)
  | .sent _ _ _ => none
  | .accepted _ session sequence => some (session, sequence.toNat)
  | .acknowledged _ _ _ => none

/-- The heartbeats that the server accepted, the earliest first. -/
def accepted (log : List (Beat Id)) : List (Established × ℕ) := log.reverse.filterMap Beat.accepts

/-- The numbers of those in one session. -/
def acceptedIn (session : Established) (log : List (Beat Id)) : List ℕ :=
  (accepted log).filterMap fun (session', sequence) =>
    if session' = session then some sequence else none

theorem accepted_cons (entry : Beat Id) :
    accepted (entry :: log) = accepted log ++ entry.accepts.toList := by
  unfold accepted
  rw [List.reverse_cons, List.filterMap_append]
  cases told : entry.accepts with
  | none => rw [List.filterMap_cons_none told, Option.toList_none, List.filterMap_nil]
  | some beat => rw [List.filterMap_cons_some told, Option.toList_some, List.filterMap_nil]

theorem mem_accepted {connectionID : Id} {session : Established} {sequence : UInt64}
    (inside : .accepted connectionID session sequence ∈ log) :
    (session, sequence.toNat) ∈ accepted log :=
  List.mem_filterMap.mpr ⟨_, List.mem_reverse.mpr inside, rfl⟩

/-- Numbers that are those of one session are those of each. -/
theorem acceptedIn_range {session : Established} {count : ℕ}
    (all : accepted log = (List.range' 1 count).map (session, ·)) (session' : Established) :
    ∃ count, acceptedIn session' log = List.range' 1 count := by
  unfold acceptedIn
  rw [all, List.filterMap_map]
  by_cases same : session = session'
  · refine ⟨count, ?_⟩
    simp [same]
  · refine ⟨0, ?_⟩
    simp [same]

/-- What must have come before. -/
def Beat.Due (beat : Beat Id) (before : List (Beat Id)) : Prop :=
  match beat with
  | .sent _ _ _ => True
  | .accepted _ session sequence => ∃ number, .sent number session sequence ∈ before
  | .acknowledged _ session sequence =>
      ∃ connectionID, .accepted connectionID session sequence ∈ before

theorem Beat.Due.mono {beat : Beat Id} {before : List (Beat Id)} (due : beat.Due before)
    (longer : before ⊆ log) : beat.Due log := by
  cases beat with
  | sent number session sequence => trivial
  | accepted connectionID session sequence =>
      obtain ⟨number, inside⟩ := due
      exact ⟨number, longer inside⟩
  | acknowledged number session sequence =>
      obtain ⟨connectionID, inside⟩ := due
      exact ⟨connectionID, longer inside⟩

end Log

variable {Id Peer : Type} {coders : Coders} {primitives : Primitives}

/-- What the log tells of the server fits its counters. -/
structure ServerHolds (server : Server Id Peer) (log : List (Beat Id)) : Prop where
  named : ∀ connectionID connection, server.handlers connectionID = some connection →
    connection.connectionID = connectionID
  beating : ∀ connectionID connection, server.handlers connectionID = some connection →
    connection.Beating
  used : ∀ connectionID connection, server.handlers connectionID = some connection →
    connection.Complete → server.around.token.consumed = true
  once : ∀ connectionID connection other connection',
    server.handlers connectionID = some connection → connection.Complete →
    server.handlers other = some connection' → connection'.Complete → other = connectionID
  tallied : ∀ connectionID connection, server.handlers connectionID = some connection →
    connection.Complete →
    ∃ session, accepted log = (List.range' 1 connection.beatsAccepted.toNat).map (session, ·) ∧
      ∀ session', connection.established = some session' → session' = session
  silent : (∀ connectionID connection, server.handlers connectionID = some connection →
    ¬ connection.Complete) → accepted log = []

section Counts

variable [DecidableEq Id] {server next : Server Id Peer}

omit [DecidableEq Id] in
/-- Where no counter moves, nothing is told. -/
theorem Server.counts_eq_nil {happening : Happening Id Peer}
    (same : ∀ connectionID connection connection',
      server.handlers connectionID = some connection →
      next.handlers connectionID = some connection' →
      connection'.beatsAccepted = connection.beatsAccepted) :
    server.counts next happening = [] := by
  cases happening with
  | received connectionID result readings =>
      unfold Server.counts
      dsimp only
      split
      · rename_i connection connection' here here'
        have level := same connectionID connection connection' here here'
        unfold ServerConnection.counts
        split
        · rfl
        · rw [if_pos level]
      · rfl
  | _ => rfl

theorem Server.counts_put_eq_nil {happening : Happening Id Peer} {turn : Turn Id Peer}
    (same : ∀ connection, server.handlers turn.connection.connectionID = some connection →
      turn.connection.beatsAccepted = connection.beatsAccepted) :
    server.counts (server.put turn) happening = [] := by
  apply Server.counts_eq_nil
  intro connectionID connection connection' here here'
  obtain ⟨rfl, rfl⟩ | ⟨-, here'⟩ := server.handlers_put_eq_some here'
  · exact same connection here
  · rw [Option.some.inj (here'.symm.trans here)]

/-- A happening in which a handler accepts a heartbeat of a session. -/
inductive Server.Hears (coders : Coders) (primitives : Primitives) (server : Server Id Peer)
    (happening : Happening Id Peer) (session : Established) (next : Server Id Peer) : Prop where
  | intro {connection : ServerConnection Id Peer} {turn : Turn Id Peer} {body : Bytes}
      {readings : Readings}
      (heard : happening = .received turn.connection.connectionID (.ok body) readings)
      (here : server.handlers turn.connection.connectionID = some connection)
      (named : connection.connectionID = turn.connection.connectionID)
      (accepts : Turn.Accepts coders primitives ⟨connection, server.around⟩ body session turn)
      (put : next = server.put turn)

theorem Server.Hears.counts {happening : Happening Id Peer} {session : Established}
    {connection : ServerConnection Id Peer} {turn : Turn Id Peer} {body : Bytes}
    {readings : Readings}
    (heard : happening = .received turn.connection.connectionID (.ok body) readings)
    (here : server.handlers turn.connection.connectionID = some connection)
    (named : connection.connectionID = turn.connection.connectionID)
    (accepts : Turn.Accepts coders primitives ⟨connection, server.around⟩ body session turn) :
    server.counts (server.put turn) happening =
      [.accepted turn.connection.connectionID session turn.connection.beatsAccepted] := by
  obtain rfl := heard
  have moved : turn.connection.beatsAccepted ≠ connection.beatsAccepted := by
    intro same
    have later := accepts.later
    rw [same] at later
    exact absurd later (lt_irrefl _)
  have established : connection.established = some session := accepts.here
  unfold Server.counts
  dsimp only
  rw [here, server.handlers_put_self]
  unfold ServerConnection.counts
  dsimp only
  rw [established]
  dsimp only
  rw [if_neg moved, named]

end Counts

namespace ServerHolds

variable {server next : Server Id Peer} {log : List (Beat Id)}

theorem start (token : OneTimeToken) : ServerHolds (.start token : Server Id Peer) [] := by
  constructor
  case named => exact fun _ _ here => nomatch here
  case beating => exact fun _ _ here => nomatch here
  case used => exact fun _ _ here => nomatch here
  case once => exact fun _ _ _ _ here => nomatch here
  case tallied => exact fun _ _ here => nomatch here
  case silent => exact fun _ => rfl

theorem unmoved (holds : ServerHolds server log) (handlers : next.handlers = server.handlers)
    (token : next.around.token = server.around.token) : ServerHolds next log := by
  constructor
  case named => exact handlers ▸ holds.named
  case beating => exact handlers ▸ holds.beating
  case used => exact handlers ▸ token ▸ holds.used
  case once => exact handlers ▸ holds.once
  case tallied => exact handlers ▸ holds.tallied
  case silent => exact handlers ▸ holds.silent

/-- An entry that is not of the server. -/
theorem cons (holds : ServerHolds server log) {entry : Beat Id} (other : entry.accepts = none) :
    ServerHolds server (entry :: log) := by
  have same : accepted (entry :: log) = accepted log := by
    rw [accepted_cons, other, Option.toList_none, List.append_nil]
  refine ⟨holds.named, holds.beating, holds.used, holds.once, ?_, ?_⟩
  · rw [same]
    exact holds.tallied
  · rw [same]
    exact holds.silent

/-- What was accepted has a number that the handler with the session has reached. -/
theorem reached (holds : ServerHolds server log) {connectionID : Id}
    {connection : ServerConnection Id Peer} (here : server.handlers connectionID = some connection)
    (complete : connection.Complete) {other : Id} {session : Established} {sequence : UInt64}
    (inside : .accepted other session sequence ∈ log) :
    sequence.toNat ≤ connection.beatsAccepted.toNat := by
  obtain ⟨session', all, -⟩ := holds.tallied connectionID connection here complete
  have told := mem_accepted inside
  rw [all] at told
  obtain ⟨number, below, same⟩ := List.mem_map.mp told
  obtain ⟨-, rfl⟩ := Prod.mk.inj same
  have range := (List.mem_range'_1.mp below).2
  omega

/-- Who accepts a heartbeat has come to a session. -/
theorem complete (holds : ServerHolds server log) {connectionID : Id}
    {connection : ServerConnection Id Peer} {turn : Turn Id Peer} {body : Bytes}
    {session : Established} (here : server.handlers connectionID = some connection)
    (accepts : Turn.Accepts coders primitives ⟨connection, server.around⟩ body session turn) :
    connection.Complete :=
  (holds.beating _ connection here).complete (ServerConnection.established_eq_some accepts.here).1

/-- What was accepted is numbered without a gap, in one session. -/
theorem numbered (holds : ServerHolds server log) :
    ∃ session count, accepted log = (List.range' 1 count).map (session, ·) := by
  by_cases found : ∃ connectionID connection, server.handlers connectionID = some connection ∧
      connection.Complete
  · obtain ⟨connectionID, connection, here, complete⟩ := found
    obtain ⟨session, all, -⟩ := holds.tallied connectionID connection here complete
    exact ⟨session, _, all⟩
  · refine ⟨⟨[], []⟩, 0, holds.silent fun connectionID connection here complete => ?_⟩
    exact found ⟨connectionID, connection, here, complete⟩

variable [DecidableEq Id]

/-- The turn of a handler, or of a new one. -/
theorem put (holds : ServerHolds server log) {turn : Turn Id Peer} {log' : List (Beat Id)}
    (beating : turn.connection.Beating)
    (used : turn.connection.Complete → turn.around.token.consumed = true)
    (kept : server.around.token.consumed = true → turn.around.token.consumed = true)
    (alone : turn.connection.Complete → ∀ other connection,
      server.handlers other = some connection → connection.Complete →
      other = turn.connection.connectionID)
    (tallied : turn.connection.Complete → ∃ session,
      accepted log' = (List.range' 1 turn.connection.beatsAccepted.toNat).map (session, ·) ∧
        ∀ session', turn.connection.established = some session' → session' = session)
    (early : ¬ turn.connection.Complete → accepted log' = accepted log ∧
      ∀ connection, server.handlers turn.connection.connectionID = some connection →
        ¬ connection.Complete) :
    ServerHolds (server.put turn) log' := by
  constructor
  case named =>
    intro other connection here
    obtain ⟨rfl, rfl⟩ | ⟨-, here⟩ := server.handlers_put_eq_some here
    · rfl
    · exact holds.named other connection here
  case beating =>
    intro other connection here
    obtain ⟨rfl, rfl⟩ | ⟨-, here⟩ := server.handlers_put_eq_some here
    · exact beating
    · exact holds.beating other connection here
  case used =>
    intro other connection here complete
    obtain ⟨rfl, rfl⟩ | ⟨-, here⟩ := server.handlers_put_eq_some here
    · exact used complete
    · exact kept (holds.used other connection here complete)
  case once =>
    intro first connection second connection' here complete here' complete'
    obtain ⟨rfl, rfl⟩ | ⟨ne, here⟩ := server.handlers_put_eq_some here
    · obtain ⟨rfl, -⟩ | ⟨-, here'⟩ := server.handlers_put_eq_some here'
      · rfl
      · exact alone complete second connection' here' complete'
    · obtain ⟨rfl, rfl⟩ | ⟨-, here'⟩ := server.handlers_put_eq_some here'
      · exact absurd (alone complete' first connection here complete) ne
      · exact holds.once first connection second connection' here complete here' complete'
  case tallied =>
    intro other connection here complete
    obtain ⟨rfl, rfl⟩ | ⟨ne, here⟩ := server.handlers_put_eq_some here
    · exact tallied complete
    · have open' : ¬ turn.connection.Complete := fun complete' =>
        ne (alone complete' other connection here complete)
      rw [(early open').1]
      exact holds.tallied other connection here complete
  case silent =>
    intro none
    have open' := none turn.connection.connectionID turn.connection (server.handlers_put_self turn)
    obtain ⟨same, old⟩ := early open'
    rw [same]
    apply holds.silent
    intro other connection here
    by_cases named : other = turn.connection.connectionID
    · subst named
      exact old connection here
    · apply none other connection
      rw [server.handlers_put_of_ne named]
      exact here

theorem rests (holds : ServerHolds server log) {connection : ServerConnection Id Peer}
    {turn : Turn Id Peer}
    (here : server.handlers turn.connection.connectionID = some connection)
    (rests : Turn.Rests ⟨connection, server.around⟩ turn) : ServerHolds (server.put turn) log := by
  apply holds.put
  case beating => exact rests.beating (holds.beating _ connection here)
  case used =>
    intro complete
    rw [rests.token]
    exact holds.used _ connection here (rests.complete.mp complete)
  case kept => exact fun consumed => rests.token.trans consumed
  case alone =>
    intro complete other connection' here' complete'
    exact holds.once _ connection other connection' here (rests.complete.mp complete) here' complete'
  case tallied =>
    intro complete
    obtain ⟨session, all, established⟩ :=
      holds.tallied _ connection here (rests.complete.mp complete)
    refine ⟨session, rests.accepted ▸ all, fun session' here' => ?_⟩
    rcases rests.established with same | ended
    · exact established session' (same ▸ here')
    · rw [ended] at here'
      cases here'
  case early =>
    intro early
    refine ⟨rfl, fun connection' here' complete => early ?_⟩
    obtain rfl := Option.some.inj (here.symm.trans here')
    exact rests.complete.mpr complete

/-- The token is used once. -/
theorem begins (holds : ServerHolds server log) {connection : ServerConnection Id Peer}
    {turn : Turn Id Peer}
    (here : server.handlers turn.connection.connectionID = some connection)
    (waits : connection.phase.Waiting) (late : ¬ turn.connection.phase.Waiting)
    (unused : server.around.token.consumed = false) (used : turn.around.token.consumed = true)
    (counter : turn.connection.beatsAccepted = connection.beatsAccepted)
    (complete : turn.connection.Complete) : ServerHolds (server.put turn) log := by
  have early : ∀ other connection', server.handlers other = some connection' →
      ¬ connection'.Complete := by
    intro other connection' here' complete'
    have consumed := holds.used other connection' here' complete'
    rw [unused] at consumed
    cases consumed
  apply holds.put
  case beating => exact ⟨fun waits' => absurd waits' late, fun _ => complete, fun _ => complete⟩
  case used => exact fun _ => used
  case kept => exact fun _ => used
  case alone =>
    intro _ other connection' here' complete'
    exact absurd complete' (early other connection' here')
  case tallied =>
    intro _
    refine ⟨turn.connection.established.getD ⟨[], []⟩, ?_, fun session' here' => ?_⟩
    · rw [holds.silent early, counter, (holds.beating _ connection here).zero waits]
      rfl
    · rw [here', Option.getD_some]
  case early => exact fun open' => absurd complete open'

/-- A heartbeat that is accepted has the next number. -/
theorem accepts (holds : ServerHolds server log) {connection : ServerConnection Id Peer}
    {turn : Turn Id Peer} {body : Bytes} {session : Established}
    (here : server.handlers turn.connection.connectionID = some connection)
    (accepts : Turn.Accepts coders primitives ⟨connection, server.around⟩ body session turn)
    (next : turn.connection.beatsAccepted.toNat = connection.beatsAccepted.toNat + 1) :
    ServerHolds (server.put turn)
      (.accepted turn.connection.connectionID session turn.connection.beatsAccepted :: log) := by
  have before : connection.Complete := holds.complete here accepts
  have complete : turn.connection.Complete := accepts.complete.mpr before
  apply holds.put
  case beating =>
    exact ⟨fun waits => absurd waits accepts.late, fun _ => complete, fun _ => complete⟩
  case used =>
    intro _
    rw [accepts.token]
    exact holds.used _ connection here before
  case kept => exact fun consumed => accepts.token.trans consumed
  case alone =>
    intro _ other connection' here' complete'
    exact holds.once _ connection other connection' here before here' complete'
  case tallied =>
    intro _
    obtain ⟨session', all, established⟩ := holds.tallied _ connection here before
    obtain rfl := established session accepts.here
    refine ⟨session, ?_, fun session' here' => ?_⟩
    · rw [accepted_cons, all, next, List.range'_1_concat, List.map_append, Nat.add_comm 1, ← next]
      rfl
    · rcases accepts.established with same | ended
      · exact Option.some.inj (here'.symm.trans same)
      · rw [ended] at here'
        cases here'
  case early => exact fun open' => absurd complete open'

theorem starts (holds : ServerHolds server log) {connection : ServerConnection Id Peer}
    {around : Surroundings Id Peer} (new : server.handlers connection.connectionID = none)
    (phase : connection.phase = .awaitingReady) (counter : connection.incomingSequence = .new)
    (early : ¬ connection.Complete) (token : around.token = server.around.token) :
    ServerHolds (server.put ⟨connection, around⟩) log := by
  apply holds.put
  case beating =>
    have zero : connection.beatsAccepted = 0 := by
      rw [ServerConnection.beatsAccepted, counter]
      rfl
    refine ⟨fun _ => zero, fun late => ?_, fun counted => absurd zero counted⟩
    rw [phase] at late
    cases late
  case used => exact fun complete => absurd complete early
  case kept => exact fun consumed => token ▸ consumed
  case alone => exact fun complete => absurd complete early
  case tallied => exact fun complete => absurd complete early
  case early =>
    refine fun _ => ⟨rfl, fun connection' here => ?_⟩
    rw [new] at here
    cases here

variable [DecidableEq Peer]

theorem stopAll (holds : ServerHolds server log) (nowNanos : Nat) (order : List Id) :
    ServerHolds (server.stopAll nowNanos order) log := by
  induction order generalizing server with
  | nil => exact holds
  | cons connectionID order ih =>
      unfold Server.stopAll
      split
      · exact ih holds
      · rename_i connection here
        have closes : Turn.Rests ⟨connection, server.around⟩
            (Turn.close ⟨connection, server.around⟩ .network false nowNanos) :=
          .close .network false nowNanos
        have same := closes.same.trans (holds.named connectionID connection here)
        exact ih (holds.rests (same.symm ▸ here) closes)

/-- A step that accepts nothing, or the one that accepts a heartbeat. -/
theorem moves (holds : ServerHolds server log) {happening : Happening Id Peer}
    (moves : Server.Moves coders primitives server happening next) :
    server.counts next happening = [] ∧ ServerHolds next log ∨
      ∃ session, server.Hears coders primitives happening session next := by
  cases moves with
  | none handlers token =>
      left
      refine ⟨?_, holds.unmoved handlers token⟩
      apply Server.counts_eq_nil
      intro connectionID connection connection' here here'
      rw [handlers, here] at here'
      rw [Option.some.inj here']
  | starts new phase counter early put token =>
      obtain rfl := put
      left
      refine ⟨Server.counts_put_eq_nil fun connection here => ?_,
        holds.starts new phase counter early token⟩
      rw [new] at here
      cases here
  | rests here rests put =>
      obtain rfl := put
      left
      refine ⟨Server.counts_put_eq_nil fun connection here' => ?_, holds.rests here rests⟩
      obtain rfl := Option.some.inj (here.symm.trans here')
      exact rests.accepted
  | @hears connectionID connection turn body readings heard here same beats put =>
      obtain rfl := same
      obtain rfl := put
      cases beats with
      | rests rests =>
          left
          refine ⟨Server.counts_put_eq_nil fun connection' here' => ?_, holds.rests here rests⟩
          obtain rfl := Option.some.inj (here.symm.trans here')
          exact rests.accepted
      | begins waits late unused used accepted complete =>
          left
          refine ⟨Server.counts_put_eq_nil fun connection' here' => ?_,
            holds.begins here waits late unused used accepted complete⟩
          obtain rfl := Option.some.inj (here.symm.trans here')
          exact accepted
      | @accepts session accepts =>
          exact .inr ⟨session, heard, here, holds.named _ connection here, accepts, rfl⟩
  | stops stop all =>
      obtain rfl := stop
      obtain rfl := all
      exact .inl ⟨rfl, holds.stopAll _ _⟩

end ServerHolds

/-! ### What a block of a session tells -/

namespace Client

variable {client next : Client} {number : ℕ}

theorem counts_eq_nil (sent : next.beatsSent = client.beatsSent)
    (acknowledged : next.beatsAcknowledged = client.beatsAcknowledged) :
    (client.counts number next : List (Beat Id)) = [] := by
  unfold counts
  split
  · rfl
  · rw [if_pos sent, if_pos acknowledged, List.append_nil]

theorem counts_sent {session : Established}
    (here : client.session.established = some session)
    (sent : next.beatsSent.toNat = client.beatsSent.toNat + 1)
    (acknowledged : next.beatsAcknowledged = client.beatsAcknowledged) :
    (client.counts number next : List (Beat Id)) = [.sent number session next.beatsSent] := by
  have moved : next.beatsSent ≠ client.beatsSent := by
    intro same
    rw [same] at sent
    omega
  unfold counts
  rw [here]
  dsimp only
  rw [if_neg moved, if_pos acknowledged, List.append_nil]

theorem counts_acknowledged {session : Established}
    (here : client.session.established = some session)
    (later : client.beatsAcknowledged.toNat < next.beatsAcknowledged.toNat)
    (sent : next.beatsSent = client.beatsSent) :
    (client.counts number next : List (Beat Id)) =
      [.acknowledged number session next.beatsAcknowledged] := by
  have moved : next.beatsAcknowledged ≠ client.beatsAcknowledged := by
    intro same
    rw [same] at later
    omega
  unfold counts
  rw [here]
  dsimp only
  rw [if_pos sent, if_neg moved, List.nil_append]

end Client

/-! ### The two sides together -/

namespace System

/-- What holds of all the parties, whatever the network does. -/
structure Holds (system : System Id Peer) : Prop where
  clients : ∀ number, ClientHolds (system.clients number) number system.log
  slots : system.server.Holds
  server : ServerHolds system.server system.log
  due : ∀ beat before, beat :: before <:+ system.log → beat.Due before

variable {system next : System Id Peer}

theorem due_cons {log : List (Beat Id)} {entry : Beat Id}
    (due : ∀ beat before, beat :: before <:+ log → beat.Due before) (new : entry.Due log) :
    ∀ beat before, beat :: before <:+ entry :: log → beat.Due before := by
  intro beat before ends
  rcases List.suffix_cons_iff.mp ends with same | ends
  · obtain ⟨rfl, rfl⟩ := List.cons.inj same
    exact new
  · exact due beat before ends

theorem Holds.due_of_mem (holds : system.Holds) {beat : Beat Id} (inside : beat ∈ system.log) :
    beat.Due system.log := by
  obtain ⟨after, before, same⟩ := List.append_of_mem inside
  have due := holds.due beat before ⟨after, same.symm⟩
  apply due.mono
  rw [same]
  exact List.subset_append_of_subset_right _ (List.subset_cons_self _ _)

/-- A session that tells nothing. -/
theorem Holds.still (holds : system.Holds) {number : ℕ} {client : Client}
    (own : ClientHolds client number system.log) :
    Holds { system with clients := Function.update system.clients number client } := by
  refine ⟨?_, holds.slots, holds.server, holds.due⟩
  apply (Function.forall_update_iff system.clients fun other client =>
    ClientHolds client other system.log).mpr
  exact ⟨own, fun other _ => holds.clients other⟩

/-- A session that tells of itself. -/
theorem Holds.tell (holds : system.Holds) {number : ℕ} {client : Client} {entry : Beat Id}
    (own : ClientHolds client number (entry :: system.log)) (about : entry.client = some number)
    (due : entry.Due system.log) :
    Holds { system with
      clients := Function.update system.clients number client
      log := entry :: system.log } := by
  have silent : entry.accepts = none := by
    cases entry with
    | sent _ _ _ => rfl
    | accepted _ _ _ => cases about
    | acknowledged _ _ _ => rfl
  refine ⟨?_, holds.slots, holds.server.cons silent, due_cons holds.due due⟩
  apply (Function.forall_update_iff system.clients fun other client =>
    ClientHolds client other (entry :: system.log)).mpr
  refine ⟨own, fun other ne => (holds.clients other).cons ?_⟩
  rw [about]
  exact fun named => ne (Option.some.inj named).symm

theorem Unforged.tagged {event : Event Id Peer} (unforged : system.Unforged coders primitives event)
    {mac key transcript : Bytes} (checks : system.checks coders event = some (mac, key, transcript))
    (valid : primitives.isValid mac key transcript = true) : Tagged system.log key transcript := by
  unfold System.Unforged at unforged
  rw [checks] at unforged
  exact unforged valid

theorem Holds.client (holds : system.Holds) {number : ℕ} {block : Client.Block} {client : Client}
    (unforged : system.Unforged coders primitives (.client number block))
    (stepped : (system.clients number).step coders primitives block = some client) :
    Holds { system with
      clients := Function.update system.clients number client
      log := (system.clients number).counts number client ++ system.log } := by
  have own := holds.clients number
  cases own.paced.step stepped with
  | rests rests =>
      rw [Client.counts_eq_nil rests.sent rests.acknowledged]
      exact holds.still (own.rests rests)
  | begins early sent acknowledged paced =>
      rw [Client.counts_eq_nil sent acknowledged]
      exact holds.still (own.begins early acknowledged paced)
  | sends here sent acknowledged established paced =>
      rw [Client.counts_sent here sent acknowledged]
      exact holds.tell (own.sends here sent acknowledged established paced) rfl trivial
  | acknowledged here checks valid made later sent established paced =>
      rw [Client.counts_acknowledged here later sent]
      have due := (unforged.tagged checks valid).ack made
      exact holds.tell (own.acknowledges here later sent established paced) rfl due

/-- A heartbeat that is accepted was sent by a session, which has all those before
    acknowledged; so it has the number that comes next. -/
theorem Holds.follows (holds : system.Holds) {connection : ServerConnection Id Peer}
    {turn : Turn Id Peer} {body : Bytes} {readings : Readings} {session : Established}
    (unforged : system.Unforged coders primitives
      (.server (.received turn.connection.connectionID (.ok body) readings)))
    (here : system.server.handlers turn.connection.connectionID = some connection)
    (accepts : Turn.Accepts coders primitives ⟨connection, system.server.around⟩ body session turn) :
    (∃ number, .sent number session turn.connection.beatsAccepted ∈ system.log) ∧
      turn.connection.beatsAccepted.toNat = connection.beatsAccepted.toNat + 1 := by
  obtain ⟨envelope, mac, transcript, -, -, sequence, checks, valid, made⟩ := accepts.checked
  have checked : system.checks coders
      (.server (.received turn.connection.connectionID (.ok body) readings)) =
      some (mac, session.sessionKey, transcript) := by
    simp only [System.checks, here, Option.bind_some]
    exact checks
  obtain ⟨number, sent⟩ := (unforged.tagged checked valid).heartbeat made
  rw [← sequence] at sent
  refine ⟨⟨number, sent⟩, ?_⟩
  have own := holds.clients number
  have behind := own.paced.behind
  have below := (own.sent session _ sent).2
  have later := accepts.later
  dsimp only at later
  by_cases first : (system.clients number).beatsAcknowledged = 0
  · rw [first] at behind
    simp at behind
    omega
  · obtain ⟨session', acknowledged⟩ := own.latest first
    obtain ⟨connectionID', accepted⟩ := holds.due_of_mem acknowledged
    have reached := holds.server.reached here (holds.server.complete here accepts) accepted
    omega

variable [DecidableEq Id] [DecidableEq Peer]

theorem Holds.happens (holds : system.Holds) {happening : Happening Id Peer}
    {server : Server Id Peer} (unforged : system.Unforged coders primitives (.server happening))
    (stepped : system.server.step coders primitives happening = some server) :
    Holds { system with
      server := server
      log := system.server.counts server happening ++ system.log } := by
  have slots := holds.slots.step stepped
  rcases holds.server.moves (holds.slots.moves stepped) with ⟨nothing, kept⟩ | ⟨session, hears⟩
  · rw [nothing]
    exact ⟨holds.clients, slots, kept, holds.due⟩
  · obtain ⟨heard, here, named, accepts, rfl⟩ := hears
    rw [Server.Hears.counts heard here named accepts]
    obtain rfl := heard
    obtain ⟨due, next⟩ := holds.follows unforged here accepts
    refine ⟨fun number => (holds.clients number).cons nofun, slots,
      holds.server.accepts here accepts next, due_cons holds.due due⟩

theorem Holds.step (holds : system.Holds) {event : Event Id Peer}
    (unforged : system.Unforged coders primitives event)
    (stepped : system.step coders primitives event = some next) : next.Holds := by
  cases event with
  | client number block =>
      obtain ⟨client, stepped', rfl⟩ := Option.map_eq_some_iff.mp stepped
      exact holds.client unforged stepped'
  | server happening =>
      obtain ⟨server, stepped', rfl⟩ := Option.map_eq_some_iff.mp stepped
      exact holds.happens unforged stepped'

/-- Whatever the network says, a body of a heartbeat that was accepted, or of an
    acknowledgement, is not accepted. -/
theorem Holds.unrepeated (holds : system.Holds) {connectionID : Id} {body : Bytes}
    {readings : Readings} {envelope : Envelope} (decoded : Wire.decode coders body = .ok envelope)
    (old : envelope.type = .ack ∨
      ∃ other session, .accepted other session envelope.sequence ∈ system.log)
    (stepped : system.step coders primitives
      (.server (.received connectionID (.ok body) readings)) = some next) :
    next.log = system.log := by
  obtain ⟨server, stepped', rfl⟩ := Option.map_eq_some_iff.mp stepped
  rcases holds.server.moves (holds.slots.moves stepped') with ⟨nothing, -⟩ | ⟨session, hears⟩
  · dsimp only
    rw [nothing, List.nil_append]
  · exfalso
    obtain @⟨connection, turn, body', readings', heard, here, named, accepts, rfl⟩ := hears
    obtain ⟨rfl, same, rfl⟩ := Happening.received.inj heard
    obtain rfl := Except.ok.inj same
    obtain ⟨envelope', mac, transcript, decoded', type, sequence, -⟩ := accepts.checked
    obtain rfl := Except.ok.inj (decoded.symm.trans decoded')
    rcases old with ack | ⟨other, session', told⟩
    · rw [type] at ack
      cases ack
    · have reached := holds.server.reached here (holds.server.complete here accepts) told
      have later := accepts.later
      rw [sequence] at later
      exact absurd later (not_lt.mpr reached)

/-- Whatever the network makes of a run, as long as it forges no tag: the heartbeats that the
    server accepts in a session are numbered 1, 2, … without a gap, a session takes for
    acknowledged only what the server accepted in it before, which was sent by a session
    before, and no heartbeat is accepted twice, nor an acknowledgement for one. -/
theorem session_heartbeats {value : Bytes} {createdAtNanos : Nat} {token : OneTimeToken}
    (made : OneTimeToken.new value createdAtNanos = .ok token)
    {connectionIDs : Nat → RandomData identifierLength} {tokens : Nat → Bytes}
    {nonces : Nat → RandomData nonceLength} {clients : Nat → Client}
    (began : ∀ number, Client.new (connectionIDs number) (tokens number) (nonces number) =
      .ok (clients number))
    {events : List (Event Id Peer)} {final : System Id Peer}
    (unforged : Machine.Meets (System.step coders primitives)
      (System.Unforged coders primitives) (System.start clients token) events)
    (ran : Machine.run (System.step coders primitives) (System.start clients token) events =
      some final) :
    (∀ session, ∃ count, acceptedIn session final.log = List.range' 1 count) ∧
    (∀ number session sequence before,
      .acknowledged number session sequence :: before <:+ final.log →
        ∃ connectionID, .accepted connectionID session sequence ∈ before) ∧
    (∀ connectionID session sequence before,
      .accepted connectionID session sequence :: before <:+ final.log →
        ∃ number, .sent number session sequence ∈ before) ∧
    ∀ connectionID body readings envelope next, Wire.decode coders body = .ok envelope →
      (envelope.type = .ack ∨
        ∃ other session, .accepted other session envelope.sequence ∈ final.log) →
      final.step coders primitives (.server (.received connectionID (.ok body) readings)) =
        some next → next.log = final.log := by
  obtain ⟨length, rfl⟩ := OneTimeToken.new_eq_ok.mp made
  have start : (System.start clients ⟨value, createdAtNanos, false⟩ : System Id Peer).Holds :=
    ⟨fun number => .new (began number) number, .start length, .start _, fun _ _ ends =>
      absurd (List.eq_nil_of_suffix_nil ends) (List.cons_ne_nil _ _)⟩
  have holds : final.Holds :=
    Machine.run_invariant (fun _ _ _ holds unforged stepped => holds.step unforged stepped) start
      unforged ran
  refine ⟨fun session => ?_, fun _ _ _ _ ends => holds.due _ _ ends,
    fun _ _ _ _ ends => holds.due _ _ ends,
    fun _ _ _ _ _ decoded old stepped => holds.unrepeated decoded old stepped⟩
  obtain ⟨session', count, all⟩ := holds.server.numbered
  exact acceptedIn_range all session

/-- A session is authenticated, a heartbeat goes there and back, and is then repeated. -/
def visit : List (Event Nat Nat) :=
  let serverID : RandomData identifierLength :=
    ⟨Sample.challenge.serverID, Sample.length_serverID⟩
  [.client 0 .start, .client 0 (.transport .ready), .server (.accept 0 (some 10) true 1 serverID 1 1),
    .server (.transport 0 .ready 2),
    .server (.received 0 (.ok (Sample.body Sample.helloEnvelope)) (Server.readings 3)),
    .server (.sent 0 true none 4), .client 0 (.sent .hello none),
    .client 0 (.received .challenge (.ok (Sample.body Sample.challengeEnvelope))),
    .client 0 (.sent .clientProof none),
    .server (.received 0 (.ok (Sample.body Sample.proofEnvelope)) (Server.readings 5)),
    .server (.sent 0 false none 6),
    .client 0 (.received .serverFinished (.ok (Sample.body Sample.finishedEnvelope))),
    .client 0 .heartbeatSchedule, .client 0 (.sent (.heartbeat 1) none),
    .server (.received 0 (.ok (Sample.body Sample.heartbeatEnvelope)) (Server.readings 7)),
    .server (.sent 0 false none 8),
    .client 0 (.received (.ack 1) (.ok (Sample.body Sample.ackEnvelope))),
    .server (.received 0 (.ok (Sample.body Sample.heartbeatEnvelope)) (Server.readings 9))]

theorem session_heartbeats_visit :
    ∃ first final, Client.new ⟨Sample.connectionID, rfl⟩ Sample.token
        ⟨Sample.hello.clientNonce, rfl⟩ = .ok first ∧
      Machine.run (System.step Sample.coders Sample.sessionKit)
        (System.start (fun _ => first) ⟨Sample.token, 0, false⟩) visit = some final ∧
      final.log = [.acknowledged 0 ⟨Sample.sessionID, Sample.key⟩ 1,
        .accepted 0 ⟨Sample.sessionID, Sample.key⟩ 1, .sent 0 ⟨Sample.sessionID, Sample.key⟩ 1] ∧
      ∀ session, ∃ count, acceptedIn session final.log = List.range' 1 count := by
  have runs : ((Client.new ⟨Sample.connectionID, rfl⟩ Sample.token
      ⟨Sample.hello.clientNonce, rfl⟩).toOption.bind fun first =>
        let system : System Nat Nat := System.start (fun _ => first) ⟨Sample.token, 0, false⟩
        if Machine.Meets (System.step Sample.coders Sample.sessionKit)
            (System.Unforged Sample.coders Sample.sessionKit) system visit then
          (Machine.run (System.step Sample.coders Sample.sessionKit) system visit).map System.log
        else none) =
      some [.acknowledged 0 ⟨Sample.sessionID, Sample.key⟩ 1,
        .accepted 0 ⟨Sample.sessionID, Sample.key⟩ 1,
        .sent 0 ⟨Sample.sessionID, Sample.key⟩ 1] := by
    decide +kernel
  obtain ⟨first, began, rest⟩ := Option.bind_eq_some_iff.mp runs
  obtain ⟨unforged, rest⟩ := Option.ite_none_right_eq_some.mp rest
  obtain ⟨final, ran, log⟩ := Option.map_eq_some_iff.mp rest
  have made : OneTimeToken.new Sample.token 0 = .ok ⟨Sample.token, 0, false⟩ := by decide +kernel
  have began' := Except.toOption_eq_some.mp began
  obtain ⟨numbered, -⟩ := session_heartbeats made (fun _ => began') unforged ran
  exact ⟨first, final, began', ran, log, numbered⟩

end System

end QuadControl.Apple.Diagnostic
