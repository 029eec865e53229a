import QuadControl.Gui.IosSession

/-! # Metadata of one session

What the polls of a session are answered is cached in metadata that starts over with
the next session's handle. A poll holds the client of the session it found across
its queries, and stores the answers in whatever metadata it then meets; only the
listing of the installed apps asks first whose metadata that is.
-/

namespace QuadControl.Gui.Ios

open Lib Lib.Interleaving

variable {Device : Type}

/-- The sessions that were asked for what is cached. -/
def IosMeta.sources (metadata : IosMeta) : List Nat :=
  (metadata.window.map Cached.source).toList ++ (metadata.locked.map Cached.source).toList ++
    metadata.recentApps.map RecentApp.source ++ (metadata.installed.map Cached.source).toList

/-- All that is cached for a session was answered for it. -/
def Uncrossed (pool : Pool (Shared Device) (Call Device)) : Prop :=
  ∀ session, pool.shared.store.metadata.sessionId = some session →
    ∀ source ∈ pool.shared.store.metadata.sources, source = session

/-- A poll writes metadata of the session whose handle came into the slot last. -/
def WritesTimely (latest : Option Nat) : Call Device → Action Device → Prop
  | .marking id _, .go | .storing id (_ :: _), .go => latest = some id
  | _, _ => True

def Timely (pool : Pool (Shared Device) (Call Device)) (event : Event (Action Device)) : Prop :=
  WritesTimely pool.shared.ledger.latest (pool.threads event.1) event.2

/-- The metadata is of the session whose handle came last, or of none. -/
structure Current (shared : Shared Device) : Prop where
  session : ∀ id, shared.store.metadata.sessionId = some id → shared.ledger.latest = some id
  sources : ∀ source ∈ shared.store.metadata.sources, shared.ledger.latest = some source

theorem mem_rememberRecentApp {list : List RecentApp} {bundleId : Text} {installed : Option Names}
    {source : Nat} {app : RecentApp}
    (inside : app ∈ rememberRecentApp list bundleId installed source) :
    app.source = source ∨ app ∈ list := by
  unfold rememberRecentApp at inside
  split at inside
  · exact .inr inside
  · rcases List.mem_cons.mp (List.mem_of_mem_take inside) with rfl | inside
    · exact .inl rfl
    · exact .inr (List.mem_of_mem_filter inside)

theorem IosMeta.mem_sources {metadata : IosMeta} {source : Nat} :
    source ∈ metadata.sources ↔
      (∃ window, metadata.window = some window ∧ window.source = source) ∨
      (∃ locked, metadata.locked = some locked ∧ locked.source = source) ∨
      (∃ app ∈ metadata.recentApps, app.source = source) ∨
      (∃ names, metadata.installed = some names ∧ names.source = source) := by
  simp [sources]

theorem IosMeta.sources_cache {metadata : IosMeta} {id source : Nat} {answer : Answer}
    (inside : source ∈ (metadata.cache id answer).sources) :
    source = id ∨ source ∈ metadata.sources := by
  simp only [mem_sources] at inside ⊢
  cases answer with
  | locked value =>
      rcases inside with window | ⟨locked, same, rfl⟩ | rest
      · exact .inr (.inl window)
      · obtain rfl := Option.some.inj same
        exact .inl rfl
      · exact .inr (.inr (.inr rest))
  | window size =>
      rcases inside with ⟨window, same, rfl⟩ | rest
      · obtain rfl := Option.some.inj same
        exact .inl rfl
      · exact .inr (.inr rest)
  | app bundleId =>
      rcases inside with window | locked | ⟨app, recent, rfl⟩ | names
      · exact .inr (.inl window)
      · exact .inr (.inr (.inl locked))
      · rcases mem_rememberRecentApp recent with same | recent
        · exact .inl same
        · exact .inr (.inr (.inr (.inl ⟨app, recent, rfl⟩)))
      · exact .inr (.inr (.inr (.inr names)))

theorem IosMeta.sources_install {metadata : IosMeta} {id source : Nat} {apps : List InstalledApp}
    (inside : source ∈ (metadata.install id apps).sources) :
    source = id ∨ source ∈ metadata.sources := by
  simp only [mem_sources] at inside ⊢
  rcases inside with window | locked | recent | ⟨names, same, rfl⟩
  · exact .inr (.inl window)
  · exact .inr (.inr (.inl locked))
  · exact .inr (.inr (.inr (.inl recent)))
  · obtain rfl := Option.some.inj same
    exact .inl rfl

theorem Current.of_default {shared : Shared Device}
    (empty : shared.store.metadata = .default) : Current shared where
  session := by
    intro id same
    rw [empty] at same
    cases same
  sources := by
    intro source inside
    rw [empty] at inside
    cases inside

theorem Current.own {me : Nat} {shared shared' : Shared Device} {call call' : Call Device}
    {action : Action Device} (step : Step me shared call action shared' call')
    (timely : WritesTimely shared.ledger.latest call action)
    (current : Current shared) : Current shared' := by
  cases step with
  | adopt | reset => exact .of_default rfl
  | clear => exact ⟨by simpa [Shared.setDeviceId] using current.session,
      by simpa [Shared.setDeviceId] using current.sources⟩
  | stop => exact ⟨by simpa using current.session, by simpa using current.sources⟩
  | mark id client next poll =>
      refine ⟨fun other same => ?_, current.sources⟩
      obtain rfl := Option.some.inj same
      exact timely
  | cache id answer rest =>
      have latest : shared.ledger.latest = some id := timely
      refine ⟨?_, fun source inside => ?_⟩
      · cases answer <;> exact current.session
      · rcases IosMeta.sources_cache inside with rfl | inside
        · exact latest
        · exact current.sources source inside
  | name id apps marked =>
      have latest := current.session id marked
      refine ⟨current.session, fun source inside => ?_⟩
      rcases IosMeta.sources_install inside with rfl | inside
      · exact latest
      · exact current.sources source inside
  | supervise | refuse | record | reject | place | spawnFailed | spawn | fail | fallBack | discard
  | launch | poll | look => exact ⟨current.session, current.sources⟩

theorem Current.uncrossed {pool : Pool (Shared Device) (Call Device)}
    (current : Current pool.shared) : Uncrossed pool := by
  intro session marked source inside
  have latest := current.session session marked
  have asked := current.sources source inside
  exact Option.some.inj (asked.symm.trans latest)

theorem Current.step {pool next : Pool (Shared Device) (Call Device)}
    {event : Event (Action Device)} (current : Current pool.shared) (timely : Timely pool event)
    (stepped : Interleaving.step advance pool event = some next) : Current next.shared := by
  obtain ⟨shared, own, acted, rfl⟩ := step_some stepped
  exact current.own (.of_advance acted) timely

/-- In every run whose polls write no metadata of an earlier session, the metadata of a
    session holds answers of that session only. -/
theorem iosSession_metadataUncrossed (events : List (Event (Action Device)))
    (final : Pool (Shared Device) (Call Device)) (timely : Meets advance Timely initial events)
    (ran : run advance initial events = some final) : Uncrossed final := by
  have start : Current (initial : Pool (Shared Device) (Call Device)).shared := .of_default rfl
  have current : Current final.shared :=
    run_invariant (fun _ _ _ current timely stepped => Current.step current timely stepped) start
      timely ran
  exact current.uncrossed

instance (latest : Option Nat) (call : Call Device) (action : Action Device) :
    Decidable (WritesTimely latest call action) := by
  induction call using Call.casesOn with
  | marking id client =>
      induction action using Action.casesOn with
      | go => exact inferInstanceAs (Decidable (latest = some id))
      | _ => exact instDecidableTrue
  | storing id answers =>
      induction answers using List.casesOn with
      | nil => exact instDecidableTrue
      | cons answer rest =>
          induction action using Action.casesOn with
          | go => exact inferInstanceAs (Decidable (latest = some id))
          | _ => exact instDecidableTrue
  | _ => exact instDecidableTrue

instance (pool : Pool (Shared Device) (Call Device)) (event : Event (Action Device)) :
    Decidable (Timely pool event) :=
  inferInstanceAs (Decidable (WritesTimely pool.shared.ledger.latest _ _))

/-- A session runs on a device. -/
def runs (caller id udid : Nat) : List (Event (Action Nat)) :=
  [(caller, .start (.ok ()) udid), (caller, .go), (caller, .spawned (.ok ())), (caller, .go),
    (caller, .supervise id .running)]

/-- A poll stores all it is answered. -/
def asks (caller : Nat) (app : Char) : List (Event (Action Nat)) :=
  [(caller, .status true), (caller, .go),
    (caller, .answered (some false) (some ⟨375, 667⟩) (some [app])), (caller, .go), (caller, .go),
    (caller, .go), (caller, .go), (caller, .go), (caller, .go),
    (caller, .listed (some [⟨[app], [app.toUpper]⟩])), (caller, .go)]

/-- Two sessions, one after the other, each with a poll in its time. -/
def pollEach : List (Event (Action Nat)) :=
  runs 0 1 7 ++ asks 1 'a' ++
    [(2, .stop), (2, .go), (2, .supervise 1 .stopping), (2, .supervise 1 .exited), (3, .status false),
      (3, .go), (3, .go)] ++
    runs 4 2 8 ++ asks 5 'b'

theorem iosSession_metadataUncrossed_pollEach :
    ∃ final, run advance initial pollEach = some final ∧
      final.shared.store.metadata.sources = [2, 2, 2, 2] ∧ Uncrossed final :=
  ⟨_, rfl, rfl, iosSession_metadataUncrossed pollEach _ (by decide) rfl⟩

/-- A poll of session 1 is answered when session 2 is polled already. -/
def lateAnswer : List (Event (Action Nat)) :=
  runs 0 1 7 ++
    [(1, Action.status true), (1, .go), (0, .supervise 1 .stopping), (0, .supervise 1 .exited)] ++
    runs 2 2 7 ++
    [(3, .status false), (3, .go), (1, .answered none (some ⟨375, 667⟩) none), (1, .go)]

theorem iosSession_crosses_sessions :
    ¬ ∀ (events : List (Event (Action Nat))) final, run advance initial events = some final →
      Uncrossed final := by
  intro uncrossed
  obtain ⟨final, ran, session, sources⟩ : ∃ final, run advance initial lateAnswer = some final ∧
      final.shared.store.metadata.sessionId = some 2 ∧
      final.shared.store.metadata.sources = [1] := ⟨_, rfl, rfl, rfl⟩
  have crossed := uncrossed lateAnswer final ran 2 session 1 (by rw [sources]; exact .head _)
  cases crossed

end QuadControl.Gui.Ios
