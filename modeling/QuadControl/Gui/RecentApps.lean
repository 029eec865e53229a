import QuadControl.Gui.IosSession
import QuadControl.Lib.Recency

/-! # The apps a session saw last

Each poll may report the app in the foreground, and the metadata keeps the last few.
What a session writes into its metadata comes in any order; the list depends on the
reports alone, and is the beginning of their order by recency.
-/

namespace QuadControl.Gui.Ios

open Lib

/-- Neither empty nor the home screen. -/
def IsApp (bundleId : Text) : Prop :=
  ¬ (bundleId = [] ∨ Text.eqIgnoreAsciiCase bundleId springboardBundleId)

instance (bundleId : Text) : Decidable (IsApp bundleId) := inferInstanceAs (Decidable (¬ _))

def bundleIds (list : List RecentApp) : List Text := list.map RecentApp.bundleId

/-- What is remembered is put at the front. -/
theorem bundleIds_rememberRecentApp (list : List RecentApp) (bundleId : Text)
    (installed : Option Names) (source : Nat) :
    bundleIds (rememberRecentApp list bundleId installed source) =
      if IsApp bundleId then touch recentAppsLimit (bundleIds list) bundleId else bundleIds list := by
  by_cases app : IsApp bundleId
  · rw [rememberRecentApp, if_neg app, if_pos app]
    simp only [bundleIds, touch, List.map_take, List.map_cons, List.filter_map]
    rfl
  · rw [rememberRecentApp, if_pos (not_not.mp app), if_neg app]

/-! ### Writes into the metadata -/

/-- One write of a session into its metadata. -/
inductive Update where
  | mark (id : Nat)
  | cache (source : Nat) (answer : Answer)
  | request (id : Nat)
  | install (id : Nat) (apps : List InstalledApp)
  deriving Repr, DecidableEq

def IosMeta.update (metadata : IosMeta) : Update → IosMeta
  | .mark id => metadata.mark id
  | .cache source answer => metadata.cache source answer
  | .request id => metadata.request id
  | .install id apps => metadata.install id apps

/-- The app in the foreground that a write reports. -/
def Update.observed : Update → Option Text
  | .cache _ (.app bundleId) => some bundleId
  | _ => none

/-- The apps among the observations. -/
def observedApps (updates : List Update) : List Text :=
  (updates.filterMap Update.observed).filter fun bundleId => IsApp bundleId

theorem bundleIds_update (metadata : IosMeta) (update : Update) :
    bundleIds (metadata.update update).recentApps =
      (observedApps [update]).foldl (touch recentAppsLimit) (bundleIds metadata.recentApps) := by
  cases update with
  | mark | request | install => rfl
  | cache source answer =>
      cases answer with
      | locked | window => rfl
      | app bundleId =>
          simp only [IosMeta.update, IosMeta.cache, bundleIds_rememberRecentApp]
          by_cases app : IsApp bundleId
          · simp [observedApps, Update.observed, app]
          · simp [observedApps, Update.observed, app]

theorem bundleIds_updates (metadata : IosMeta) (updates : List Update) :
    bundleIds (updates.foldl IosMeta.update metadata).recentApps =
      (observedApps updates).foldl (touch recentAppsLimit) (bundleIds metadata.recentApps) := by
  induction updates generalizing metadata with
  | nil => rfl
  | cons update updates ih =>
      have apart :
          observedApps (update :: updates) = observedApps [update] ++ observedApps updates := by
        simp only [observedApps, ← List.filter_append, ← List.filterMap_append,
          List.singleton_append]
      rw [List.foldl_cons, ih, bundleIds_update, apart, List.foldl_append]

/-- The recent apps of a session are the first eight of the apps it saw, by recency. -/
theorem recentApps_recency (updates : List Update) :
    bundleIds (updates.foldl IosMeta.update .default).recentApps =
        (recency (observedApps updates)).take 8 ∧
      (bundleIds (updates.foldl IosMeta.update .default).recentApps).Nodup ∧
      (recency (observedApps updates)).Pairwise (SeenLater (observedApps updates)) ∧
      ∀ bundleId, bundleId ∈ recency (observedApps updates) ↔
        .some bundleId ∈ updates.map Update.observed ∧ IsApp bundleId := by
  have list : bundleIds (updates.foldl IosMeta.update .default).recentApps =
      (recency (observedApps updates)).take recentAppsLimit := by
    rw [bundleIds_updates, ← foldl_touch]
    rfl
  refine ⟨list, ?_, recency_pairwise _, fun bundleId => ?_⟩
  · rw [list]
    exact (recency_nodup _).sublist (List.take_sublist _ _)
  · simp [mem_recency, observedApps]

/-! ### Beside the calls -/

section

open Lib.Interleaving

variable {Device : Type}

/-- The reports that were stored since the metadata started over. -/
def noteSighting (_me : Nat) (shared : Shared Device) (call : Call Device)
    (action : Action Device) (seen : List Text) : List Text :=
  match call, action with
  | .storing _ (.app bundleId :: _), .go => seen ++ [bundleId]
  | .resetting _, .go => []
  | .spawned _ _, .go => if shared.handleIsLive then seen else []
  | _, _ => seen

/-- The list is what is left of the reports. -/
def Remembers (shared : Shared Device) (seen : List Text) : Prop :=
  bundleIds shared.store.metadata.recentApps =
    (recency (seen.filter fun bundleId => IsApp bundleId)).take recentAppsLimit

theorem Remembers.advance {me : Nat} {shared shared' : Shared Device} {call call' : Call Device}
    {action : Action Device} {seen : List Text} (remembers : Remembers shared seen)
    (acted : advance me shared call action = some (shared', call')) :
    Remembers shared' (noteSighting me shared call action seen) := by
  unfold noteSighting
  split
  case h_1 id bundleId rest =>
    obtain ⟨rfl, -⟩ := Prod.mk.inj (Option.some.inj acted)
    rw [Remembers, ← foldl_touch] at remembers ⊢
    simp only [Shared.setMetadata, IosMeta.cache, bundleIds_rememberRecentApp]
    by_cases app : IsApp bundleId
    · simp [app, List.filter_append, remembers]
    · simp [app, List.filter_append, remembers]
  case h_2 =>
    obtain ⟨rfl, -⟩ := Prod.mk.inj (Option.some.inj acted)
    rfl
  case h_3 start id =>
    simp only [Ios.advance] at acted
    split
    case isTrue live =>
      rw [if_pos live] at acted
      obtain ⟨rfl, -⟩ := Prod.mk.inj (Option.some.inj acted)
      exact remembers
    case isFalse free =>
      rw [if_neg free] at acted
      obtain ⟨rfl, -⟩ := Prod.mk.inj (Option.some.inj acted)
      rfl
  case h_4 unseen kept adopted =>
    cases Step.of_advance acted with
    | cache id answer rest =>
        cases answer with
        | locked | window => exact remembers
        | app bundleId => exact absurd rfl (unseen id bundleId rest · rfl)
    | adopt start id => exact absurd rfl (adopted start id · rfl)
    | reset status => exact absurd rfl (kept status · rfl)
    | clear => simpa [Remembers, Shared.setDeviceId] using remembers
    | stop => simpa [Remembers] using remembers
    | _ => exact remembers

/-- In every run of the calls, whatever polls are late, the recent apps are the first of
    the stored reports by recency. -/
theorem run_remembers {events : List (Event (Action Device))}
    {final : Pool (Shared Device × List Text) (Call Device)}
    (ran : run (noted noteSighting advance) ⟨(initial.shared, []), initial.threads⟩ events =
      some final) :
    Remembers final.shared.1 final.shared.2 := by
  have start : Remembers (initial : Pool (Shared Device) (Call Device)).shared [] := rfl
  refine run_invariant (fun pool event next (remembers : Remembers pool.shared.1 pool.shared.2) _
    stepped => ?_) start (meets_trivial _ _) ran
  obtain ⟨shared, own, acted, rfl⟩ := step_some stepped
  obtain ⟨shared', own', acted, same⟩ := noted_some acted
  obtain ⟨rfl, rfl⟩ := Prod.mk.inj same
  exact Remembers.advance remembers acted

end

end QuadControl.Gui.Ios
