import QuadControl.Android.Devices
import QuadControl.Lib.Representatives

/-! # Devices of one identity

A phone that is connected twice is listed under two serials. The list is taken together by
the identities that could be read; the pairs of serials with one identity are all that the
merge is told, and they are the whole relation, so that it does not matter which device
stands for the others when the next one is compared with it.
-/

namespace QuadControl.Android.Wireless

open Lib Lib.Representatives

/-- What was read of the listed devices. -/
def readIdentities (identity : Text → Option Text) (devices : List Device) :
    List (Text × Option Text) :=
  devices.map fun device => (device.serial, identity device.serial)

/-- The identity of a device, where it is known. -/
def known (identity : Text → Option Text) (device : Device) : Option Text := identity device.serial

def isWireless (device : Device) : Bool := isWirelessSerial device.serial

/-! ### The pairs -/

theorem mem_identityPairs {read : List (Text × Option Text)} {pair : Text × Text}
    (inside : pair ∈ identityPairs read) :
    ∃ i, (pair.1, some i) ∈ read ∧ (pair.2, some i) ∈ read := by
  induction read with
  | nil => cases inside
  | cons first rest ih =>
      obtain ⟨serial, identity⟩ := first
      have later : pair ∈ identityPairs rest →
          ∃ i, (pair.1, some i) ∈ (serial, identity) :: rest ∧
            (pair.2, some i) ∈ (serial, identity) :: rest := fun h => by
        obtain ⟨i, left, right⟩ := ih h
        exact ⟨i, .tail _ left, .tail _ right⟩
      cases identity with
      | none => exact later inside
      | some i =>
          rcases List.mem_append.mp inside with here | inside
          · obtain ⟨⟨other, read⟩, found, rfl⟩ := List.mem_map.mp here
            obtain ⟨member, same⟩ := List.mem_filter.mp found
            obtain rfl : read = some i := by simpa using same
            exact ⟨i, .head _, .tail _ member⟩
          · exact later inside

theorem identityPairs_complete {read : List (Text × Option Text)} {left right i : Text}
    (mine : (left, some i) ∈ read) (other : (right, some i) ∈ read) (apart : left ≠ right) :
    (left, right) ∈ identityPairs read ∨ (right, left) ∈ identityPairs read := by
  induction read with
  | nil => cases mine
  | cons first rest ih =>
      obtain ⟨serial, identity⟩ := first
      have pairs : ∀ {serial t}, (t, some i) ∈ rest →
          (serial, t) ∈ identityPairs ((serial, some i) :: rest) := fun inside =>
        List.mem_append_left _ (List.mem_map.mpr ⟨_, List.mem_filter.mpr ⟨inside, by simp⟩, rfl⟩)
      have later : ∀ {pair}, pair ∈ identityPairs rest →
          pair ∈ identityPairs ((serial, identity) :: rest) := fun inside => by
        cases identity with
        | none => exact inside
        | some _ => exact List.mem_append_right _ inside
      rcases List.mem_cons.mp mine with here | behind
      · cases here
        rcases List.mem_cons.mp other with here | behind
        · cases here
          exact absurd rfl apart
        · exact .inl (pairs behind)
      · rcases List.mem_cons.mp other with here | otherBehind
        · cases here
          exact .inr (pairs behind)
        · exact (ih behind otherBehind).imp later later

variable {identity : Text → Option Text} {devices : List Device}

/-- Two of the devices are paired just when their identities are known and the same. -/
theorem isPaired_iff (identity : Text → Option Text) {a b : Device} (aListed : a ∈ devices)
    (bListed : b ∈ devices) (apart : a.serial ≠ b.serial) :
    isPaired (identityPairs (readIdentities identity devices)) a.serial b.serial =
      isAlike (known identity) a b := by
  have readOf : ∀ {s t}, (s, t) ∈ readIdentities identity devices → identity s = t := by
    rintro s t inside
    obtain ⟨device, -, same⟩ := List.mem_map.mp inside
    obtain ⟨rfl, rfl⟩ := Prod.mk.inj same
    rfl
  have listed : ∀ {device : Device} {i}, device ∈ devices → known identity device = some i →
      (device.serial, some i) ∈ readIdentities identity devices := fun inside same =>
    List.mem_map.mpr ⟨_, inside, by rw [← same]; rfl⟩
  rw [Bool.eq_iff_iff, isAlike_iff, isPaired, List.any_eq_true]
  constructor
  · rintro ⟨⟨left, right⟩, inside, same⟩
    obtain ⟨i, leftRead, rightRead⟩ := mem_identityPairs inside
    have left := readOf leftRead
    have right := readOf rightRead
    simp only [Bool.or_eq_true, Bool.and_eq_true, decide_eq_true_eq] at same
    rcases same with ⟨rfl, rfl⟩ | ⟨rfl, rfl⟩
    · simp [known, left, right]
    · simp [known, left, right]
  · rintro ⟨some, same⟩
    obtain ⟨i, mine⟩ := Option.isSome_iff_exists.mp some
    rcases identityPairs_complete (listed aListed (same.trans mine)) (listed bListed mine) apart
      with inside | inside
    · exact ⟨_, inside, by simp⟩
    · exact ⟨_, inside, by simp⟩

/-! ### The merge -/

theorem mergeDevice_eq {kept : List Device} {device : Device} (listed : device ∈ devices)
    (among : ∀ a ∈ kept, a ∈ devices) (apart : ∀ a ∈ kept, a.serial ≠ device.serial) :
    mergeDevice (identityPairs (readIdentities identity devices)) kept device =
      add (known identity) isWireless kept device := by
  have same : kept.findIdx? (fun existing =>
      isPaired (identityPairs (readIdentities identity devices)) existing.serial device.serial) =
        kept.findIdx? fun existing => isAlike (known identity) existing device := by
    induction kept with
    | nil => rfl
    | cons a kept ih =>
        have later := ih (fun b inside => among b (.tail _ inside))
          (fun b inside => apart b (.tail _ inside))
        have here := isPaired_iff identity (among a (.head _)) listed
          (apart a (.head _))
        rw [List.findIdx?_cons, List.findIdx?_cons, here, later]
  rw [mergeDevice, add, same]
  rfl

/-- The scan keeps one device for each identity. -/
theorem represents_merge {seen more kept : List Device} (all : seen ++ more = devices)
    (distinct : (devices.map Device.serial).Nodup)
    (represents : Represents (known identity) isWireless seen kept) :
    Represents (known identity) isWireless devices
      (more.foldl (mergeDevice (identityPairs (readIdentities identity devices))) kept) := by
  induction more generalizing seen kept with
  | nil =>
      rw [List.append_nil] at all
      exact all ▸ represents
  | cons device more ih =>
      have listed : device ∈ devices := by simp [← all]
      have among : ∀ a ∈ kept, a ∈ devices := fun a inside => by
        rw [← all]
        exact List.mem_append_left _ (represents.member a inside)
      have apart : ∀ a ∈ kept, a.serial ≠ device.serial := by
        rw [← all, List.map_append, List.nodup_append] at distinct
        intro a inside same
        have earlier : a.serial ∈ seen.map Device.serial :=
          List.mem_map_of_mem (represents.member a inside)
        exact distinct.2.2 _ earlier _ (.head _) same
      rw [List.foldl_cons, mergeDevice_eq listed among apart]
      refine ih ?_ represents.add
      rw [List.append_assoc, List.singleton_append, all]

theorem represents_deduplicate (identity : Text → Option Text)
    (distinct : (devices.map Device.serial).Nodup) :
    Represents (known identity) isWireless devices
      (deduplicateDevices devices (identityPairs (readIdentities identity devices))) :=
  represents_merge rfl distinct represents_nil

/-! ### What is kept -/

/-- The devices that the command counts. -/
def visible (identity : Text → Option Text) (devices : List Device) : List Device :=
  deduplicateDevices devices (identityPairs (readIdentities identity devices))

/-- One device for each known identity, under a wireless serial where there is one, and all
    the others; each device is kept, or another one of its own identity. -/
structure TakenTogether (identity : Text → Option Text) (devices kept : List Device) : Prop where
  listed : ∀ device ∈ kept, device ∈ devices
  one : ∀ i, (∃ device ∈ devices, known identity device = some i) →
    ∃ device, kept.filter (fun other => known identity other = some i) = [device] ∧
      ((∃ other ∈ devices, known identity other = some i ∧ isWireless other = true) →
        isWireless device = true)
  unknown : kept.filter (fun device => (known identity device).isNone) =
    devices.filter fun device => (known identity device).isNone
  own : ∀ device ∈ devices, ∃ other ∈ kept, known identity other = known identity device ∧
    (known identity device = none → other = device)

theorem takenTogether_of_represents {kept : List Device}
    (represents : Represents (known identity) isWireless devices kept) :
    TakenTogether identity devices kept where
  listed := represents.member
  one i := by
    rintro ⟨device, inside, mine⟩
    obtain ⟨kept', there, same, -⟩ := represents.covered device inside (by simp [mine])
    have single := filter_eq_singleton represents.once there (same.trans mine)
    refine ⟨kept', single, ?_⟩
    rintro ⟨other, listed, theirs, wireless⟩
    obtain ⟨best, stands, alike, good⟩ := represents.covered other listed (by simp [theirs])
    have among : best ∈ kept.filter fun other => known identity other = some i := by
      simp [stands, alike, theirs]
    rw [single, List.mem_singleton] at among
    exact among ▸ good wireless
  unknown := represents.keyless
  own device inside := by
    cases mine : known identity device with
    | none =>
        have unknown : device ∈ kept.filter fun device => (known identity device).isNone := by
          rw [represents.keyless]
          simp [inside, mine]
        exact ⟨device, (List.mem_filter.mp unknown).1, mine, fun _ => rfl⟩
    | some i =>
        obtain ⟨other, there, same, -⟩ := represents.covered device inside (by simp [mine])
        exact ⟨other, there, same.trans mine, nofun⟩

/-- Devices are taken together by identity and nothing else, and how many are left does not
    depend on their order. -/
theorem devices_takenTogether (identity : Text → Option Text) (devices : List Device)
    (distinct : (devices.map Device.serial).Nodup) :
    TakenTogether identity devices (visible identity devices) ∧
      ∀ others : List Device, others.Perm devices →
        (visible identity others).length = (visible identity devices).length := by
  refine ⟨takenTogether_of_represents (represents_deduplicate identity distinct), ?_⟩
  intro others perm
  have distinct' : (others.map Device.serial).Nodup := (perm.map _).nodup_iff.mpr distinct
  have here := (represents_deduplicate identity distinct).length_eq
  have there := (represents_deduplicate identity distinct').length_eq
  have keyless := (perm.filter fun device => (known identity device).isNone).length_eq
  have keys := (perm.filterMap (known identity)).dedup.length_eq
  rw [visible, visible, here, there, keyless, keys]

/-- A phone on the network and over TLS, and one that did not answer. -/
def phones : List Device :=
  [⟨"192.168.1.20:5555".toList, .device⟩, ⟨"R5CT30".toList, .offline⟩,
    ⟨"adb-R5CT30ABCDE-xyz".toList, .device⟩]

def phoneIdentity (serial : Text) : Option Text :=
  if serial = "R5CT30".toList then none else some ['A']

theorem devices_takenTogether_phones :
    TakenTogether phoneIdentity phones (visible phoneIdentity phones) ∧
      (visible phoneIdentity phones).map Device.serial =
        ["adb-R5CT30ABCDE-xyz".toList, "R5CT30".toList] ∧
      (visible phoneIdentity phones.reverse).length = 2 := by
  have both := devices_takenTogether phoneIdentity phones (by decide +kernel)
  exact ⟨both.1, by decide +kernel, both.2 _ (List.reverse_perm _)⟩

end QuadControl.Android.Wireless
