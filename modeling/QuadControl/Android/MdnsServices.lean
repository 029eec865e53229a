import QuadControl.Android.Wireless
import QuadControl.Lib.Words

/-! # What `adb mdns services` prints, as it is read

A line is read by its words. Where one of them is a type of services, the instance is the
word before the first of them; else the first word that holds such a type behind a dot is
taken apart. Which lines are read as pairing services of a name is said by a relation on the
words, in these two ways.
-/

namespace QuadControl.Android.Wireless

open Lib

def isServiceType (field : Text) : Bool :=
  let service := field.trimEndMatches '.'
  service = pairingService || service = connectService

/-- What joins an instance and its type. -/
def adbTls : Text := "._adb-tls-".toList

/-- What the pairing type has behind it. -/
def pairingTcp : Text := "pairing._tcp".toList

/-- `split_endpoint`. -/
def splitEndpoint (value : Text) : Option (Text × Nat) := do
  let (address, port) ← Text.rsplitOnce ':' value
  if address = [] then none else (Text.parseBelow (65536) port).map fun port => (address, port)

/-- The endpoint: in one field, or in the first two. -/
def readEndpoint (fields : List Text) : Option (Text × Nat) :=
  (fields.findSome? splitEndpoint).or
    (match fields with
    | address :: port :: _ => (Text.parseBelow (65536) port).map fun port => (address, port)
    | _ => none)

/-- The instance, its type, and the fields of the endpoint. -/
def splitFields (fields : List Text) : Option (Text × Text × List Text) :=
  match fields.findIdx? isServiceType with
  | some 0 => none
  | some (index + 1) => do
      let instanceName ← fields[index]?
      let service ← fields[index + 1]?
      some (instanceName.trimEndMatches '.', service.trimEndMatches '.', fields.drop (index + 2))
  | none => do
      let index ← fields.findIdx? fun field => adbTls <:+: field
      let field ← fields[index]?
      let (instanceName, service) ← Text.splitOnceAt adbTls field
      some (instanceName, "_adb-tls-".toList ++ service.trimEndMatches '.', fields.drop (index + 1))

def isHeader (fields : List Text) : Bool :=
  fields.head?.any fun field => Text.eqIgnoreAsciiCase field "List".toList

/-- A line of `parse_mdns_services`. -/
def parseFields (fields : List Text) : Option MdnsService :=
  if fields.length < 2 ∨ isHeader fields then none
  else do
    let (instanceName, service, endpointFields) ← splitFields fields
    let (address, port) ← readEndpoint endpointFields
    some ⟨instanceName, service, address, port⟩

/-- `parse_mdns_services`. -/
def parseMdnsServices (output : Text) : List MdnsService :=
  output.lines.filterMap fun line => parseFields line.splitWhitespace

/-! ### Lines that are read as a pairing service -/

/-- The words of a line with a pairing service of the name, and those behind it. -/
inductive Advertises (name : Text) : List Text → List Text → Prop
  /-- The first type of services is the pairing type, behind the name. -/
  | column (before : List Text) (word service : Text) (rest : List Text)
      (untyped : ∀ field ∈ before ++ [word], isServiceType field = false)
      (named : word.trimEndMatches '.' = name)
      (pairing : service.trimEndMatches '.' = pairingService) :
      Advertises name (before ++ word :: service :: rest) rest
  /-- There is none, and the first word that holds one is the name's. -/
  | joined (before : List Text) (service : Text) (rest : List Text)
      (untyped : ∀ field ∈ before ++ (name ++ adbTls ++ service) :: rest,
        isServiceType field = false)
      (apart : ∀ field ∈ before, ¬ adbTls <:+: field) (fresh : ¬ adbTls <:+: name)
      (pairing : service.trimEndMatches '.' = pairingTcp) :
      Advertises name (before ++ (name ++ adbTls ++ service) :: rest) rest

/-- The line is read as a pairing service of the name. -/
def ReadsAs (name : Text) (fields : List Text) : Prop :=
  isHeader fields = false ∧ ∃ rest, Advertises name fields rest ∧ (readEndpoint rest).isSome = true

theorem splitFields_column {before : List Text} {word service : Text} {rest : List Text}
    (untyped : ∀ field ∈ before ++ [word], isServiceType field = false)
    (typed : isServiceType service = true) :
    splitFields (before ++ word :: service :: rest) =
      some (word.trimEndMatches '.', service.trimEndMatches '.', rest) := by
  have index : (before ++ word :: service :: rest).findIdx? isServiceType =
      some (before.length + 1) := by
    simpa using findIdx?_hit rest untyped typed
  have tail : (before ++ word :: service :: rest).drop (before.length + 2) = rest := by
    simp [List.drop_append]
  simp [splitFields, index, tail]

theorem splitFields_joined {before : List Text} {field : Text} {rest : List Text}
    (untyped : ∀ other ∈ before ++ field :: rest, isServiceType other = false)
    (apart : ∀ other ∈ before, ¬ adbTls <:+: other) (holds : adbTls <:+: field) :
    splitFields (before ++ field :: rest) =
      (Text.splitOnceAt adbTls field).map fun (instanceName, service) =>
        (instanceName, "_adb-tls-".toList ++ service.trimEndMatches '.', rest) := by
  have none : (before ++ field :: rest).findIdx? isServiceType = none :=
    List.findIdx?_eq_none_iff.mpr untyped
  have index : (before ++ field :: rest).findIdx? (fun other => adbTls <:+: other) =
      some before.length :=
    findIdx?_hit rest (fun other inside => decide_eq_false (apart other inside))
      (decide_eq_true holds)
  have tail : (before ++ field :: rest).drop (before.length + 1) = rest := by
    simp [List.drop_append]
  cases split : Text.splitOnceAt adbTls field <;> simp [splitFields, none, index, tail, split]

theorem isServiceType_of_pairing {service : Text}
    (pairing : service.trimEndMatches '.' = pairingService) : isServiceType service = true := by
  simp [isServiceType, pairing]

theorem splitFields_of_advertises {name : Text} {fields rest : List Text}
    (advertises : Advertises name fields rest) :
    splitFields fields = some (name, pairingService, rest) := by
  cases advertises with
  | column before word service rest untyped named pairing =>
      rw [splitFields_column untyped (isServiceType_of_pairing pairing), named, pairing]
  | joined before service rest untyped apart fresh pairing =>
      have holds : adbTls <:+: name ++ adbTls ++ service := ⟨name, service, rfl⟩
      have split : Text.splitOnceAt adbTls (name ++ adbTls ++ service) = some (name, service) :=
        Text.splitOnceAt_append (by decide) fresh
      rw [splitFields_joined untyped apart holds, split]
      simp only [Option.map_some, pairing]
      rfl

theorem advertises_of_splitFields {name : Text} {fields rest : List Text}
    (split : splitFields fields = some (name, pairingService, rest)) :
    Advertises name fields rest := by
  cases typed : fields.findIdx? isServiceType with
  | some index =>
      obtain ⟨before, service, after, rfl, -, hit, untyped⟩ := findIdx?_some typed
      obtain rfl | ⟨before, word, rfl⟩ := before.eq_nil_or_concat'
      · have first := findIdx?_hit after untyped hit
        rw [splitFields, first] at split
        cases split
      · rw [List.append_assoc, List.singleton_append, splitFields_column untyped hit] at split
        simp only [Option.some.injEq, Prod.mk.injEq] at split
        obtain ⟨named, pairing, rfl⟩ := split
        rw [List.append_assoc]
        exact .column before word service after untyped named pairing
  | none =>
      have untyped := List.findIdx?_eq_none_iff.mp typed
      cases held : fields.findIdx? fun field => adbTls <:+: field with
      | none => simp [splitFields, typed, held] at split
      | some index =>
          obtain ⟨before, field, after, rfl, -, holds, apart⟩ := findIdx?_some held
          have holds := of_decide_eq_true holds
          have apart := fun other inside => of_decide_eq_false (apart other inside)
          rw [splitFields_joined untyped apart holds, Option.map_eq_some_iff] at split
          obtain ⟨⟨before', service⟩, taken, same⟩ := split
          obtain ⟨rfl, fresh⟩ := Text.splitOnceAt_some (by decide) taken
          simp only [Prod.mk.injEq] at same
          obtain ⟨rfl, joined, rfl⟩ := same
          have shape : pairingService = "_adb-tls-".toList ++ pairingTcp := rfl
          exact .joined before service after untyped apart fresh
            (List.append_cancel_left (joined.trans shape))

/-- What is read of a line as a pairing service. -/
theorem parseFields_eq_some {name address : Text} {port : Nat} {fields : List Text} :
    parseFields fields = some ⟨name, pairingService, address, port⟩ ↔
      isHeader fields = false ∧
        ∃ rest, Advertises name fields rest ∧ readEndpoint rest = some (address, port) := by
  constructor
  · intro parsed
    unfold parseFields at parsed
    split at parsed
    · cases parsed
    · rename_i body
      rw [not_or] at body
      simp only [Option.bind_eq_bind, Option.bind_eq_some_iff, Prod.exists, Option.some.injEq,
        MdnsService.mk.injEq] at parsed
      obtain ⟨instanceName, service, rest, split, address, port, read, rfl, rfl, rfl, rfl⟩ := parsed
      exact ⟨Bool.eq_false_iff.mpr body.2, rest, advertises_of_splitFields split, read⟩
  · rintro ⟨body, rest, advertises, read⟩
    have long : ¬ fields.length < 2 := by
      cases advertises with
      | column before word service =>
          simp only [List.length_append, List.length_cons]
          omega
      | joined before service =>
          cases rest with
          | nil => cases read
          | cons field rest =>
              simp only [List.length_append, List.length_cons]
              omega
    simp [parseFields, long, body, splitFields_of_advertises advertises, read]

theorem readsAs_iff {name : Text} {fields : List Text} :
    ReadsAs name fields ↔
      ∃ address port, parseFields fields = some ⟨name, pairingService, address, port⟩ := by
  simp only [ReadsAs, parseFields_eq_some, Option.isSome_iff_exists, Prod.exists]
  constructor
  · rintro ⟨body, rest, advertises, address, port, read⟩
    exact ⟨address, port, body, rest, advertises, read⟩
  · rintro ⟨address, port, body, rest, advertises, read⟩
    exact ⟨body, rest, advertises, address, port, read⟩

end QuadControl.Android.Wireless
