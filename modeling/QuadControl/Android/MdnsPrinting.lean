import QuadControl.Android.MdnsServices

/-! # Services that are printed and read again

`adb` prints a service a line, in columns that blanks part, and instances are whatever their
devices call them. The reader knows words only: an instance of several words is its last one,
and words of an instance may look like a type, or like an instance with its type.
-/

namespace QuadControl.Android.Wireless

open Lib

/-! ### What is printed -/

structure Ipv4 where
  (first second third fourth : Fin 256)
  deriving Repr, DecidableEq

def Ipv4.text (address : Ipv4) : Text :=
  Nat.toDigits 10 address.first ++ '.' :: (Nat.toDigits 10 address.second ++
    '.' :: (Nat.toDigits 10 address.third ++ '.' :: Nat.toDigits 10 address.fourth))

/-- A type of services, by its label and its protocol. -/
structure ServiceType where
  label : Text
  udp : Bool
  plain : label.all fun c => c.isAlphanum || c = '-'

def ServiceType.text (service : ServiceType) : Text :=
  '_' :: (service.label ++ (if service.udp then "._udp" else "._tcp").toList)

/-- A service that some device advertises. -/
structure Record where
  instanceName : Text
  service : ServiceType
  address : Ipv4
  port : Fin (65536)
  named : instanceName ≠ []
  oneLine : '\n' ∉ instanceName

/-- How a line is laid out: whether the instance and its type are one name, a dot behind the
    type, whether the port is a column of its own, and what parts the columns. -/
structure Layout where
  (joined dotted apart : Bool)
  gap : Text
  parts : gap ≠ []
  blank : gap.all Text.isWhitespace
  oneLine : '\n' ∉ gap

structure Listed where
  layout : Layout
  record : Record

namespace Listed

variable (listed : Listed)

def service : Text := listed.record.service.text ++ if listed.layout.dotted then ['.'] else []

def name : Text :=
  listed.record.instanceName ++
    (if listed.layout.joined then ['.'] else listed.layout.gap) ++ listed.service

def port : Text := Nat.toDigits 10 listed.record.port

def endpoint : Text :=
  listed.record.address.text ++ (if listed.layout.apart then listed.layout.gap else [':']) ++
    listed.port

def line : Text := listed.name ++ listed.layout.gap ++ listed.endpoint

def fields : List Text := listed.line.splitWhitespace

end Listed

def header : Text := "List of discovered mdns services".toList

def printed (listing : List Listed) : Text :=
  (header :: listing.map Listed.line).flatMap (· ++ ['\n'])

/-! ### What is meant -/

/-- The record is a pairing service of the name. -/
def Record.isFor (name : Text) (record : Record) : Bool :=
  record.instanceName = name ∧ record.service.text = pairingService

def Record.mdnsService (record : Record) : MdnsService :=
  ⟨record.instanceName, record.service.text, record.address.text, record.port⟩

/-- The pairing services of the name, as they were advertised. -/
def advertised (name : Text) (listing : List Listed) : List MdnsService :=
  (listing.filter fun listed => listed.record.isFor name).map fun listed =>
    listed.record.mdnsService

/-- Names that a line of their own lets come through. -/
def Readable (name : Text) (layout : Layout) : Prop :=
  if layout.joined then ¬ adbTls <:+: name
  else isServiceType name = false ∧ name.getLast? ≠ some '.' ∧ isHeader [name] = false

/-- Every record of the name comes through, and no other record is read as one. -/
def Clear (name : Text) (listing : List Listed) : Prop :=
  ∀ listed ∈ listing,
    if listed.record.isFor name then Readable name listed.layout else ¬ ReadsAs name listed.fields

/-! ### Words of a line -/

theorem Ipv4.graphic (address : Ipv4) : ∀ c ∈ address.text, Text.isGraphic c = true := by
  intro c inside
  simp only [Ipv4.text, List.mem_append, List.mem_cons] at inside
  rcases inside with digit | rfl | digit | rfl | digit | rfl | digit
  · exact Text.isGraphic_of_mem_toDigits digit
  · decide
  · exact Text.isGraphic_of_mem_toDigits digit
  · decide
  · exact Text.isGraphic_of_mem_toDigits digit
  · decide
  · exact Text.isGraphic_of_mem_toDigits digit

theorem Ipv4.text_ne_nil (address : Ipv4) : address.text ≠ [] := by
  simp [Ipv4.text]

theorem Layout.blanks (layout : Layout) : ∀ c ∈ layout.gap, Text.isWhitespace c = true :=
  List.all_eq_true.mp layout.blank

theorem colon_not_mem_toDigits {n : Nat} : ':' ∉ Nat.toDigits 10 n := fun inside =>
  absurd (Nat.isDigit_of_mem_toDigits (by decide) (by decide) inside) (by decide)

theorem Ipv4.colon_not_mem (address : Ipv4) : ':' ∉ address.text := by
  simp [Ipv4.text, colon_not_mem_toDigits]

theorem ServiceType.graphic (service : ServiceType) :
    ∀ c ∈ service.text, Text.isGraphic c = true := by
  intro c inside
  simp only [ServiceType.text, List.mem_cons, List.mem_append] at inside
  rcases inside with rfl | label | protocol
  · decide
  · have plain := List.all_eq_true.mp service.plain c label
    rw [Bool.or_eq_true, decide_eq_true_eq] at plain
    rcases plain with alphanum | rfl
    · exact Text.isGraphic_of_isAlphanum alphanum
    · decide
  · have plain : (if service.udp then "._udp" else "._tcp").toList.all Text.isGraphic = true := by
      split <;> decide
    exact List.all_eq_true.mp plain c protocol

theorem ServiceType.getLast?_text (service : ServiceType) : service.text.getLast? ≠ some '.' := by
  have last : ∀ udp : Bool, (if udp then "._udp" else "._tcp").toList.getLast? ≠ some '.' := by
    decide
  have nonempty : ∀ udp : Bool, (if udp then "._udp" else "._tcp").toList ≠ [] := by
    decide
  rw [ServiceType.text, ← List.cons_append, List.getLast?_append_of_ne_nil _ (nonempty _)]
  exact last service.udp

namespace Listed

variable (listed : Listed)

theorem service_graphic : ∀ c ∈ listed.service, Text.isGraphic c = true := by
  intro c inside
  rcases List.mem_append.mp inside with type | dot
  · exact listed.record.service.graphic c type
  · split at dot
    · obtain rfl := List.mem_singleton.mp dot
      decide
    · cases dot

theorem service_ne_nil : listed.service ≠ [] := by
  simp [service, ServiceType.text]

theorem trimEndMatches_service :
    listed.service.trimEndMatches '.' = listed.record.service.text := by
  have plain := Text.trimEndMatches_eq_self listed.record.service.getLast?_text
  unfold service
  split
  · rw [Text.trimEndMatches_concat, plain]
  · rw [List.append_nil, plain]

theorem port_graphic : ∀ c ∈ listed.port, Text.isGraphic c = true :=
  fun _ => Text.isGraphic_of_mem_toDigits

theorem colon_not_mem_port : ':' ∉ listed.port := colon_not_mem_toDigits

theorem port_ne_nil : listed.port ≠ [] := Nat.toDigits_ne_nil

/-- The words of the endpoint. -/
def endpointFields : List Text :=
  if listed.layout.apart then [listed.record.address.text, listed.port]
  else [listed.record.address.text ++ ':' :: listed.port]

theorem splitWhitespace_endpoint : listed.endpoint.splitWhitespace = listed.endpointFields := by
  have address := Text.splitWhitespace_graphic listed.record.address.text_ne_nil
    listed.record.address.graphic
  have port := Text.splitWhitespace_graphic listed.port_ne_nil listed.port_graphic
  unfold endpoint endpointFields
  split
  · rw [Text.splitWhitespace_gap listed.layout.parts listed.layout.blanks, address, port]
    rfl
  · rw [List.append_assoc, List.singleton_append]
    refine Text.splitWhitespace_graphic (by simp) fun c inside => ?_
    rcases List.mem_append.mp inside with inside | inside
    · exact listed.record.address.graphic c inside
    · rcases List.mem_cons.mp inside with rfl | inside
      · decide
      · exact listed.port_graphic c inside

theorem fields_eq : listed.fields = listed.name.splitWhitespace ++ listed.endpointFields := by
  rw [fields, line, Text.splitWhitespace_gap listed.layout.parts listed.layout.blanks,
    splitWhitespace_endpoint]

theorem readEndpoint_endpointFields :
    readEndpoint listed.endpointFields =
      some (listed.record.address.text, listed.record.port.val) := by
  have port : Text.parseBelow (65536) listed.port = some listed.record.port.val :=
    Text.parseBelow_toDigits listed.record.port.isLt
  unfold endpointFields
  split
  · have address : splitEndpoint listed.record.address.text = none := by
      rw [splitEndpoint, Text.rsplitOnce_of_absent listed.record.address.colon_not_mem]
      rfl
    have single : splitEndpoint listed.port = none := by
      rw [splitEndpoint, Text.rsplitOnce_of_absent listed.colon_not_mem_port]
      rfl
    simp [readEndpoint, address, single, port]
  · have whole : splitEndpoint (listed.record.address.text ++ ':' :: listed.port) =
        some (listed.record.address.text, listed.record.port.val) := by
      have split : Text.rsplitOnce ':' (listed.record.address.text ++ ':' :: listed.port) =
          some (listed.record.address.text, listed.port) :=
        Text.rsplitOnce_append listed.colon_not_mem_port
      simp [splitEndpoint, split, listed.record.address.text_ne_nil, port]
    simp [readEndpoint, whole]

theorem line_oneLine : '\n' ∉ listed.line := by
  have graphic : ∀ {s : Text}, (∀ c ∈ s, Text.isGraphic c = true) → '\n' ∉ s := fun plain inside =>
    absurd (plain _ inside) (by decide)
  have gap := listed.layout.oneLine
  have between : ∀ other : Bool, '\n' ∉ (if other then ['.'] else listed.layout.gap) := by
    rintro (_ | _)
    · exact gap
    · simp
  have between' : ∀ other : Bool, '\n' ∉ (if other then listed.layout.gap else [':']) := by
    rintro (_ | _)
    · simp
    · exact gap
  simp only [line, name, endpoint, List.mem_append, not_or]
  exact ⟨⟨⟨⟨listed.record.oneLine, between _⟩, graphic listed.service_graphic⟩, gap⟩,
    ⟨graphic listed.record.address.graphic, between' _⟩, graphic listed.port_graphic⟩

theorem line_solid : listed.line.getLast? ≠ some '\r' := by
  rw [line, endpoint, ← List.append_assoc, List.getLast?_append_of_ne_nil _ listed.port_ne_nil]
  intro last
  exact absurd (listed.port_graphic _ (List.mem_of_getLast? last)) (by decide)

end Listed

/-- The lines that were printed are read one by one. -/
theorem parseMdnsServices_printed (listing : List Listed) :
    parseMdnsServices (printed listing) =
      listing.filterMap fun listed => parseFields listed.fields := by
  have lines : (printed listing).lines = header :: listing.map Listed.line := by
    refine Text.lines_printed ?_ ?_
    · simp only [List.mem_cons, List.mem_map, forall_eq_or_imp, forall_exists_index, and_imp,
        forall_apply_eq_imp_iff₂]
      exact ⟨by decide, fun listed _ => listed.line_oneLine⟩
    · simp only [List.mem_cons, List.mem_map, forall_eq_or_imp, forall_exists_index, and_imp,
        forall_apply_eq_imp_iff₂]
      exact ⟨by decide, fun listed _ => listed.line_solid⟩
  have first : parseFields header.splitWhitespace = none := by decide +kernel
  rw [parseMdnsServices, lines, List.filterMap_cons, first, List.filterMap_map]
  rfl

/-! ### Lines of the name's own records -/

section

variable {name : Text} {listed : Listed}

theorem Record.isFor_iff {record : Record} : record.isFor name = true ↔
    record.instanceName = name ∧ record.service.text = pairingService := by
  simp [Record.isFor]

theorem head_of_isServiceType {field : Text} (typed : isServiceType field = true) :
    field.head? = some '_' := by
  obtain ⟨dots, shape⟩ : field.trimEndMatches '.' <+: field := List.rdropWhile_prefix _ _
  simp only [isServiceType, Bool.or_eq_true, decide_eq_true_eq] at typed
  rcases typed with same | same <;> rw [← shape, same] <;> rfl

theorem head_toDigits {n : Nat} : ∃ c, (Nat.toDigits 10 n).head? = some c ∧ c.isDigit = true := by
  obtain ⟨c, rest, shape⟩ := List.exists_cons_of_ne_nil (Nat.toDigits_ne_nil (n := n) (b := 10))
  have inside : c ∈ Nat.toDigits 10 n := by simp [shape]
  exact ⟨c, by rw [shape]; rfl, Nat.isDigit_of_mem_toDigits (by decide) (by decide) inside⟩

/-- Endpoints do not look like a type. -/
theorem Listed.untyped_endpointFields :
    ∀ field ∈ listed.endpointFields, isServiceType field = false := by
  have untyped : ∀ {field : Text} (n : Nat) (rest : Text),
      field = Nat.toDigits 10 n ++ rest → isServiceType field = false := by
    rintro field n rest rfl
    by_contra typed
    obtain ⟨c, head, digit⟩ := head_toDigits (n := n)
    have first := head_of_isServiceType (Bool.not_eq_false _ ▸ typed)
    rw [List.head?_append, head] at first
    cases first
    exact absurd digit (by decide)
  unfold Listed.endpointFields
  split
  · intro field inside
    simp only [List.mem_cons, List.not_mem_nil, or_false] at inside
    rcases inside with rfl | rfl
    · exact untyped _ _ rfl
    · exact untyped _ [] (List.append_nil _).symm
  · intro field inside
    obtain rfl := List.mem_singleton.mp inside
    rw [Ipv4.text, List.append_assoc]
    exact untyped _ _ rfl

theorem Listed.fields_columns (solid : ∀ c ∈ name, Text.isWhitespace c = false)
    (own : listed.record.isFor name = true) (columns : listed.layout.joined = false) :
    listed.fields = name :: listed.service :: listed.endpointFields := by
  obtain ⟨rfl, -⟩ := Record.isFor_iff.mp own
  have word := Text.splitWhitespace_word listed.record.named solid
  have service := Text.splitWhitespace_graphic listed.service_ne_nil listed.service_graphic
  rw [listed.fields_eq, Listed.name, columns]
  simp only [Bool.false_eq_true, if_false]
  rw [Text.splitWhitespace_gap listed.layout.parts listed.layout.blanks, word, service]
  rfl

/-- What is behind the label in a joined name. -/
def Listed.joinedType (listed : Listed) : Text :=
  pairingTcp ++ if listed.layout.dotted then ['.'] else []

theorem joined_eq (rest : Text) :
    '.' :: (pairingService ++ rest) = adbTls ++ (pairingTcp ++ rest) := rfl

theorem Listed.joinedType_graphic : ∀ c ∈ listed.joinedType, Text.isGraphic c = true := by
  intro c inside
  have type : pairingTcp.all Text.isGraphic = true := by decide
  rcases List.mem_append.mp inside with inside | inside
  · exact List.all_eq_true.mp type c inside
  · split at inside
    · obtain rfl := List.mem_singleton.mp inside
      decide
    · cases inside

theorem Listed.fields_joined (solid : ∀ c ∈ name, Text.isWhitespace c = false)
    (own : listed.record.isFor name = true) (joined : listed.layout.joined = true) :
    listed.fields = (name ++ adbTls ++ listed.joinedType) :: listed.endpointFields := by
  obtain ⟨rfl, pairing⟩ := Record.isFor_iff.mp own
  have shape : listed.name = listed.record.instanceName ++ adbTls ++ listed.joinedType := by
    simp only [Listed.name, joined, if_true, Listed.service, pairing, List.append_assoc,
      List.singleton_append, joined_eq, Listed.joinedType]
  have mark : adbTls.all Text.isGraphic = true := by decide
  have word : (listed.record.instanceName ++ adbTls ++ listed.joinedType).splitWhitespace =
      [listed.record.instanceName ++ adbTls ++ listed.joinedType] := by
    refine Text.splitWhitespace_word (by simp [listed.record.named]) fun c inside => ?_
    rcases List.mem_append.mp inside with inside | inside
    · rcases List.mem_append.mp inside with inside | inside
      · exact solid c inside
      · exact Text.isWhitespace_of_isGraphic (List.all_eq_true.mp mark c inside)
    · exact Text.isWhitespace_of_isGraphic (listed.joinedType_graphic c inside)
  rw [listed.fields_eq, shape, word, List.singleton_append]

theorem Listed.trimEndMatches_joinedType (before : Text) :
    (before ++ listed.joinedType).trimEndMatches '.' = before ++ pairingTcp := by
  have last : (before ++ pairingTcp).getLast? ≠ some '.' := by
    rw [List.getLast?_append_of_ne_nil _ (by decide)]
    decide
  have plain := Text.trimEndMatches_eq_self last
  unfold Listed.joinedType
  split
  · rw [← List.append_assoc, Text.trimEndMatches_concat, plain]
  · rw [List.append_nil, plain]

/-- A joined name is too long to be a type, or the first word of the header. -/
theorem Listed.untyped_joined (nonempty : name ≠ []) :
    isServiceType (name ++ adbTls ++ listed.joinedType) = false ∧
      ∀ rest, isHeader ((name ++ adbTls ++ listed.joinedType) :: rest) = false := by
  have long : (name ++ adbTls ++ pairingTcp).length = name.length + 22 := by
    rw [List.append_assoc, List.length_append]
    rfl
  have some : 0 < name.length := List.length_pos_iff.mpr nonempty
  constructor
  · by_contra typed
    simp only [isServiceType, listed.trimEndMatches_joinedType, Bool.not_eq_false, Bool.or_eq_true,
      decide_eq_true_eq] at typed
    have types : pairingService.length = 21 ∧ connectService.length = 21 := ⟨rfl, rfl⟩
    rcases typed with same | same
    · have := congrArg List.length same
      omega
    · have := congrArg List.length same
      omega
  · intro rest
    by_contra first
    simp only [isHeader, List.head?_cons, Option.any_some, Text.eqIgnoreAsciiCase,
      Bool.not_eq_false, decide_eq_true_eq] at first
    have four := congrArg List.length first
    have short : ("List".toList.map Char.toLower).length = 4 := rfl
    have more : pairingTcp.length ≤ listed.joinedType.length := by simp [Listed.joinedType]
    simp only [List.length_map, List.length_append] at four long more short
    omega

/-- A record of the name comes through a line that lets the name through. -/
theorem Listed.parseFields_own (solid : ∀ c ∈ name, Text.isWhitespace c = false)
    (own : listed.record.isFor name = true) (readable : Readable name listed.layout) :
    parseFields listed.fields = some listed.record.mdnsService := by
  obtain ⟨same, pairing⟩ := Record.isFor_iff.mp own
  have service : listed.record.mdnsService =
      ⟨name, pairingService, listed.record.address.text, listed.record.port.val⟩ := by
    rw [Record.mdnsService, same, pairing]
  rw [service, parseFields_eq_some]
  have endpoint := listed.readEndpoint_endpointFields
  unfold Readable at readable
  split at readable
  · rename_i joined
    rw [Listed.fields_joined solid own joined]
    obtain ⟨untyped, body⟩ := listed.untyped_joined (same ▸ listed.record.named)
    refine ⟨body _, listed.endpointFields, ?_, endpoint⟩
    refine .joined [] listed.joinedType listed.endpointFields ?_ nofun readable
      (listed.trimEndMatches_joinedType [])
    intro field inside
    rcases List.mem_cons.mp inside with rfl | inside
    · exact untyped
    · exact listed.untyped_endpointFields field inside
  · rename_i columns
    obtain ⟨untyped, undotted, body⟩ := readable
    rw [Listed.fields_columns solid own (Bool.eq_false_iff.mpr columns)]
    refine ⟨body, listed.endpointFields, ?_, endpoint⟩
    refine .column [] name listed.service listed.endpointFields ?_
      (Text.trimEndMatches_eq_self undotted) (listed.trimEndMatches_service.trans pairing)
    intro field inside
    obtain rfl := List.mem_singleton.mp inside
    exact untyped

/-- Through another line it does not. -/
theorem Listed.not_readsAs_own (solid : ∀ c ∈ name, Text.isWhitespace c = false)
    (own : listed.record.isFor name = true) (unreadable : ¬ Readable name listed.layout) :
    ¬ ReadsAs name listed.fields := by
  rintro ⟨body, rest, advertises, -⟩
  have split := splitFields_of_advertises advertises
  have nonempty : name ≠ [] := (Record.isFor_iff.mp own).1 ▸ listed.record.named
  unfold Readable at unreadable
  split at unreadable
  · rename_i joined
    rw [Listed.fields_joined solid own joined] at split
    have untyped : ∀ field ∈ [] ++ (name ++ adbTls ++ listed.joinedType) :: listed.endpointFields,
        isServiceType field = false := by
      intro field inside
      rcases List.mem_cons.mp inside with rfl | inside
      · exact (listed.untyped_joined nonempty).1
      · exact listed.untyped_endpointFields field inside
    have taken := splitFields_joined untyped nofun ⟨name, listed.joinedType, rfl⟩
    rw [List.nil_append, split, eq_comm, Option.map_eq_some_iff] at taken
    obtain ⟨⟨before, service⟩, taken, same⟩ := taken
    obtain ⟨-, fresh⟩ := Text.splitOnceAt_some (by decide) taken
    simp only [Prod.mk.injEq] at same
    exact unreadable (same.1 ▸ fresh)
  · rename_i columns
    rw [Listed.fields_columns solid own (Bool.eq_false_iff.mpr columns)] at split body
    by_cases typed : isServiceType name = true
    · have first : (name :: listed.service :: listed.endpointFields).findIdx? isServiceType =
          some 0 := by
        simp [List.findIdx?_cons, typed]
      rw [splitFields, first] at split
      cases split
    · have untyped : ∀ field ∈ [] ++ [name], isServiceType field = false := by
        simpa using typed
      have service := isServiceType_of_pairing
        (listed.trimEndMatches_service.trans (Record.isFor_iff.mp own).2)
      have columns : splitFields ([] ++ name :: listed.service :: listed.endpointFields) = _ :=
        splitFields_column untyped service
      rw [List.nil_append, split] at columns
      simp only [Option.some.injEq, Prod.mk.injEq] at columns
      have undotted : name.getLast? ≠ some '.' := by
        rw [columns.1]
        exact Text.getLast?_trimEndMatches '.' name
      exact unreadable ⟨Bool.eq_false_iff.mpr typed, undotted, body⟩

end

/-! ### What is found -/

/-- What the search keeps of a line. -/
def kept (name : Text) (listed : Listed) : Option MdnsService :=
  (parseFields listed.fields).filter fun service =>
    service.service = pairingService ∧ service.instanceName = name

/-- What it should keep. -/
def wanted (name : Text) (listed : Listed) : Option MdnsService :=
  if listed.record.isFor name then some listed.record.mdnsService else none

theorem findPairingServices_printed (name : Text) (listing : List Listed) :
    findPairingServices (parseMdnsServices (printed listing)) name =
      listing.filterMap (kept name) := by
  rw [findPairingServices, parseMdnsServices_printed, List.filter_filterMap]
  rfl

theorem advertised_eq (name : Text) (listing : List Listed) :
    advertised name listing = listing.filterMap (wanted name) := by
  induction listing with
  | nil => rfl
  | cons listed listing ih =>
      rw [List.filterMap_cons, ← ih]
      cases own : listed.record.isFor name <;> simp [advertised, wanted, own]

theorem kept_eq_none {name : Text} {listed : Listed} :
    kept name listed = none ↔ ¬ ReadsAs name listed.fields := by
  rw [readsAs_iff, kept, Option.filter_eq_none_iff]
  constructor
  · rintro none ⟨address, port, parsed⟩
    exact none _ parsed (by simp)
  · rintro unread ⟨instanceName, service, address, port⟩ parsed same
    simp only [decide_eq_true_eq] at same
    obtain ⟨rfl, rfl⟩ := same
    exact unread ⟨address, port, parsed⟩

theorem kept_own {name : Text} {listed : Listed} (solid : ∀ c ∈ name, Text.isWhitespace c = false)
    (own : listed.record.isFor name = true) (readable : Readable name listed.layout) :
    kept name listed = some listed.record.mdnsService := by
  obtain ⟨same, pairing⟩ := Record.isFor_iff.mp own
  rw [kept, listed.parseFields_own solid own readable]
  simp [Record.mdnsService, same, pairing]

theorem kept_other {name : Text} {listed : Listed} (other : ¬ listed.record.isFor name = true)
    (unread : ¬ ReadsAs name listed.fields) : kept name listed = wanted name listed := by
  rw [kept_eq_none.mpr unread, wanted, if_neg other]

theorem kept_eq_wanted {name : Text} {listed : Listed}
    (solid : ∀ c ∈ name, Text.isWhitespace c = false) :
    kept name listed = wanted name listed ↔
      if listed.record.isFor name then Readable name listed.layout
      else ¬ ReadsAs name listed.fields := by
  by_cases own : listed.record.isFor name = true
  · rw [if_pos own]
    constructor
    · intro same
      by_contra unreadable
      rw [kept_eq_none.mpr (listed.not_readsAs_own solid own unreadable), wanted, if_pos own]
        at same
      cases same
    · intro readable
      rw [kept_own solid own readable, wanted, if_pos own]
  · rw [if_neg own]
    exact ⟨fun same => kept_eq_none.mp (by rw [same, wanted, if_neg own]), kept_other own⟩

/-- Exactly the pairing services of a name are found, in order and with their endpoints, where
    the listing is clear about the name. Elsewhere this takes two errors that make up for each
    other: a record of the name that is lost, and another's that is taken for it. -/
theorem pairingServices_found (name : Text) (listing : List Listed)
    (solid : ∀ c ∈ name, Text.isWhitespace c = false) :
    (Clear name listing →
      findPairingServices (parseMdnsServices (printed listing)) name = advertised name listing) ∧
    (findPairingServices (parseMdnsServices (printed listing)) name = advertised name listing →
      Clear name listing ∨
        (∃ listed ∈ listing,
          listed.record.isFor name = true ∧ ¬ Readable name listed.layout) ∧
        ∃ listed ∈ listing,
          listed.record.isFor name = false ∧ ReadsAs name listed.fields) := by
  rw [findPairingServices_printed, advertised_eq]
  constructor
  · intro clear
    exact List.filterMap_congr fun listed inside => (kept_eq_wanted solid).mpr (clear listed inside)
  · intro found
    rw [or_iff_not_imp_right]
    intro single listed inside
    rw [← kept_eq_wanted solid]
    by_cases readable : ∀ listed ∈ listing,
        listed.record.isFor name = true → Readable name listed.layout
    · -- what is kept holds all that is wanted
      refine filterMap_agree (fun listed inside => ?_) found listed inside
      by_cases own : listed.record.isFor name = true
      · have readable := readable listed inside own
        exact .inr ((kept_eq_wanted solid).mpr (by rwa [if_pos own]))
      · exact .inl (by rw [wanted, if_neg own])
    · -- some record is lost, so that no other is taken
      refine (filterMap_agree (fun listed inside => ?_) found.symm listed inside).symm
      push Not at readable
      obtain ⟨lost, within, own, unreadable⟩ := readable
      have unread : listed.record.isFor name = false → ¬ ReadsAs name listed.fields :=
        fun other taken =>
          single ⟨⟨lost, within, own, unreadable⟩, listed, inside, other, taken⟩
      by_cases own : listed.record.isFor name = true
      · by_cases readable : Readable name listed.layout
        · exact .inr ((kept_eq_wanted solid).mpr (by rwa [if_pos own])).symm
        · exact .inl (kept_eq_none.mpr (listed.not_readsAs_own solid own readable))
      · exact .inr (kept_other own (unread (Bool.eq_false_iff.mpr own))).symm

/-! ### Listings of a pairing service and of others -/

instance {name : Text} {listed : Listed} : Decidable (ReadsAs name listed.fields) :=
  decidable_of_iff (¬ kept name listed = none) (by rw [kept_eq_none, not_not])

instance {name : Text} {layout : Layout} : Decidable (Readable name layout) :=
  inferInstanceAs (Decidable (if layout.joined then ¬ adbTls <:+: name
    else isServiceType name = false ∧ name.getLast? ≠ some '.' ∧ isHeader [name] = false))

instance {name : Text} {listing : List Listed} : Decidable (Clear name listing) :=
  inferInstanceAs (Decidable (∀ listed ∈ listing,
    if listed.record.isFor name then Readable name listed.layout
    else ¬ ReadsAs name listed.fields))

def pairing : ServiceType := ⟨"adb-tls-pairing".toList, false, by decide⟩

def connect : ServiceType := ⟨"adb-tls-connect".toList, false, by decide⟩

def columns : Layout := ⟨false, false, false, ['\t'], by decide, by decide, by decide⟩

def joined : Layout := ⟨true, true, false, [' '], by decide, by decide, by decide⟩

def studio : Text := "studio-A".toList

theorem studio_solid : ∀ c ∈ studio, Text.isWhitespace c = false := fun c inside =>
  Text.isWhitespace_of_isGraphic (List.all_eq_true.mp (by decide) c inside)

/-- A phone that scanned the code, in both layouts, next to another and to one that is paired. -/
def clearListing : List Listed :=
  [⟨columns, studio, pairing, ⟨192, 168, 1, 20⟩, 37145, by decide, by decide⟩,
    ⟨columns, "Bob's phone".toList, pairing, ⟨192, 168, 1, 31⟩, 41002, by decide, by decide⟩,
    ⟨joined, studio, pairing, ⟨192, 168, 1, 40⟩, 5, by decide, by decide⟩,
    ⟨columns, studio, connect, ⟨192, 168, 1, 20⟩, 5555, by decide, by decide⟩]

theorem pairingServices_found_studio :
    Clear studio clearListing ∧
      findPairingServices (parseMdnsServices (printed clearListing)) studio =
        advertised studio clearListing ∧
      (advertised studio clearListing).map MdnsService.port = [37145, 5] :=
  have clear : Clear studio clearListing := by decide +kernel
  ⟨clear, (pairingServices_found studio clearListing studio_solid).1 clear, by decide +kernel⟩

/-- The last word of another's instance is the name. -/
def spoofed : List Listed :=
  [⟨columns, "evil studio-A".toList, pairing, ⟨6, 6, 6, 6⟩, 1, by decide, by decide⟩]

/-- The record of another is taken for one of the name. -/
theorem not_found_spoofed :
    (∀ c ∈ studio, Text.isWhitespace c = false) ∧ advertised studio spoofed = [] ∧
      findPairingServices (parseMdnsServices (printed spoofed)) studio =
        [⟨studio, pairingService, "6.6.6.6".toList, 1⟩] :=
  ⟨studio_solid, by decide +kernel, by decide +kernel⟩

end QuadControl.Android.Wireless
