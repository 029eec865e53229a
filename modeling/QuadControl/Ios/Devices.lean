import QuadControl.Lib.Except
import QuadControl.Lib.Words

/-! # The list of devices

`parse_ios_devices` takes the UDIDs out of the JSON object that `ios list` prints, or one
from each line of what is not such an object. Output that was cut short is taken for lines.
-/

namespace QuadControl.Ios.Devices

open Lib

structure IosDevice where
  id : Text
  name : Text
  deriving Repr, DecidableEq

/-- The name shows the last four characters only. -/
def shortIosName (udid : Text) : Text :=
  "iPhone ····".toList ++ (udid.reverse.take 4).reverse

/-- `find` of a text: what there is from its first match on. -/
def findFrom (pattern : Text) : Text → Option Text
  | [] => if pattern = [] then some [] else none
  | c :: rest => if pattern.isPrefixOf (c :: rest) then some (c :: rest) else findFrom pattern rest

/-- `"deviceList"`, with its quotes. -/
def deviceListKey : Text := "\"deviceList\"".toList

def extractDeviceList (output : Text) : Option (List Text) := do
  let start ← findFrom deviceListKey output
  let (_, opened) ← Text.splitOnce '[' start
  let (items, _) ← Text.splitOnce ']' opened
  some (((Text.splitOn ',' items).map fun item => Text.trimMatches '"' (Text.trim item)).filter
    (· ≠ []))

/-- The UDIDs of output by lines. -/
def lineDevices (output : Text) : List Text :=
  let lines := ((Text.lines output).map Text.trim).filter (· ≠ [])
  (lines.filter fun line =>
      !Text.eqIgnoreAsciiCase line "list of attached devices:".toList).map fun line =>
    Text.trim ((Text.stripPrefix "UDID:".toList line).getD line)

def IosDevice.check (udid : Text) : Except Text IosDevice :=
  if udid = [] ∨ udid.any Text.isWhitespace then
    .error "go-ios returned an unparsable device list".toList
  else .ok ⟨udid, shortIosName udid⟩

def parseIosDevices (output : Text) : Except Text (List IosDevice) :=
  let udids :=
    match extractDeviceList output with
    | some list => list
    | none => lineDevices output
  udids.mapM IosDevice.check

/-! ### What go-ios prints -/

def isUdidChar (c : Char) : Bool := c.isAlphanum || c = '-'

def quoted (udid : Text) : Text := ['"'] ++ udid ++ ['"']

/-- Items with commas between them. -/
def commaSeparated : List Text → Text
  | [] => []
  | [item] => item
  | item :: items => item ++ ',' :: commaSeparated items

/-- The compact JSON object. -/
def listJson (udids : List Text) : Text :=
  "\x7b\"deviceList\":[".toList ++ commaSeparated (udids.map quoted) ++ "]\x7d".toList

def IsUdid (udid : Text) : Prop := ∀ c ∈ udid, isUdidChar c = true

theorem isGraphic_of_isUdidChar {c : Char} (plain : isUdidChar c = true) :
    Text.isGraphic c = true := by
  rcases Bool.or_eq_true _ _ |>.mp plain with alphanum | dash
  · exact Text.isGraphic_of_isAlphanum alphanum
  · rw [of_decide_eq_true dash]
    rfl

theorem IsUdid.notMem {udid : Text} (is : IsUdid udid) {c : Char} (special : isUdidChar c = false) :
    c ∉ udid := by
  intro inside
  rw [is c inside] at special
  cases special

theorem mem_commaSeparated {items : List Text} {c : Char} (inside : c ∈ commaSeparated items) :
    c = ',' ∨ ∃ item ∈ items, c ∈ item := by
  induction items using commaSeparated.induct with
  | case1 => cases inside
  | case2 item => exact .inr ⟨item, by simp, inside⟩
  | case3 item items _ ih =>
      rw [commaSeparated, List.mem_append, List.mem_cons] at inside
      · rcases inside with here | comma | later
        · exact .inr ⟨item, by simp, here⟩
        · exact .inl comma
        · rcases ih later with comma | ⟨other, member, inside⟩
          · exact .inl comma
          · exact .inr ⟨other, List.mem_cons_of_mem _ member, inside⟩
      · assumption

theorem splitOn_commaSeparated {items : List Text} (nonempty : items ≠ [])
    (plain : ∀ item ∈ items, ',' ∉ item) : Text.splitOn ',' (commaSeparated items) = items := by
  induction items using commaSeparated.induct with
  | case1 => exact absurd rfl nonempty
  | case2 item => exact Text.splitOn_of_absent (plain item (by simp))
  | case3 item items more ih =>
      rw [commaSeparated, Text.splitOn_append (plain item (by simp)),
        ih more fun other inside => plain other (List.mem_cons_of_mem _ inside)]
      exact more

/-- The items lose their quotes. -/
theorem trimMatches_quoted {udid : Text} (is : IsUdid udid) :
    Text.trimMatches '"' (Text.trim (quoted udid)) = udid := by
  have unquoted : '"' ∉ udid := is.notMem rfl
  have trimmed : Text.trim (quoted udid) = quoted udid := by
    have between := Text.trim_between [] [] (s := quoted udid) nofun ?_ ?_ nofun nofun
    · simpa using between
    · rintro c same
      cases same
      decide
    · intro c same
      rw [quoted, List.getLast?_concat, Option.some.injEq] at same
      rw [← same]
      decide
  rw [trimmed, quoted, Text.trimMatches]
  cases udid with
  | nil => rfl
  | cons c rest =>
      simp only [List.mem_cons, not_or] at unquoted
      have front : (['"'] ++ c :: rest ++ ['"']).dropWhile (· = '"') = c :: rest ++ ['"'] := by
        simp [Ne.symm unquoted.1]
      have whole := Text.trimMatches_eq_self (c := '"') (s := c :: rest)
        (by simpa using unquoted)
      rw [Text.trimMatches, List.dropWhile_cons_of_neg (by simpa using Ne.symm unquoted.1)] at whole
      rw [front, List.rdropWhile_concat_pos _ _ _ (by decide), whole]

variable {udids : List Text}

/-- What the array is read as, whatever follows it. -/
theorem extractDeviceList_closed (plain : ∀ udid ∈ udids, IsUdid udid) (after : Text) :
    extractDeviceList ("\x7b\"deviceList\":[".toList ++ commaSeparated (udids.map quoted) ++
      ']' :: after) = some (udids.filter (· ≠ [])) := by
  let items := commaSeparated (udids.map quoted)
  have found : findFrom deviceListKey ("\x7b\"deviceList\":[".toList ++ items ++ ']' :: after) =
      some (deviceListKey ++ [':'] ++ '[' :: (items ++ ']' :: after)) := rfl
  have opened : Text.splitOnce '[' (deviceListKey ++ [':'] ++ '[' :: (items ++ ']' :: after)) =
      some (deviceListKey ++ [':'], items ++ ']' :: after) :=
    Text.splitOnce_eq_some.mpr ⟨rfl, by decide⟩
  have absent : ∀ {c}, isUdidChar c = false → c ≠ '"' → ∀ item ∈ udids.map quoted, c ∉ item := by
    intro c special unlike item member
    obtain ⟨udid, inside, rfl⟩ := List.mem_map.mp member
    simp [quoted, unlike, (plain udid inside).notMem special]
  have closed : Text.splitOnce ']' (items ++ ']' :: after) = some (items, after) := by
    refine Text.splitOnce_eq_some.mpr ⟨rfl, fun inside => ?_⟩
    rcases mem_commaSeparated inside with comma | ⟨item, member, inside⟩
    · cases comma
    · exact absent rfl (by decide) item member inside
  have cleaned : (udids.map quoted).map (fun item => Text.trimMatches '"' (Text.trim item)) =
      udids := by
    rw [List.map_map]
    exact (List.map_congr_left fun udid inside => trimMatches_quoted (plain udid inside)).trans
      (List.map_id udids)
  have read : ((Text.splitOn ',' items).map fun item =>
      Text.trimMatches '"' (Text.trim item)).filter (· ≠ []) = udids.filter (· ≠ []) := by
    cases udids with
    | nil => rfl
    | cons udid rest =>
        rw [splitOn_commaSeparated (by simp)
          (absent rfl (by decide)), cleaned]
  calc extractDeviceList ("\x7b\"deviceList\":[".toList ++ items ++ ']' :: after)
      = (Text.splitOnce ']' (items ++ ']' :: after)).bind fun split =>
          some (((Text.splitOn ',' split.1).map fun item =>
            Text.trimMatches '"' (Text.trim item)).filter (· ≠ [])) := by
        rw [extractDeviceList, found, Option.bind_eq_bind, Option.bind_some, opened]
        rfl
    _ = some (udids.filter (· ≠ [])) := by
        rw [closed, Option.bind_some, read]

theorem findFrom_suffix {pattern output start : Text} (found : findFrom pattern output = some start) :
    start <:+ output := by
  induction output with
  | nil =>
      unfold findFrom at found
      split at found
      · cases found
        exact List.suffix_rfl
      · cases found
  | cons c rest ih =>
      unfold findFrom at found
      split at found
      · cases found
        exact List.suffix_rfl
      · exact (ih found).trans (List.suffix_cons c rest)

theorem mem_of_extractDeviceList {output : Text} {items : List Text}
    (extracted : extractDeviceList output = some items) : ']' ∈ output := by
  simp only [extractDeviceList, Option.bind_eq_bind, Option.bind_eq_some_iff] at extracted
  obtain ⟨start, found, ⟨before, opened⟩, split, ⟨inner, after⟩, closed, -⟩ := extracted
  obtain ⟨shape, -⟩ := Text.splitOnce_eq_some.mp closed
  obtain ⟨shape', -⟩ := Text.splitOnce_eq_some.mp split
  refine (findFrom_suffix found).mem ?_
  have inside : ']' ∈ opened := by
    rw [show opened = inner ++ ']' :: after from shape]
    simp
  simp [shape', inside]

/-- Output without a closing bracket is one line. -/
theorem parseIosDevices_open {output : Text} (brace : output.head? = some '{')
    (graphic : ∀ c ∈ output, Text.isGraphic c = true) (isOpen : ']' ∉ output) :
    parseIosDevices output = .ok [⟨output, shortIosName output⟩] := by
  obtain ⟨rest, rfl⟩ := List.head?_eq_some_iff.mp brace
  have solid : ∀ c ∈ '{' :: rest, Text.isWhitespace c = false := fun c inside =>
    Text.isWhitespace_of_isGraphic (graphic c inside)
  have trimmed : Text.trim ('{' :: rest) = '{' :: rest := by
    rw [Text.trim, Text.trimEnd_eq_self, Text.trimStart_eq_self]
    · intro c same
      simp [solid c (List.mem_of_head? same)]
    · intro c same
      simp [solid c (List.mem_of_getLast? same)]
  have unlisted : extractDeviceList ('{' :: rest) = none := by
    by_contra listed
    obtain ⟨items, extracted⟩ := Option.ne_none_iff_exists'.mp listed
    exact isOpen (mem_of_extractDeviceList extracted)
  have unbroken : '\n' ∉ '{' :: rest := fun inside => by
    have := graphic _ inside
    cases this
  have line : Text.lines ('{' :: rest) = ['{' :: rest] := by
    simp [Text.lines, Text.splitOn_of_absent unbroken]
  have listed : lineDevices ('{' :: rest) = ['{' :: rest] := by
    have unlike : Text.eqIgnoreAsciiCase ('{' :: rest) "list of attached devices:".toList = false :=
      by simp [Text.eqIgnoreAsciiCase]
    have unmarked : Text.stripPrefix "UDID:".toList ('{' :: rest) = none := rfl
    simp only [lineDevices, line, List.map_cons, List.map_nil, trimmed, List.filter_cons, unlike,
      unmarked, Option.getD_none, List.filter_nil, ne_eq, reduceCtorEq, not_false_eq_true,
      decide_true, Bool.not_false, if_true]
  have checked : IosDevice.check ('{' :: rest) = .ok ⟨'{' :: rest, shortIosName ('{' :: rest)⟩ := by
    have clean : ('{' :: rest).any Text.isWhitespace = false := by
      rw [List.any_eq_false]
      exact fun c inside => by simp [solid c inside]
    simp [IosDevice.check, clean]
  rw [parseIosDevices, unlisted]
  simp [listed, checked]

theorem check_udid {udid : Text} (is : IsUdid udid) (nonempty : udid ≠ []) :
    IosDevice.check udid = .ok ⟨udid, shortIosName udid⟩ := by
  have clean : udid.any Text.isWhitespace = false := by
    rw [List.any_eq_false]
    intro c inside
    simp [Text.isWhitespace_of_isGraphic (isGraphic_of_isUdidChar (is c inside))]
  simp [IosDevice.check, nonempty, clean]

theorem mapM_check (plain : ∀ udid ∈ udids, IsUdid udid) (nonempty : [] ∉ udids) :
    udids.mapM IosDevice.check = .ok (udids.map fun udid => ⟨udid, shortIosName udid⟩) := by
  induction udids with
  | nil => rfl
  | cons udid rest ih =>
      simp only [List.mem_cons, not_or] at nonempty
      have first := check_udid (plain udid (by simp)) (Ne.symm nonempty.1)
      have later := ih (fun other inside => plain other (List.mem_cons_of_mem _ inside)) nonempty.2
      rw [List.mapM_cons, first, later]
      rfl

/-- With the array closed, the devices are those of the whole output. -/
theorem parseIosDevices_closed (plain : ∀ udid ∈ udids, IsUdid udid) (after : Text) :
    parseIosDevices ("\x7b\"deviceList\":[".toList ++ commaSeparated (udids.map quoted) ++
      ']' :: after) =
        .ok ((udids.filter (· ≠ [])).map fun udid => ⟨udid, shortIosName udid⟩) := by
  rw [parseIosDevices, extractDeviceList_closed plain after]
  exact mapM_check (fun udid inside => plain udid (List.mem_of_mem_filter inside)) (by simp)

theorem isGraphic_listJson (plain : ∀ udid ∈ udids, IsUdid udid) :
    ∀ c ∈ listJson udids, Text.isGraphic c = true := by
  have head := List.all_eq_true.mp
    (show "\x7b\"deviceList\":[".toList.all Text.isGraphic = true by decide)
  have tail := List.all_eq_true.mp (show "]\x7d".toList.all Text.isGraphic = true by decide)
  intro c inside
  rcases List.mem_append.mp inside with first | last
  · rcases List.mem_append.mp first with first | middle
    · exact head c first
    · rcases mem_commaSeparated middle with rfl | ⟨item, member, inside⟩
      · rfl
      · obtain ⟨udid, listed, rfl⟩ := List.mem_map.mp member
        simp only [quoted, List.mem_append, List.mem_singleton] at inside
        rcases inside with (rfl | inside) | rfl
        · rfl
        · exact isGraphic_of_isUdidChar (plain udid listed c inside)
        · rfl
  · exact tail c last

/-- A part of the output that has the closing bracket has the whole array. -/
theorem closed_of_mem (plain : ∀ udid ∈ udids, IsUdid udid) {cut : Text}
    (isPart : cut <+: listJson udids) (closed : ']' ∈ cut) :
    ∃ after, cut = "\x7b\"deviceList\":[".toList ++ commaSeparated (udids.map quoted) ++
      ']' :: after := by
  have isOpen : ']' ∉ "\x7b\"deviceList\":[".toList ++ commaSeparated (udids.map quoted) := by
    intro inside
    rcases List.mem_append.mp inside with first | middle
    · exact absurd first (by decide)
    · rcases mem_commaSeparated middle with comma | ⟨item, member, inside⟩
      · cases comma
      · obtain ⟨udid, listed, rfl⟩ := List.mem_map.mp member
        have absent := (plain udid listed).notMem (c := ']') rfl
        simp [quoted, absent] at inside
  have front := List.prefix_append
    ("\x7b\"deviceList\":[".toList ++ commaSeparated (udids.map quoted)) "]\x7d".toList
  obtain ⟨rest, rfl⟩ : _ <+: cut := by
    refine List.prefix_of_prefix_length_le front isPart (Nat.le_of_not_lt fun short => isOpen ?_)
    exact (List.prefix_of_prefix_length_le isPart front short.le).mem closed
  have tail : rest <+: "]\x7d".toList := (List.prefix_append_right_inj _).mp isPart
  cases rest with
  | nil =>
      rw [List.append_nil] at closed
      exact absurd closed isOpen
  | cons c rest =>
      obtain ⟨rfl, -⟩ := List.cons_prefix_cons.mp tail
      exact ⟨rest, rfl⟩

theorem parseIosDevices_partial (plain : ∀ udid ∈ udids, IsUdid udid) {cut : Text}
    (isPart : cut <+: listJson udids) (nonempty : cut ≠ []) :
    ∃ devices, parseIosDevices cut = .ok devices := by
  by_cases closed : ']' ∈ cut
  · obtain ⟨after, rfl⟩ := closed_of_mem plain isPart closed
    exact ⟨_, parseIosDevices_closed plain after⟩
  · have brace : cut.head? = some '{' := by
      obtain ⟨c, rest, rfl⟩ := List.exists_cons_of_ne_nil nonempty
      obtain ⟨rfl, -⟩ := List.cons_prefix_cons.mp isPart
      rfl
    have graphic : ∀ c ∈ cut, Text.isGraphic c = true := fun c inside =>
      isGraphic_listJson plain c (isPart.mem inside)
    exact ⟨_, parseIosDevices_open brace graphic closed⟩

/-- Only the whole output is taken for the list. -/
def RefusesPartial (udids : List Text) : Prop :=
  parseIosDevices (listJson udids) = .ok (udids.map fun udid => ⟨udid, shortIosName udid⟩) ∧
    ∀ cut, cut <+: listJson udids → cut ≠ [] → cut ≠ listJson udids →
      ∃ error, parseIosDevices cut = .error error

/-- The whole output is read as its UDIDs, but none of its parts is refused. -/
theorem parseIosDevices_accepts_partial (plain : ∀ udid ∈ udids, IsUdid udid) :
    ([] ∉ udids → parseIosDevices (listJson udids) =
      .ok (udids.map fun udid => ⟨udid, shortIosName udid⟩)) ∧
    (∀ cut, cut <+: listJson udids → cut ≠ [] → ∃ devices, parseIosDevices cut = .ok devices) ∧
    ¬ RefusesPartial udids := by
  refine ⟨fun nonempty => ?_, fun cut => parseIosDevices_partial plain, fun refuses => ?_⟩
  · have whole := parseIosDevices_closed plain ['}']
    have all : udids.filter (· ≠ []) = udids := List.filter_eq_self.mpr fun udid inside =>
      decide_eq_true fun empty : udid = [] => nonempty (empty ▸ inside)
    rwa [all] at whole
  · have shape : listJson udids = '{' :: ("\"deviceList\":[".toList ++
        commaSeparated (udids.map quoted) ++ "]\x7d".toList) := rfl
    have first : ['{'] <+: listJson udids := ⟨_, shape.symm⟩
    have whole : ['{'] ≠ listJson udids := fun same => by
      have shorter := (List.cons.inj (same.trans shape)).2
      simp at shorter
    obtain ⟨error, refused⟩ := refuses.2 ['{'] first (List.cons_ne_nil _ _) whole
    obtain ⟨devices, accepted⟩ := parseIosDevices_partial plain first (List.cons_ne_nil _ _)
    rw [refused] at accepted
    cases accepted

theorem parseIosDevices_accepts_partial_one :
    (parseIosDevices (listJson ["0-1".toList]) =
      .ok [⟨"0-1".toList, "iPhone ····0-1".toList⟩]) ∧
    (∀ cut, cut <+: listJson ["0-1".toList] → cut ≠ [] →
      ∃ devices, parseIosDevices cut = .ok devices) ∧
    ¬ RefusesPartial ["0-1".toList] := by
  have plain : ∀ udid ∈ ["0-1".toList], IsUdid udid := by
    intro udid inside
    obtain rfl := List.mem_singleton.mp inside
    exact List.all_eq_true.mp (show "0-1".toList.all isUdidChar = true by decide)
  obtain ⟨whole, parts, never⟩ := parseIosDevices_accepts_partial plain
  exact ⟨whole (by decide), parts, never⟩

/-- The output cut within the first UDID is a device, and so is its first character. -/
theorem parseIosDevices_cut :
    ("\x7b\"deviceList\":[\"0".toList <+: listJson ["0-1".toList] ∧
      parseIosDevices "\x7b\"deviceList\":[\"0".toList =
        .ok [⟨"\x7b\"deviceList\":[\"0".toList, "iPhone ····:[\"0".toList⟩]) ∧
    ¬ RefusesPartial ["0-1".toList] := by
  refine ⟨⟨⟨_, rfl⟩, by decide⟩, fun refuses => ?_⟩
  obtain ⟨error, refused⟩ :=
    refuses.2 "\x7b\"deviceList\":[\"0".toList ⟨_, rfl⟩ (by decide) (by decide)
  have accepted : parseIosDevices "\x7b\"deviceList\":[\"0".toList =
      .ok [⟨"\x7b\"deviceList\":[\"0".toList, "iPhone ····:[\"0".toList⟩] := by decide
  rw [refused] at accepted
  cases accepted

end QuadControl.Ios.Devices
