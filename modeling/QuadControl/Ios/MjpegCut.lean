import QuadControl.Ios.MjpegRendering

/-! # A stream that is cut anywhere

A rendered stream can break off within a header line, a character, a body or a line end. Of such
a stream the pump publishes the frames that have come as a whole, and nothing else.
-/

namespace QuadControl.Ios.Mjpeg

open Lib Lib.Utf8
open Lib.Text (dashes)

/-! ### A line -/

/-- A cut is behind the first of two pieces, or within it. -/
theorem prefix_append_cases {first second cut : Bytes} (arrived : cut <+: first ++ second) :
    (∃ more, cut = first ++ more ∧ more <+: second) ∨
      cut <+: first ∧ cut.length < first.length := by
  rcases List.prefix_or_prefix_of_prefix arrived (List.prefix_append _ second) with inside | behind
  · rcases Nat.lt_or_ge cut.length first.length with short | long
    · exact .inr ⟨inside, short⟩
    · obtain rfl := inside.eq_of_length_le long
      exact .inl ⟨[], (List.append_nil _).symm, List.nil_prefix⟩
  · obtain ⟨more, rfl⟩ := behind
    exact .inl ⟨more, rfl, (List.prefix_append_right_inj _).mp arrived⟩

/-- A cut is behind a line, or there is no line feed before it. -/
theorem prefix_line {s : Text} {rest cut : Bytes} (oneLine : '\n' ∉ s)
    (arrived : cut <+: line s ++ rest) :
    (∃ more, cut = line s ++ more ∧ more <+: rest) ∨
      lineFeed ∉ cut ∧ cut.length < (line s).length := by
  have spelled : line s = encode (s ++ ['\r']) ++ [lineFeed] := by
    have shape : s ++ crlf = s ++ ['\r'] ++ ['\n'] := by simp [crlf]
    rw [line, shape, encode_append]
    rfl
  have fresh : lineFeed ∉ encode (s ++ ['\r']) := by
    rw [lineFeed_eq, mem_encode_iff (by decide)]
    simp [oneLine]
  refine (prefix_append_cases arrived).imp_right fun ⟨inside, short⟩ => ⟨?_, short⟩
  rw [spelled] at inside short
  rcases List.prefix_concat_iff.mp inside with whole | part
  · rw [whole] at short
    exact absurd short (Nat.lt_irrefl _)
  · exact fun feed => fresh (part.subset feed)

variable {cut : Bytes} {name : Text} {found : Option Text} {boundary : Text}

/-- What has no line feed is the last line. -/
theorem readLineOpt_fresh (fresh : lineFeed ∉ cut) {read : Option Text} {rest : Reader}
    (h : readLineOpt ⟨cut, none⟩ = .ok (read, rest)) : rest = ⟨[], none⟩ := by
  have unsplit : splitLine cut = none := splitLine_eq_none.mpr fresh
  simp only [readLineOpt, unsplit] at h
  split at h
  case isTrue empty =>
    obtain ⟨-, rfl⟩ := Prod.mk.inj (Except.ok.inj h)
    rw [empty]
  case isFalse =>
    unfold decodeLine at h
    split at h
    · exact (Prod.mk.inj (Except.ok.inj h)).2.symm
    · cases h

theorem readLineOpt_ended : readLineOpt ⟨[], none⟩ = .ok (none, ⟨[], none⟩) := rfl

theorem readHeaders_ended : readHeaders name found ⟨[], none⟩ = .ok (none, ⟨[], none⟩) := by
  rw [readHeaders]
  split <;> simp_all [readLineOpt_ended]

theorem skipToDelimiter_ended :
    skipToDelimiter boundary ⟨[], none⟩ = .ok (false, ⟨[], none⟩) := by
  rw [skipToDelimiter]
  split <;> simp_all [readLineOpt_ended]

theorem readFrame_ended : readFrame boundary ⟨[], none⟩ = .ok (none, ⟨[], none⟩) := by
  simp only [readFrame, skipToDelimiter_ended]

theorem skipToDelimiter_fresh (fresh : lineFeed ∉ cut) {found : Bool} {rest : Reader}
    (h : skipToDelimiter boundary ⟨cut, none⟩ = .ok (found, rest)) : rest = ⟨[], none⟩ := by
  rw [skipToDelimiter] at h
  split at h
  case h_1 => cases h
  case h_2 rest' read =>
    obtain ⟨-, rfl⟩ := Prod.mk.inj (Except.ok.inj h)
    exact readLineOpt_fresh fresh read
  case h_3 text rest' read =>
    obtain rfl := readLineOpt_fresh fresh read
    split at h
    · exact (Prod.mk.inj (Except.ok.inj h)).2.symm
    · rw [skipToDelimiter_ended] at h
      exact (Prod.mk.inj (Except.ok.inj h)).2.symm

/-- A frame takes more than one line. -/
theorem readFrame_fresh (fresh : lineFeed ∉ cut) {frame : Option Bytes} {rest : Reader}
    (h : readFrame boundary ⟨cut, none⟩ = .ok (frame, rest)) :
    rest = ⟨[], none⟩ ∧ frame = none := by
  unfold readFrame at h
  split at h
  case h_1 => cases h
  case h_2 rest' skipped =>
    obtain ⟨rfl, rfl⟩ := Prod.mk.inj (Except.ok.inj h)
    exact ⟨skipToDelimiter_fresh fresh skipped, rfl⟩
  case h_3 rest' skipped =>
    obtain rfl := skipToDelimiter_fresh fresh skipped
    rw [readHeaders_ended] at h
    obtain ⟨rfl, rfl⟩ := Prod.mk.inj (Except.ok.inj h)
    exact ⟨rfl, rfl⟩

/-! ### A header -/

/-- The last line can be taken for the end of the header, where only blanks of it have come. -/
theorem readHeaders_fresh (fresh : lineFeed ∉ cut) {value : Option (Option Text)} {rest : Reader}
    (h : readHeaders name found ⟨cut, none⟩ = .ok (value, rest)) :
    rest = ⟨[], none⟩ ∧ (value = none ∨ value = some found) := by
  rw [readHeaders] at h
  split at h
  case h_1 => cases h
  case h_2 rest' read =>
    obtain ⟨rfl, rfl⟩ := Prod.mk.inj (Except.ok.inj h)
    exact ⟨readLineOpt_fresh fresh read, .inl rfl⟩
  case h_3 text rest' read =>
    obtain rfl := readLineOpt_fresh fresh read
    split at h
    · obtain ⟨rfl, rfl⟩ := Prod.mk.inj (Except.ok.inj h)
      exact ⟨rfl, .inr rfl⟩
    · rw [readHeaders_ended] at h
      obtain ⟨rfl, rfl⟩ := Prod.mk.inj (Except.ok.inj h)
      exact ⟨rfl, .inl rfl⟩

/-- A header line of either kind. -/
structure HeaderLine (text : Text) : Prop where
  oneLine : '\n' ∉ text
  notBlank : ∃ c ∈ text, ¬ Text.isWhitespace c

theorem OtherHeader.headerLine {name : Text} (header : OtherHeader name) : HeaderLine header.text :=
  ⟨header.oneLine, header.notBlank⟩

/-- What a cut header gives, if it gives anything, is what was found before. -/
theorem readHeaders_last (fresh : lineFeed ∉ cut) {possible : Option Text → Prop}
    (start : possible found) {value : Option (Option Text)} {rest : Reader}
    (h : readHeaders name found ⟨cut, none⟩ = .ok (value, rest)) :
    rest = ⟨[], none⟩ ∧ ∀ given, value = some given → possible given := by
  obtain ⟨ended, none | same⟩ := readHeaders_fresh fresh h
  · exact ⟨ended, fun given here => by cases none.symm.trans here⟩
  · refine ⟨ended, fun given here => ?_⟩
    obtain rfl := Option.some.inj (same.symm.trans here)
    exact start

/-- A header that is cut is not taken for a whole one, unless all but the end of its blank line
    has come; what was found by then is what its lines can give. -/
theorem readHeaders_cut {lines : List Text} (headers : ∀ text ∈ lines, HeaderLine text)
    {possible : Option Text → Prop} (keeps : ∀ text ∈ lines, ∀ found, possible found →
      possible ((headerValue name (text ++ crlf)).or found))
    (start : possible found) (arrived : cut <+: lines.flatMap line ++ line [])
    (short : cut.length < (lines.flatMap line ++ line []).length) {value : Option (Option Text)}
    {rest : Reader} (h : readHeaders name found ⟨cut, none⟩ = .ok (value, rest)) :
    rest = ⟨[], none⟩ ∧ ∀ given, value = some given → possible given := by
  induction lines generalizing cut found with
  | nil =>
      have blank : cut <+: line [] ++ [] := by rwa [List.append_nil]
      rcases prefix_line (by simp) blank with ⟨more, rfl, -⟩ | ⟨fresh, -⟩
      · simp only [List.flatMap_nil, List.nil_append, List.length_append] at short
        omega
      · exact readHeaders_last fresh start h
  | cons text lines ih =>
      have header := headers text (.head _)
      rw [List.flatMap_cons, List.append_assoc] at arrived short
      rcases prefix_line header.oneLine arrived with ⟨more, rfl, arrived'⟩ | ⟨fresh, -⟩
      · rw [readHeaders_of_line (readLineOpt_line more none header.oneLine),
          if_neg (trim_line_ne_nil header.notBlank)] at h
        simp only [List.length_append, Nat.add_lt_add_iff_left] at short
        exact ih (fun text inside => headers text (.tail _ inside))
          (fun text inside => keeps text (.tail _ inside)) (keeps text (.head _) found start)
          arrived' (by simpa using short) h
      · exact readHeaders_last fresh start h

/-! ### A part -/

section Part

variable (b : Boundary) (part : Part)

/-- The lines of a part's header. -/
def Part.lines (part : Part) : List Text :=
  part.before.map OtherHeader.text ++ contentLengthLine part.frame.length ::
    part.after.map OtherHeader.text

theorem Part.head_eq : part.head b = line b.delimiter ++ (part.lines.flatMap line ++ line []) := by
  simp only [head, lines, headerLines, List.flatMap_append, List.flatMap_cons, List.flatMap_map,
    List.append_assoc]

theorem headerLine_contentLength (length : Nat) : HeaderLine (contentLengthLine length) where
  oneLine inside := by
    rcases List.mem_append.mp inside with inside | inside
    · exact absurd inside (by decide)
    · exact digits_oneLine _ inside
  notBlank := ⟨'C', by
    rw [contentLengthLine_spelled]
    exact List.mem_append_left _ (by decide), by decide⟩

theorem Part.headerLines_lines : ∀ text ∈ part.lines, HeaderLine text := by
  intro text inside
  simp only [lines, List.mem_append, List.mem_map, List.mem_cons] at inside
  rcases inside with ⟨header, -, rfl⟩ | rfl | ⟨header, -, rfl⟩
  · exact header.headerLine
  · exact headerLine_contentLength _
  · exact header.headerLine

/-- The only length that a part's header gives is that of its frame. -/
theorem Part.headerValue_lines : ∀ text ∈ part.lines, ∀ found,
    (∀ value, found = some value → value = Nat.toDigits 10 part.frame.length) →
      ∀ value, (headerValue contentLengthName (text ++ crlf)).or found = some value →
        value = Nat.toDigits 10 part.frame.length := by
  intro text inside found before value given
  simp only [lines, List.mem_append, List.mem_map, List.mem_cons] at inside
  rcases inside with ⟨header, -, rfl⟩ | rfl | ⟨header, -, rfl⟩
  · rw [header.headerValue_eq_none, Option.none_or] at given
    exact before value given
  · have named : headerValue contentLengthName (contentLengthLine part.frame.length ++ crlf) =
        some (Nat.toDigits 10 part.frame.length) := by
      rw [contentLengthLine_spelled, headerValue_named (by decide) (by decide), trim_digits]
    rw [named, Option.some_or] at given
    exact (Option.some.inj given).symm
  · rw [header.headerValue_eq_none, Option.none_or] at given
    exact before value given

theorem readBody_ended {length : Option Nat} {frame : Option Bytes} {rest : Reader}
    (h : readBody boundary length ⟨[], none⟩ = .ok (frame, rest)) :
    rest = ⟨[], none⟩ ∧ ∀ bytes, frame = some bytes → bytes = [] ∧ length = some 0 := by
  cases length with
  | none =>
      obtain ⟨rfl, rfl⟩ := Prod.mk.inj (Except.ok.inj h)
      exact ⟨rfl, by rintro _ ⟨⟩⟩
  | some length =>
      rw [readBody] at h
      split at h
      · cases h
      · rw [readExact] at h
        split at h
        case isTrue none =>
          obtain rfl := Nat.le_zero.mp none
          obtain ⟨rfl, rfl⟩ := Prod.mk.inj (Except.ok.inj h)
          exact ⟨rfl, fun bytes same => ⟨(Option.some.inj same).symm, rfl⟩⟩
        case isFalse =>
          obtain ⟨rfl, rfl⟩ := Prod.mk.inj (Except.ok.inj h)
          exact ⟨rfl, by rintro _ ⟨⟩⟩

/-- A frame can come of a head that is cut only where it is empty itself. -/
theorem readFrame_cut (arrived : cut <+: part.head b) (short : cut.length < (part.head b).length)
    {frame : Option Bytes} {rest : Reader} (h : readFrame b.kept ⟨cut, none⟩ = .ok (frame, rest)) :
    rest = ⟨[], none⟩ ∧ ∀ bytes, frame = some bytes → bytes = part.frame := by
  rw [part.head_eq b] at arrived short
  rcases prefix_line b.delimiter_oneLine arrived with ⟨more, rfl, behind⟩ | ⟨fresh, -⟩
  · simp only [List.length_append, Nat.add_lt_add_iff_left] at short
    have few : more.length < (part.lines.flatMap line ++ line []).length := by
      simpa using short
    have cuts : ∀ {value rest}, readHeaders contentLengthName none ⟨more, none⟩ =
        .ok (value, rest) → _ :=
      readHeaders_cut part.headerLines_lines part.headerValue_lines (by rintro _ ⟨⟩) behind few
    simp only [readFrame, skipToDelimiter_delimiter] at h
    split at h
    case h_1 => cases h
    case h_2 rest' read =>
      obtain ⟨rfl, rfl⟩ := Prod.mk.inj (Except.ok.inj h)
      exact ⟨(cuts read).1, by rintro _ ⟨⟩⟩
    case h_3 value rest' read =>
      obtain ⟨rfl, given⟩ := cuts read
      obtain ⟨ended, none⟩ := readBody_ended h
      refine ⟨ended, fun bytes same => ?_⟩
      obtain ⟨rfl, length⟩ := none bytes same
      obtain ⟨digits, rfl, parsed⟩ := Option.bind_eq_some_iff.mp length
      rw [given _ rfl digits rfl, Text.parseUsize_toDigits (part.small.trans_lt (by decide))] at parsed
      exact (List.length_eq_zero_iff.mp (Option.some.inj parsed)).symm
  · obtain ⟨rfl, rfl⟩ := readFrame_fresh fresh h
    exact ⟨rfl, by rintro _ ⟨⟩⟩

end Part

/-! ### The pump -/

section Pump

variable {stop : Nat → Bool} {i : Nat} {reader : Reader}

/-- Where no frame is read, none is published. -/
theorem published_of_unread
    (unread : ∀ frame rest, readFrame boundary reader ≠ .ok (some frame, rest)) :
    (pumpLoop boundary stop i reader).published = [] := by
  rw [pumpLoop]
  split
  · rfl
  · split
    case h_1 frame rest read => exact absurd read (unread frame rest)
    case h_2 => rfl
    case h_3 => rfl

theorem published_of_read (calm : stop i = false) {frame : Bytes} {rest : Reader}
    (read : readFrame boundary reader = .ok (some frame, rest)) :
    (pumpLoop boundary stop i reader).published =
      frame :: (pumpLoop boundary stop (i + 1) rest).published :=
  congrArg Outcome.published (pumpLoop_frame calm read)

theorem published_ended : (pumpLoop boundary stop i ⟨[], none⟩).published = [] :=
  published_of_unread fun frame rest read => by cases readFrame_ended.symm.trans read

end Pump

/-- Of so many parts all have come, and no more than these are published. -/
def Arrives (b : Boundary) (lead : Bytes) (parts : List Part) (cut : Bytes) (n : Nat) : Prop :=
  ∀ k ≤ parts.length, lead ++ (parts.take k).flatMap (Part.bytes b) <+: cut → k ≤ n

theorem arrives_of_short {b : Boundary} {lead : Bytes} {part : Part} {parts : List Part}
    (short : cut.length < lead.length + (part.bytes b).length) (n : Nat) :
    Arrives b lead (part :: parts) cut n := by
  intro k _ whole
  cases k with
  | zero => exact Nat.zero_le n
  | succ k =>
      have long := whole.length_le
      simp only [List.take_succ_cons, List.flatMap_cons, List.length_append] at long
      omega

theorem arrives_cons {b : Boundary} {lead cut : Bytes} {part : Part} {parts : List Part} {n : Nat}
    (arrives : Arrives b (line []) parts cut n) :
    Arrives b lead (part :: parts) (lead ++ (part.head b ++ (part.frame ++ cut))) (n + 1) := by
  intro k most whole
  cases k with
  | zero => exact Nat.zero_le _
  | succ k =>
      refine Nat.succ_le_succ (arrives k (Nat.le_of_succ_le_succ most) ?_)
      simpa only [List.take_succ_cons, List.flatMap_cons, Part.bytes, List.append_assoc,
        List.prefix_append_right_inj] using whole

/-- Where the reader can stand between two parts. -/
def AtLineEnd (lead : Bytes) : Prop := lead = [] ∨ lead = line []

theorem AtLineEnd.readFrame {lead : Bytes} (atLineEnd : AtLineEnd lead) (b : Boundary)
    (rest : Bytes) :
    readFrame b.kept ⟨lead ++ rest, none⟩ = Mjpeg.readFrame b.kept ⟨rest, none⟩ := by
  rcases atLineEnd with rfl | rfl
  · rfl
  · exact readFrame_blank b rest none

theorem AtLineEnd.behind {lead rest : Bytes} (atLineEnd : AtLineEnd lead)
    (arrived : cut <+: lead ++ rest) :
    (∃ more, cut = lead ++ more ∧ more <+: rest) ∨
      lineFeed ∉ cut ∧ cut.length < lead.length := by
  rcases atLineEnd with rfl | rfl
  · exact .inl ⟨cut, rfl, arrived⟩
  · exact prefix_line (by simp) arrived

/-- The frames that have come as a whole are published, in their order. -/
theorem pumpLoop_cut (b : Boundary) (parts : List Part) {stop : Nat → Bool}
    (calm : ∀ i, stop i = false) (i : Nat) {lead : Bytes} (atLineEnd : AtLineEnd lead)
    (arrived : cut <+: lead ++ parts.flatMap (Part.bytes b)) :
    ∃ n, (pumpLoop b.kept stop i ⟨cut, none⟩).published = (parts.map Part.frame).take n ∧
      Arrives b lead parts cut n := by
  induction parts generalizing i lead cut with
  | nil =>
      refine ⟨0, published_of_unread fun frame rest read => ?_, fun k most _ => most⟩
      rcases atLineEnd.behind arrived with ⟨more, rfl, none⟩ | ⟨fresh, -⟩
      · obtain rfl := List.prefix_nil.mp none
        rw [atLineEnd.readFrame, readFrame_ended] at read
        cases read
      · cases (readFrame_fresh fresh read).2
  | cons part parts ih =>
      have shape : (part :: parts).flatMap (Part.bytes b) =
          part.head b ++ (part.frame ++ (line [] ++ parts.flatMap (Part.bytes b))) := by
        simp only [List.flatMap_cons, Part.bytes, List.append_assoc]
      have bytes : (part.bytes b).length = (part.head b).length + part.frame.length + 2 := by
        have two : (line []).length = 2 := by decide
        simp only [Part.bytes, List.length_append, two]
      rw [shape] at arrived
      rcases atLineEnd.behind arrived with ⟨more, rfl, within⟩ | ⟨fresh, short⟩
      · rcases prefix_append_cases within with ⟨body, rfl, within'⟩ | ⟨inside, short⟩
        · rcases prefix_append_cases within' with ⟨rest, rfl, behind⟩ | ⟨inside, short⟩
          · -- the frame is there, and what is behind it is a shorter stream
            obtain ⟨n, published, arrives⟩ := ih (i + 1) (.inr rfl) behind
            have read : readFrame b.kept ⟨lead ++ (part.head b ++ (part.frame ++ rest)), none⟩ =
                .ok (some part.frame, ⟨rest, none⟩) := by
              rw [atLineEnd.readFrame, readFrame_head, readExact, if_pos (by simp)]
              simp
            refine ⟨n + 1, ?_, arrives_cons arrives⟩
            rw [published_of_read (calm i) read, published, List.map_cons, List.take_succ_cons]
          · refine ⟨0, published_of_unread fun frame rest read => ?_, arrives_of_short ?_ 0⟩
            · rw [atLineEnd.readFrame, readFrame_head, readExact,
                if_neg (Nat.not_le.mpr short)] at read
              cases read
            · simp only [List.length_append, bytes]
              omega
        · have few : Arrives b lead (part :: parts) (lead ++ more) 0 := by
            refine arrives_of_short ?_ 0
            simp only [List.length_append, bytes]
            omega
          cases read : readFrame b.kept ⟨more, none⟩ with
          | error reason =>
              refine ⟨0, published_of_unread fun frame rest read' => ?_, few⟩
              rw [atLineEnd.readFrame, read] at read'
              cases read'
          | ok found =>
              obtain ⟨frame, rest⟩ := found
              obtain ⟨rfl, same⟩ := readFrame_cut b part inside short read
              cases frame with
              | none =>
                  refine ⟨0, published_of_unread fun frame rest read' => ?_, few⟩
                  rw [atLineEnd.readFrame, read] at read'
                  cases read'
              | some frame =>
                  obtain rfl := same frame rfl
                  refine ⟨1, ?_, fun k most whole => (few k most whole).trans (Nat.zero_le _)⟩
                  have read' := (atLineEnd.readFrame b more).trans read
                  rw [published_of_read (calm i) read', published_ended, List.map_cons,
                    List.take_succ_cons, List.take_zero]
      · refine ⟨0, published_of_unread fun frame rest read => ?_,
          arrives_of_short (Nat.lt_add_right _ short) 0⟩
        cases (readFrame_fresh fresh read).2

/-! ### The response header -/

/-- The lines of a response header. -/
def Response.lines (response : Response) : List Text :=
  response.before.map OtherHeader.text ++ contentTypeLine response.announced ::
    response.after.map OtherHeader.text

theorem Response.bytes_eq (response : Response) :
    response.bytes = response.lines.flatMap line ++ line [] := by
  simp only [bytes, lines, headerLines, List.flatMap_append, List.flatMap_cons, List.flatMap_map,
    List.append_assoc]

theorem Response.headerLines_lines (response : Response) :
    ∀ text ∈ response.lines, HeaderLine text := by
  intro text inside
  simp only [lines, List.mem_append, List.mem_map, List.mem_cons] at inside
  rcases inside with ⟨header, -, rfl⟩ | rfl | ⟨header, -, rfl⟩
  · exact header.headerLine
  · refine ⟨fun feed => ?_, 'C', List.mem_append_left _ (by decide), by decide⟩
    rcases List.mem_append.mp feed with inside | inside
    · exact absurd inside (by decide)
    · rcases response.mem_announced inside with dash | inside
      · exact absurd dash (by decide)
      · exact response.boundary.oneLine.1 inside
  · exact header.headerLine

theorem readUpstreamBoundary_cut {response : Response} (arrived : cut <+: response.bytes)
    (short : cut.length < response.bytes.length) {boundary : Text} {rest : Reader}
    (h : readUpstreamBoundary ⟨cut, none⟩ = .ok (boundary, rest)) : rest = ⟨[], none⟩ := by
  rw [response.bytes_eq] at arrived short
  unfold readUpstreamBoundary at h
  split at h
  case h_1 | h_2 | h_3 => cases h
  case h_4 contentType rest' read =>
    have anything : ∀ text ∈ response.lines, ∀ found, True →
        (fun _ : Option Text => True) ((headerValue contentTypeName (text ++ crlf)).or found) :=
      fun _ _ _ _ => trivial
    have ended : rest' = ⟨[], none⟩ :=
      (readHeaders_cut response.headerLines_lines anything trivial arrived short read).1
    split at h
    · cases h
    · exact (Prod.mk.inj (Except.ok.inj h)).2.symm.trans ended

/-- Wherever a rendered stream is cut, the pump publishes the frames that have come as a whole. -/
theorem pumpUpstream_cut (response : Response) (parts : List Part) {stop : Nat → Bool}
    (calm : ∀ i, stop i = false)
    (arrived : cut <+: response.bytes ++ parts.flatMap (Part.bytes response.boundary)) :
    ∃ n, (pumpUpstream (.ok ()) stop ⟨cut, none⟩).published = (parts.map Part.frame).take n ∧
      ∀ k ≤ parts.length,
        response.bytes ++ (parts.take k).flatMap (Part.bytes response.boundary) <+: cut → k ≤ n := by
  rcases prefix_append_cases arrived with ⟨more, rfl, within⟩ | ⟨inside, short⟩
  · obtain ⟨n, published, arrives⟩ :=
      pumpLoop_cut response.boundary parts calm 0 (.inl rfl) within
    refine ⟨n, ?_, fun k most whole => arrives k most ?_⟩
    · simp only [pumpUpstream, readUpstreamBoundary_response, published]
    · exact (List.prefix_append_right_inj _).mp whole
  · refine ⟨0, ?_, fun k _ whole => ?_⟩
    · unfold pumpUpstream
      dsimp only
      split
      case h_1 => rfl
      case h_2 boundary rest read =>
        obtain rfl := readUpstreamBoundary_cut inside short read
        rw [published_ended, List.take_zero]
    · have long := whole.length_le
      simp only [List.length_append] at long
      omega

end QuadControl.Ios.Mjpeg
