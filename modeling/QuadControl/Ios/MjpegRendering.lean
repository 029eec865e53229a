import QuadControl.Ios.Mjpeg

/-! # Reading back a multipart stream

A response header and parts that announce their length, rendered as the device
sends them, and the proof that the pump takes the frames out again. The frames
are arbitrary bytes: nothing in a body of announced length is looked at.
-/

namespace QuadControl.Ios.Mjpeg

open Lib Lib.Utf8
open Lib.Text (dashes)

def crlf : Text := ['\r', '\n']

/-- A line as it is sent. -/
def line (s : Text) : Bytes := encode (s ++ crlf)

/-- A boundary a content type can announce: one line, not empty, without the
    characters that end or quote a parameter, with nothing at its end that
    trimming would take. -/
structure Boundary where
  text : Text
  nonempty : text ≠ []
  oneLine : '\n' ∉ text ∧ '\r' ∉ text
  unquoted : ';' ∉ text ∧ '"' ∉ text
  solidEnd : ∀ c, text.getLast? = some c → ¬ Text.isWhitespace c
  openEnd : ¬ dashes <:+ text

/-- A header line that gives no value to `name`. -/
structure OtherHeader (name : Text) where
  text : Text
  oneLine : '\n' ∉ text
  notBlank : ∃ c ∈ text, ¬ Text.isWhitespace c
  other : ∀ key value, text = key ++ ':' :: value → ':' ∉ key →
    Text.eqIgnoreAsciiCase (Text.trim key) name = false

def headerLines {name : Text} (headers : List (OtherHeader name)) : Bytes :=
  headers.flatMap fun header => line header.text

/-- The header of the response: the boundary with or without leading dashes, and
    whatever other lines the server sends. -/
structure Response where
  boundary : Boundary
  dashed : Bool
  before : List (OtherHeader contentTypeName)
  after : List (OtherHeader contentTypeName)

def Response.announced (response : Response) : Text :=
  if response.dashed then dashes ++ response.boundary.text else response.boundary.text

def contentTypeLine (boundary : Text) : Text :=
  "Content-Type: multipart/x-mixed-replace; boundary=".toList ++ boundary

def Response.bytes (response : Response) : Bytes :=
  headerLines response.before ++ line (contentTypeLine response.announced) ++
    headerLines response.after ++ line []

/-- A frame of admissible size, with the header lines of its part around the length. -/
structure Part where
  frame : Bytes
  small : frame.length ≤ maxFrameBytes
  before : List (OtherHeader contentLengthName)
  after : List (OtherHeader contentLengthName)

def Boundary.delimiter (b : Boundary) : Text := dashes ++ b.text

def contentLengthLine (length : Nat) : Text := "Content-Length: ".toList ++ Nat.toDigits 10 length

/-- A part up to its body. -/
def Part.head (b : Boundary) (part : Part) : Bytes :=
  line b.delimiter ++ headerLines part.before ++ line (contentLengthLine part.frame.length) ++
    headerLines part.after ++ line []

def Part.bytes (b : Boundary) (part : Part) : Bytes := part.head b ++ part.frame ++ line []

/-- How the stream ends behind the last whole part. -/
inductive Tail where
  | ended
  | closed
  | cut (part : Part) (kept : Nat) (short : kept < part.frame.length)

def Tail.bytes (b : Boundary) : Tail → Bytes
  | .ended => []
  | .closed => line (b.delimiter ++ dashes)
  | .cut part kept _ => part.head b ++ part.frame.take kept

/-! ### Lines -/

theorem lineFeed_eq : lineFeed = byte '\n' := rfl

theorem readLineOpt_text {s : Text} (rest : Bytes) (failure : Option String)
    (oneLine : '\n' ∉ s) :
    readLineOpt ⟨encode (s ++ ['\n']) ++ rest, failure⟩ =
      .ok (some (s ++ ['\n']), ⟨rest, failure⟩) := by
  have fresh : lineFeed ∉ encode s := by
    rwa [lineFeed_eq, mem_encode_iff (by decide)]
  have split := splitLine_append rest fresh
  have whole : encode s ++ [lineFeed] = encode (s ++ ['\n']) := by
    rw [encode_append]
    rfl
  rw [List.append_cons, whole] at split
  simp only [readLineOpt, split, decodeLine, decode_encode, Except.map]

theorem readLineOpt_line {s : Text} (rest : Bytes) (failure : Option String)
    (oneLine : '\n' ∉ s) :
    readLineOpt ⟨line s ++ rest, failure⟩ = .ok (some (s ++ crlf), ⟨rest, failure⟩) := by
  have := readLineOpt_text (s := s ++ ['\r']) rest failure (by simp [oneLine])
  rwa [List.append_assoc] at this

theorem readHeaders_of_line {name line : Text} {found : Option Text} {reader rest : Reader}
    (consumed : readLineOpt reader = .ok (some line, rest)) :
    readHeaders name found reader =
      if Text.trim line = [] then .ok (some found, rest)
      else readHeaders name ((headerValue name line).or found) rest := by
  rw [readHeaders]
  split <;> simp_all

theorem skipToDelimiter_of_line {boundary line : Text} {reader rest : Reader}
    (consumed : readLineOpt reader = .ok (some line, rest)) :
    skipToDelimiter boundary reader =
      if isDelimiter boundary line then .ok (true, rest) else skipToDelimiter boundary rest := by
  rw [skipToDelimiter]
  split <;> simp_all

theorem trim_crlf : ∀ c ∈ crlf, Text.isWhitespace c := List.all_eq_true.mp (by decide)

theorem trim_space : ∀ c ∈ [' '], Text.isWhitespace c := List.all_eq_true.mp (by decide)

theorem trim_line_ne_nil {s : Text} (notBlank : ∃ c ∈ s, ¬ Text.isWhitespace c) :
    Text.trim (s ++ crlf) ≠ [] := by
  obtain ⟨c, inside, solid⟩ := notBlank
  intro blank
  exact solid (Text.trim_eq_nil.mp blank c (by simp [inside]))

/-! ### Headers -/

theorem headerValue_named {name key value : Text} (colon : ':' ∉ key)
    (named : Text.eqIgnoreAsciiCase (Text.trim key) name = true) :
    headerValue name (key ++ ':' :: value ++ crlf) = some (Text.trim (value ++ crlf)) := by
  have split : Text.splitOnce ':' (key ++ ':' :: value ++ crlf) = some (key, value ++ crlf) :=
    Text.splitOnce_eq_some.mpr ⟨by simp, colon⟩
  simp only [headerValue, split, named, if_true]

theorem OtherHeader.headerValue_eq_none {name : Text} (header : OtherHeader name) :
    headerValue name (header.text ++ crlf) = none := by
  unfold headerValue
  split
  · rename_i key value split
    obtain ⟨shape, colon⟩ := Text.splitOnce_eq_some.mp split
    -- The colon is the line's own, not part of what ends the line.
    obtain ⟨value', shape⟩ : ∃ value', header.text = key ++ ':' :: value' := by
      rcases List.append_eq_append_iff.mp shape with ⟨extra, -, inEnd⟩ | ⟨own, text, inEnd⟩
      · have : ':' ∈ crlf := by simp [inEnd]
        exact absurd this (by decide)
      · cases own with
        | nil => exact absurd (List.cons.inj inEnd).1 (by decide)
        | cons c own =>
            obtain ⟨rfl, -⟩ := List.cons.inj inEnd
            exact ⟨own, text⟩
    simp [header.other key value' shape colon]
  · rfl

theorem readHeaders_blank (name : Text) (found : Option Text) (rest : Bytes)
    (failure : Option String) :
    readHeaders name found ⟨line [] ++ rest, failure⟩ = .ok (some found, ⟨rest, failure⟩) := by
  have blank : Text.trim ([] ++ crlf) = [] := by decide
  rw [readHeaders_of_line (readLineOpt_line rest failure (by simp)), if_pos blank]

theorem readHeaders_others {name : Text} (headers : List (OtherHeader name))
    (found : Option Text) (rest : Bytes) (failure : Option String) :
    readHeaders name found ⟨headerLines headers ++ rest, failure⟩ =
      readHeaders name found ⟨rest, failure⟩ := by
  induction headers with
  | nil => rfl
  | cons header headers ih =>
      have shape : headerLines (header :: headers) ++ rest =
          line header.text ++ (headerLines headers ++ rest) := by simp [headerLines]
      rw [shape, readHeaders_of_line (readLineOpt_line _ failure header.oneLine),
        if_neg (trim_line_ne_nil header.notBlank), header.headerValue_eq_none, Option.none_or, ih]

theorem readHeaders_named {name key value : Text} (found : Option Text) (rest : Bytes)
    (failure : Option String) (oneLine : '\n' ∉ key ++ ':' :: value) (colon : ':' ∉ key)
    (named : Text.eqIgnoreAsciiCase (Text.trim key) name = true) :
    readHeaders name found ⟨line (key ++ ':' :: value) ++ rest, failure⟩ =
      readHeaders name (some (Text.trim (value ++ crlf))) ⟨rest, failure⟩ := by
  have notBlank : ∃ c ∈ key ++ ':' :: value, ¬ Text.isWhitespace c := ⟨':', by simp, by decide⟩
  rw [readHeaders_of_line (readLineOpt_line rest failure oneLine),
    if_neg (trim_line_ne_nil notBlank), headerValue_named colon named, Option.some_or]

/-! ### The boundary -/

section Boundary

variable (b : Boundary)

/-- The boundary as the pump keeps it. -/
def Boundary.kept : Text := Text.trimStartDashes b.text

theorem Boundary.kept_ne_nil : b.kept ≠ [] := Text.trimStartDashes_ne_nil b.nonempty b.openEnd

theorem Boundary.kept_suffix : b.kept <:+ b.text := Text.trimStartDashes_suffix b.text

theorem Boundary.isDelimiter_delimiter : isDelimiter b.kept (b.delimiter ++ crlf) = true := by
  have solid : Text.trimEnd b.delimiter = b.delimiter := Text.trimEnd_eq_self fun c last => by
    rw [delimiter, List.getLast?_append_of_ne_nil _ b.nonempty] at last
    exact b.solidEnd c last
  have stripped : Text.trimEnd (b.delimiter ++ crlf) = b.delimiter := by
    rw [Text.trimEnd_append_space trim_crlf, solid]
  have ends : b.kept <:+ Text.trimEndDashes b.delimiter :=
    b.kept_suffix.trans (Text.suffix_trimEndDashes b.nonempty b.openEnd)
  have dashed : dashes <:+: b.delimiter ++ crlf := ⟨[], b.text ++ crlf, by simp [delimiter]⟩
  simp [isDelimiter, stripped, ends, dashed]

/-- The line end behind a body is not mistaken for a delimiter. -/
theorem Boundary.not_isDelimiter_blank : isDelimiter b.kept ([] ++ crlf) = false := by
  have stripped : Text.trimEndDashes (Text.trimEnd ([] ++ crlf)) = [] := by decide
  simp only [isDelimiter, stripped, List.suffix_nil, b.kept_ne_nil, decide_false, Bool.false_and]

theorem Boundary.delimiter_oneLine : '\n' ∉ b.delimiter := by
  simp [delimiter, dashes, b.oneLine.1]

theorem skipToDelimiter_delimiter (rest : Bytes) (failure : Option String) :
    skipToDelimiter b.kept ⟨line b.delimiter ++ rest, failure⟩ = .ok (true, ⟨rest, failure⟩) := by
  rw [skipToDelimiter_of_line (readLineOpt_line rest failure b.delimiter_oneLine),
    if_pos b.isDelimiter_delimiter]

theorem skipToDelimiter_blank (rest : Bytes) (failure : Option String) :
    skipToDelimiter b.kept ⟨line [] ++ rest, failure⟩ =
      skipToDelimiter b.kept ⟨rest, failure⟩ := by
  rw [skipToDelimiter_of_line (readLineOpt_line rest failure (by simp)),
    b.not_isDelimiter_blank]
  rfl

end Boundary

/-! ### The response header -/

section Response

variable (response : Response)

theorem Response.announced_ne_nil : response.announced ≠ [] := by
  unfold announced
  split
  · simp [dashes]
  · exact response.boundary.nonempty

theorem Response.mem_announced {c : Char} (inside : c ∈ response.announced) :
    c = '-' ∨ c ∈ response.boundary.text := by
  unfold announced at inside
  split at inside
  · simp only [dashes, List.cons_append, List.nil_append, List.mem_cons] at inside
    tauto
  · exact .inr inside

theorem Response.announced_solidEnd (c : Char) (last : response.announced.getLast? = some c) :
    ¬ Text.isWhitespace c := by
  unfold announced at last
  split at last
  · rw [List.getLast?_append_of_ne_nil _ response.boundary.nonempty] at last
    exact response.boundary.solidEnd c last
  · exact response.boundary.solidEnd c last

theorem Response.trimStartDashes_announced :
    Text.trimStartDashes response.announced = response.boundary.kept := by
  unfold announced
  split
  · exact Text.trimStartDashes_dashes response.boundary.text
  · rfl

def mediaType : Text := "multipart/x-mixed-replace".toList

theorem boundaryParameter_announced :
    boundaryParameter (mediaType ++ ';' :: ' ' :: boundaryKey ++ response.announced) =
      some response.announced := by
  have semicolon : ';' ∉ ' ' :: boundaryKey ++ response.announced := by
    intro inside
    simp only [List.cons_append, List.mem_cons, List.mem_append] at inside
    rcases inside with inside | inside | inside
    · exact absurd inside (by decide)
    · exact absurd inside (by decide)
    · rcases response.mem_announced inside with dash | inside
      · exact absurd dash (by decide)
      · exact response.boundary.unquoted.1 inside
  have quote : '"' ∉ response.announced := by
    intro inside
    rcases response.mem_announced inside with dash | inside
    · exact absurd dash (by decide)
    · exact response.boundary.unquoted.2 inside
  have parts : Text.splitOn ';' (mediaType ++ ';' :: ' ' :: boundaryKey ++ response.announced) =
      [mediaType, ' ' :: boundaryKey ++ response.announced] := by
    have shape : mediaType ++ ';' :: ' ' :: boundaryKey ++ response.announced =
        mediaType ++ ';' :: (' ' :: boundaryKey ++ response.announced) := by simp
    rw [shape, Text.splitOn_append (by decide), Text.splitOn_of_absent semicolon]
  have first : Text.stripPrefix boundaryKey (Text.trim mediaType) = none := by decide
  have start : ∀ c, (boundaryKey ++ response.announced).head? = some c →
      ¬ Text.isWhitespace c := by
    rintro c ⟨rfl⟩
    decide
  have finish : ∀ c, (boundaryKey ++ response.announced).getLast? = some c →
      ¬ Text.isWhitespace c := by
    intro c last
    rw [List.getLast?_append_of_ne_nil _ response.announced_ne_nil] at last
    exact response.announced_solidEnd c last
  have nonempty : boundaryKey ++ response.announced ≠ [] := by
    simp [response.announced_ne_nil]
  have second : Text.trim (' ' :: boundaryKey ++ response.announced) =
      boundaryKey ++ response.announced := by
    have := Text.trim_between [' '] [] nonempty start finish trim_space (by simp)
    rwa [List.append_nil] at this
  simp only [boundaryParameter, parts, List.findSome?, first, second, Option.map_none,
    Text.stripPrefix_append, Option.map_some, Text.trimMatches_eq_self quote]

theorem contentTypeLine_spelled (announced : Text) :
    contentTypeLine announced = "Content-Type".toList ++ ':' ::
      ([' '] ++ (mediaType ++ ';' :: ' ' :: boundaryKey ++ announced)) := by
  have start : "Content-Type: multipart/x-mixed-replace; boundary=".toList =
      "Content-Type".toList ++ ':' :: ' ' :: (mediaType ++ ';' :: ' ' :: boundaryKey) := by
    decide
  exact (congrArg (· ++ announced) start).trans (List.append_assoc ..)

theorem readUpstreamBoundary_response (rest : Bytes) (failure : Option String) :
    readUpstreamBoundary ⟨response.bytes ++ rest, failure⟩ =
      .ok (response.boundary.kept, ⟨rest, failure⟩) := by
  have shape : response.bytes ++ rest =
      headerLines response.before ++ (line (contentTypeLine response.announced) ++
        (headerLines response.after ++ (line [] ++ rest))) := by
    simp only [Response.bytes, List.append_assoc]
  have spelled := contentTypeLine_spelled response.announced
  have oneLine : '\n' ∉ contentTypeLine response.announced := by
    intro inside
    rcases List.mem_append.mp inside with inside | inside
    · exact absurd inside (by decide)
    · rcases response.mem_announced inside with dash | inside
      · exact absurd dash (by decide)
      · exact response.boundary.oneLine.1 inside
  have start : ∀ c, (mediaType ++ ';' :: ' ' :: boundaryKey ++ response.announced).head? =
      some c → ¬ Text.isWhitespace c := by
    rintro c ⟨rfl⟩
    decide
  have finish : ∀ c, (mediaType ++ ';' :: ' ' :: boundaryKey ++ response.announced).getLast? =
      some c → ¬ Text.isWhitespace c := by
    intro c last
    rw [List.getLast?_append_of_ne_nil _ response.announced_ne_nil] at last
    exact response.announced_solidEnd c last
  have value := Text.trim_between [' '] crlf (by simp) start finish
    trim_space trim_crlf
  have headers : readHeaders contentTypeName none ⟨response.bytes ++ rest, failure⟩ =
      .ok (some (some (mediaType ++ ';' :: ' ' :: boundaryKey ++ response.announced)),
        ⟨rest, failure⟩) := by
    rw [shape, readHeaders_others, spelled,
      readHeaders_named none _ failure (spelled ▸ oneLine) (by decide) (by decide), value,
      readHeaders_others, readHeaders_blank]
  simp only [readUpstreamBoundary, headers, boundaryParameter_announced,
    response.trimStartDashes_announced]

end Response

/-! ### Parts -/

section Part

variable (b : Boundary) (part : Part)

theorem digits_oneLine (n : Nat) : '\n' ∉ Nat.toDigits 10 n := fun inside =>
  absurd (Nat.isDigit_of_mem_toDigits (by decide) (by decide) inside) (by decide)

theorem trim_digits (n : Nat) : Text.trim (' ' :: Nat.toDigits 10 n ++ crlf) =
    Nat.toDigits 10 n := by
  have solid : ∀ c ∈ Nat.toDigits 10 n, ¬ Text.isWhitespace c := by
    intro c inside space
    have digit := Nat.isDigit_of_mem_toDigits (by decide) (by decide) inside
    simp only [Char.isDigit, Bool.and_eq_true, decide_eq_true_eq, ge_iff_le, UInt32.le_iff_toNat_le]
      at digit
    simp only [Text.isWhitespace, Bool.or_eq_true, Bool.and_eq_true, decide_eq_true_eq,
      Char.toNat] at space
    have : 48 ≤ c.val.toNat ∧ c.val.toNat ≤ 57 := digit
    omega
  have := Text.trim_between [' '] crlf (Nat.toDigits_ne_nil (n := n) (b := 10))
    (fun c first => solid c (List.mem_of_mem_head? first))
    (fun c last => solid c (List.mem_of_getLast? last)) trim_space trim_crlf
  exact this

theorem contentLengthLine_spelled (length : Nat) :
    contentLengthLine length = "Content-Length".toList ++ ':' :: ' ' :: Nat.toDigits 10 length := by
  have start : "Content-Length: ".toList = "Content-Length".toList ++ [':', ' '] := by decide
  exact (congrArg (· ++ Nat.toDigits 10 length) start).trans (List.append_assoc ..)

/-- The header of a part is read to the end, and its length is the body's. -/
theorem readHeaders_part (rest : Bytes) (failure : Option String) :
    readHeaders contentLengthName none
      ⟨headerLines part.before ++ (line (contentLengthLine part.frame.length) ++
        (headerLines part.after ++ (line [] ++ rest))), failure⟩ =
      .ok (some (some (Nat.toDigits 10 part.frame.length)), ⟨rest, failure⟩) := by
  have spelled := contentLengthLine_spelled part.frame.length
  have oneLine : '\n' ∉ contentLengthLine part.frame.length := by
    intro inside
    rcases List.mem_append.mp inside with inside | inside
    · exact absurd inside (by decide)
    · exact digits_oneLine _ inside
  rw [readHeaders_others, spelled,
    readHeaders_named none _ failure (spelled ▸ oneLine) (by decide) (by decide), trim_digits,
    readHeaders_others, readHeaders_blank]

/-- Behind the head of a part the body is read by count. -/
theorem readFrame_head (rest : Bytes) (failure : Option String) :
    readFrame b.kept ⟨part.head b ++ rest, failure⟩ =
      readExact part.frame.length ⟨rest, failure⟩ := by
  have shape : part.head b ++ rest =
      line b.delimiter ++ (headerLines part.before ++
        (line (contentLengthLine part.frame.length) ++
          (headerLines part.after ++ (line [] ++ rest)))) := by
    simp only [Part.head, List.append_assoc]
  have parsed : Text.parseUsize (Nat.toDigits 10 part.frame.length) = some part.frame.length :=
    Text.parseUsize_toDigits (part.small.trans_lt (by decide))
  simp only [readFrame, shape, skipToDelimiter_delimiter, readHeaders_part, Option.bind_some, parsed,
    readBody, Nat.not_lt.mpr part.small, if_false]

theorem readFrame_blank (rest : Bytes) (failure : Option String) :
    readFrame b.kept ⟨line [] ++ rest, failure⟩ = readFrame b.kept ⟨rest, failure⟩ := by
  simp only [readFrame, skipToDelimiter_blank]

/-- One part is read whole, and the reader stands at the line end behind its body. -/
theorem readFrame_part (rest : Bytes) (failure : Option String) :
    readFrame b.kept ⟨part.bytes b ++ rest, failure⟩ =
      .ok (some part.frame, ⟨line [] ++ rest, failure⟩) := by
  have shape : part.bytes b ++ rest = part.head b ++ (part.frame ++ (line [] ++ rest)) := by
    simp only [Part.bytes, List.append_assoc]
  rw [shape, readFrame_head, readExact, if_pos (by simp)]
  simp

/-- A single line is at most a delimiter with no part behind it. -/
theorem readFrame_lastLine {s : Text} (oneLine : '\n' ∉ s) :
    ∃ rest, readFrame b.kept ⟨line s, none⟩ = .ok (none, rest) := by
  have consumed := readLineOpt_line [] none oneLine
  rw [List.append_nil] at consumed
  have ended : readLineOpt ⟨[], none⟩ = .ok (none, ⟨[], none⟩) := rfl
  have noHeader : readHeaders contentLengthName none ⟨[], none⟩ = .ok (none, ⟨[], none⟩) := by
    rw [readHeaders]
    split <;> simp_all
  have noDelimiter : skipToDelimiter b.kept ⟨[], none⟩ = .ok (false, ⟨[], none⟩) := by
    rw [skipToDelimiter]
    split <;> simp_all
  refine ⟨⟨[], none⟩, ?_⟩
  cases delimiter : isDelimiter b.kept (s ++ crlf) <;>
    simp [readFrame, skipToDelimiter_of_line consumed, delimiter, noHeader, noDelimiter]

/-- Whatever way the stream ends, no frame is read from the end. -/
theorem readFrame_tail (tail : Tail) :
    ∃ rest, readFrame b.kept ⟨tail.bytes b, none⟩ = .ok (none, rest) := by
  cases tail with
  | ended =>
      refine ⟨⟨[], none⟩, ?_⟩
      have noDelimiter : skipToDelimiter b.kept ⟨[], none⟩ = .ok (false, ⟨[], none⟩) := by
        rw [skipToDelimiter]
        split <;> simp_all [readLineOpt, splitLine]
      simp [readFrame, Tail.bytes, noDelimiter]
  | closed =>
      have oneLine : '\n' ∉ b.delimiter ++ dashes := by
        simp [dashes, b.delimiter_oneLine]
      exact readFrame_lastLine b oneLine
  | cut part kept short =>
      refine ⟨⟨[], none⟩, ?_⟩
      have missing : ¬ part.frame.length ≤ (part.frame.take kept).length := by
        simp only [List.length_take]
        omega
      rw [Tail.bytes, readFrame_head, readExact, if_neg missing]

end Part

/-! ### The pump -/

section Pump

variable {boundary : Text} {stop : Nat → Bool} {i : Nat} {reader rest : Reader}

theorem pumpLoop_frame {frame : Bytes} (calm : stop i = false)
    (read : readFrame boundary reader = .ok (some frame, rest)) :
    pumpLoop boundary stop i reader = (pumpLoop boundary stop (i + 1) rest).publish frame := by
  rw [pumpLoop]
  simp only [calm, Bool.false_eq_true, if_false]
  split <;> simp_all

theorem pumpLoop_ended (calm : stop i = false)
    (read : readFrame boundary reader = .ok (none, rest)) :
    pumpLoop boundary stop i reader = ⟨[], none, true⟩ := by
  rw [pumpLoop]
  simp only [calm, Bool.false_eq_true, if_false]
  split <;> simp_all

end Pump

/-- Between two parts the reader stands before a delimiter line or before the
    line end of the body it has just read. -/
theorem pumpLoop_parts (b : Boundary) (parts : List Part) (tail : Tail) (stop : Nat → Bool)
    (i : Nat) (lead : Bytes) (atLineEnd : lead = [] ∨ lead = line [])
    (calm : ∀ j ≤ parts.length, stop (i + j) = false) :
    pumpLoop b.kept stop i ⟨lead ++ (parts.flatMap (Part.bytes b) ++ tail.bytes b), none⟩ =
      ⟨parts.map Part.frame, none, true⟩ := by
  have skipLead : ∀ rest, readFrame b.kept ⟨lead ++ rest, none⟩ = readFrame b.kept ⟨rest, none⟩ := by
    intro rest
    rcases atLineEnd with rfl | rfl
    · rfl
    · exact readFrame_blank b rest none
  induction parts generalizing i lead with
  | nil =>
      obtain ⟨rest, ended⟩ := readFrame_tail b tail
      exact pumpLoop_ended (calm 0 (Nat.zero_le _)) ((skipLead _).trans ended)
  | cons part parts ih =>
      have shape : (part :: parts).flatMap (Part.bytes b) ++ tail.bytes b =
          part.bytes b ++ (parts.flatMap (Part.bytes b) ++ tail.bytes b) := by simp
      have read := readFrame_part b part (parts.flatMap (Part.bytes b) ++ tail.bytes b) none
      have later : ∀ j ≤ parts.length, stop (i + 1 + j) = false := by
        intro j within
        have := calm (j + 1) (Nat.succ_le_succ within)
        rwa [Nat.add_right_comm, Nat.add_assoc]
      have now : stop i = false := calm 0 (Nat.zero_le _)
      rw [shape, pumpLoop_frame now ((skipLead _).trans read),
        ih (i + 1) (line []) (.inr rfl) later fun rest => readFrame_blank b rest none]
      rfl

/-- The pump takes a rendered stream apart again. -/
theorem pumpUpstream_render (response : Response) (parts : List Part) (tail : Tail)
    (stop : Nat → Bool) (calm : ∀ i ≤ parts.length, stop i = false) :
    pumpUpstream (.ok ()) stop
        ⟨response.bytes ++ (parts.flatMap (Part.bytes response.boundary) ++
          tail.bytes response.boundary), none⟩ =
      ⟨parts.map Part.frame, none, true⟩ := by
  simp only [pumpUpstream, readUpstreamBoundary_response]
  have calm' : ∀ j ≤ parts.length, stop (0 + j) = false := by simpa using calm
  exact pumpLoop_parts response.boundary parts tail stop 0 [] (.inl rfl) calm'

/-- The boundary WDA announces, less its dashes. -/
def deviceBoundary : Boundary where
  text := "BoundaryString".toList
  nonempty := by decide
  oneLine := by decide
  unquoted := by decide
  solidEnd := by
    rintro c ⟨rfl⟩
    decide
  openEnd := by decide

/-- WDA's response header. -/
def deviceResponse : Response where
  boundary := deviceBoundary
  dashed := true
  before := [{
    text := "HTTP/1.0 200 OK".toList
    oneLine := by decide
    notBlank := ⟨'H', by decide, by decide⟩
    other := by
      intro key value shape _
      have : ':' ∈ "HTTP/1.0 200 OK".toList := by simp only [shape]; simp
      exact absurd this (by decide) }]
  after := []

/-- A frame that looks like a delimiter line, and one of which a byte is missing. -/
theorem pumpUpstream_render_device :
    pumpUpstream (.ok ()) (fun i => decide (1 < i))
        ⟨deviceResponse.bytes ++
          ([⟨line deviceBoundary.delimiter, by decide, [], []⟩].flatMap (Part.bytes deviceBoundary) ++
            (Tail.cut ⟨[0xff, 0xd8], by decide, [], []⟩ 1 (by decide)).bytes deviceBoundary), none⟩ =
      ⟨[line deviceBoundary.delimiter], none, true⟩ :=
  pumpUpstream_render deviceResponse [⟨line deviceBoundary.delimiter, by decide, [], []⟩]
    (.cut ⟨[0xff, 0xd8], by decide, [], []⟩ 1 (by decide)) (fun i => decide (1 < i)) (by decide)

end QuadControl.Ios.Mjpeg
