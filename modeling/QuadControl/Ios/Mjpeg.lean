import QuadControl.Lib.Utf8

/-! # The MJPEG upstream pump

`pump_upstream` asks the device for its MJPEG stream, takes the multipart
boundary from the response header and cuts the body into frames. A part that
announces its length is read by count; any other is scanned byte by byte up to
the next boundary. The socket is a reader: the bytes still to come and how they
end.
-/

namespace QuadControl.Ios.Mjpeg

open Lib Lib.Utf8
open Lib.Text (dashes)

/-- What is still to be read. After the bytes comes the end of the stream, or
    the error the socket reports. -/
structure Reader where
  bytes : Bytes
  failure : Option String
  deriving Repr, DecidableEq

def maxFrameBytes : Nat := 4 * 1024 * 1024

def lineFeed : UInt8 := 10

def carriageReturn : UInt8 := 13

def contentTypeName : Text := "content-type".toList

def contentLengthName : Text := "content-length".toList

def boundaryKey : Text := "boundary=".toList

def upstreamReadFailed (error : String) : String := "MJPEG upstream read failed: " ++ error

/-- The bytes up to the first line feed, it included, and those behind it. -/
def splitLine : Bytes → Option (Bytes × Bytes)
  | [] => none
  | b :: rest =>
      if b = lineFeed then some ([b], rest)
      else (splitLine rest).map fun (line, after) => (b :: line, after)

/-- The string a line is appended to must stay UTF-8. -/
def decodeLine (line : Bytes) : Except String Text :=
  match decode? line with
  | some text => .ok text
  | none => .error (upstreamReadFailed "stream did not contain valid UTF-8")

/-- `read_line_opt`: a line with its line feed, what is left at the end of the
    stream, or `none` when nothing is. -/
def readLineOpt (reader : Reader) : Except String (Option Text × Reader) :=
  match splitLine reader.bytes, reader.failure with
  | some (line, rest), failure => (decodeLine line).map fun text => (some text, ⟨rest, failure⟩)
  | none, some error => .error (upstreamReadFailed error)
  | none, none =>
      if reader.bytes = [] then .ok (none, reader)
      else (decodeLine reader.bytes).map fun text => (some text, ⟨[], none⟩)

theorem splitLine_eq_some {bytes line rest : Bytes} (h : splitLine bytes = some (line, rest)) :
    ∃ body, line = body ++ [lineFeed] ∧ bytes = body ++ lineFeed :: rest ∧ lineFeed ∉ body := by
  induction bytes generalizing line with
  | nil => simp [splitLine] at h
  | cons b bytes ih =>
      by_cases here : b = lineFeed
      · simp only [splitLine, here, if_true, Option.some.injEq, Prod.mk.injEq] at h
        obtain ⟨rfl, rfl⟩ := h
        exact ⟨[], rfl, by simp [here], by simp⟩
      · simp only [splitLine, here, if_false, Option.map_eq_some_iff, Prod.mk.injEq,
          Prod.exists] at h
        obtain ⟨line', rest', split, rfl, rfl⟩ := h
        obtain ⟨body, rfl, rfl, fresh⟩ := ih split
        exact ⟨b :: body, rfl, rfl, by simp [fresh, Ne.symm here]⟩

theorem splitLine_append {body : Bytes} (rest : Bytes) (fresh : lineFeed ∉ body) :
    splitLine (body ++ lineFeed :: rest) = some (body ++ [lineFeed], rest) := by
  induction body with
  | nil => simp [splitLine]
  | cons b body ih =>
      simp only [List.mem_cons, not_or] at fresh
      simp [splitLine, Ne.symm fresh.1, ih fresh.2]

theorem splitLine_eq_none {bytes : Bytes} : splitLine bytes = none ↔ lineFeed ∉ bytes := by
  induction bytes with
  | nil => simp [splitLine]
  | cons b bytes ih =>
      by_cases here : b = lineFeed
      · simp [splitLine, here]
      · simp [splitLine, here, Ne.symm here, ih]

theorem decodeLine_some {bytes : Bytes} {line : Text} {after rest : Reader}
    (h : (decodeLine bytes).map (fun text => (some text, after)) = .ok (some line, rest)) :
    bytes = encode line ∧ after = rest := by
  unfold decodeLine at h
  split at h
  · rename_i text decoding
    simp only [Except.map, Except.ok.injEq, Prod.mk.injEq, Option.some.injEq] at h
    obtain ⟨rfl, rfl⟩ := h
    exact ⟨encode_of_decode decoding, rfl⟩
  · simp [Except.map] at h

/-- A line that is read ends in a line feed, or is what the stream ends with. -/
theorem readLineOpt_cases {reader rest : Reader} {line : Text}
    (h : readLineOpt reader = .ok (some line, rest)) :
    reader.bytes = encode line ++ rest.bytes ∧
      ((∃ text, line = text ++ ['\n']) ∨ rest.bytes = [] ∧ line ≠ []) := by
  unfold readLineOpt at h
  split at h
  · rename_i bytes after split
    obtain ⟨body, rfl, whole, -⟩ := splitLine_eq_some split
    obtain ⟨spelled, rfl⟩ := decodeLine_some h
    have ending : encode line = body ++ [byte '\n'] := spelled.symm
    obtain ⟨text, named, -⟩ := eq_append_of_encode (by decide) ending
    exact ⟨by simp [whole, ← spelled], .inl ⟨text, named⟩⟩
  · cases h
  · split at h
    · simp at h
    · rename_i nonempty
      obtain ⟨spelled, rfl⟩ := decodeLine_some h
      exact ⟨by simp [spelled], .inr ⟨rfl, fun empty => nonempty (by simp [spelled, empty])⟩⟩

/-- A line read is the front of the stream, in UTF-8, and never empty. -/
theorem readLineOpt_some {reader rest : Reader} {line : Text}
    (h : readLineOpt reader = .ok (some line, rest)) :
    reader.bytes = encode line ++ rest.bytes ∧ line ≠ [] := by
  obtain ⟨shape, ⟨text, rfl⟩ | ⟨-, nonempty⟩⟩ := readLineOpt_cases h
  · exact ⟨shape, by simp⟩
  · exact ⟨shape, nonempty⟩

theorem readLineOpt_lt {reader rest : Reader} {line : Text}
    (h : readLineOpt reader = .ok (some line, rest)) : rest.bytes.length < reader.bytes.length := by
  obtain ⟨shape, nonempty⟩ := readLineOpt_some h
  have := List.length_pos_iff.mpr nonempty
  have := length_le_encode line
  simp only [shape, List.length_append]
  omega

/-- A line that is not the last one read ends in a line feed. -/
theorem readLineOpt_terminated {reader rest : Reader} {line : Text}
    (h : readLineOpt reader = .ok (some line, rest)) (more : rest.bytes ≠ []) :
    ∃ text, line = text ++ ['\n'] :=
  (readLineOpt_cases h).2.resolve_right fun last => more last.1

theorem readLineOpt_none {reader rest : Reader} (h : readLineOpt reader = .ok (none, rest)) :
    rest = reader := by
  unfold readLineOpt at h
  split at h
  · simp only [Except.map] at h
    split at h <;> simp at h
  · cases h
  · split at h
    · simp only [Except.ok.injEq, Prod.mk.injEq] at h
      exact h.2.symm
    · simp only [Except.map] at h
      split at h <;> simp at h

/-- The value a header line gives to `name`, when it is such a line. -/
def headerValue (name line : Text) : Option Text :=
  match Text.splitOnce ':' line with
  | some (key, value) =>
      if Text.eqIgnoreAsciiCase (Text.trim key) name then some (Text.trim value) else none
  | none => none

/-- The header loop of both readers: lines up to a blank one, of which the last
    that names `name` counts. `none` when the stream ends before the blank line. -/
def readHeaders (name : Text) (found : Option Text) (reader : Reader) :
    Except String (Option (Option Text) × Reader) :=
  match _ : readLineOpt reader with
  | .error reason => .error reason
  | .ok (none, rest) => .ok (none, rest)
  | .ok (some line, rest) =>
      if Text.trim line = [] then .ok (some found, rest)
      else readHeaders name ((headerValue name line).or found) rest
termination_by reader.bytes.length
decreasing_by exact readLineOpt_lt ‹_›

/-- The boundary parameter of a content type: the first `boundary=` between semicolons. -/
def boundaryParameter (contentType : Text) : Option Text :=
  (Text.splitOn ';' contentType).findSome? fun part =>
    (Text.stripPrefix boundaryKey (Text.trim part)).map (Text.trimMatches '"')

/-- `read_upstream_boundary`: the boundary without its leading dashes. -/
def readUpstreamBoundary (reader : Reader) : Except String (Text × Reader) :=
  match readHeaders contentTypeName none reader with
  | .error reason => .error reason
  | .ok (none, _) => .error "MJPEG upstream closed while reading headers"
  | .ok (some none, _) => .error "MJPEG upstream sent no Content-Type"
  | .ok (some (some contentType), rest) =>
      match boundaryParameter contentType with
      | none => .error
          ("MJPEG upstream Content-Type has no boundary: " ++ String.ofList contentType)
      | some boundary => .ok (Text.trimStartDashes boundary, rest)

/-- The test by which a line counts as the delimiter of a part. -/
def isDelimiter (boundary line : Text) : Bool :=
  boundary <:+ Text.trimEndDashes (Text.trimEnd line) && dashes <:+: line

/-- Reads lines up to a delimiter; false when the stream ends first. -/
def skipToDelimiter (boundary : Text) (reader : Reader) : Except String (Bool × Reader) :=
  match _ : readLineOpt reader with
  | .error reason => .error reason
  | .ok (none, rest) => .ok (false, rest)
  | .ok (some line, rest) =>
      if isDelimiter boundary line then .ok (true, rest)
      else skipToDelimiter boundary rest
termination_by reader.bytes.length
decreasing_by exact readLineOpt_lt ‹_›

/-- A body of announced length. One that the stream cuts short is no frame. -/
def readExact (length : Nat) (reader : Reader) : Except String (Option Bytes × Reader) :=
  if length ≤ reader.bytes.length then
    .ok (some (reader.bytes.take length), { reader with bytes := reader.bytes.drop length })
  else
    match reader.failure with
    | some error => .error (upstreamReadFailed error)
    | none => .ok (none, ⟨[], none⟩)

def isLineEnd (b : UInt8) : Bool := b = carriageReturn || b = lineFeed

/-- The loop of `scan_to_boundary`, with the bytes gathered so far in `frame`. -/
def scanFrom (needle : Bytes) (failure : Option String) (frame : Bytes) :
    Bytes → Except String (Option Bytes × Reader)
  | [] =>
      match failure with
      | some error => .error (upstreamReadFailed error)
      | none => .ok (if frame = [] then none else some frame, ⟨[], none⟩)
  | b :: rest =>
      let frame := frame ++ [b]
      if frame.length > maxFrameBytes then
        .error s!"MJPEG frame exceeded the {maxFrameBytes} byte limit with no boundary in sight"
      else if needle <:+ frame then
        -- The delimiter is consumed here, its line feed is not.
        .ok (some ((frame.take (frame.length - needle.length)).rdropWhile isLineEnd),
          ⟨rest, failure⟩)
      else scanFrom needle failure frame rest

/-- `scan_to_boundary`. -/
def scanToBoundary (boundary : Text) (reader : Reader) : Except String (Option Bytes × Reader) :=
  scanFrom (encode (dashes ++ boundary)) reader.failure [] reader.bytes

/-- What `read_frame` does behind the part's header. -/
def readBody (boundary : Text) (length : Option Nat) (reader : Reader) :
    Except String (Option Bytes × Reader) :=
  match length with
  | some length =>
      if length > maxFrameBytes then
        .error s!"MJPEG frame of {length} bytes exceeds the {maxFrameBytes} byte limit"
      else readExact length reader
  | none => scanToBoundary boundary reader

/-- `read_frame`: the next frame, or `none` at the end of the stream. A length
    that does not parse counts as no length. -/
def readFrame (boundary : Text) (reader : Reader) : Except String (Option Bytes × Reader) :=
  match skipToDelimiter boundary reader with
  | .error reason => .error reason
  | .ok (false, rest) => .ok (none, rest)
  | .ok (true, rest) =>
      match readHeaders contentLengthName none rest with
      | .error reason => .error reason
      | .ok (none, rest) => .ok (none, rest)
      | .ok (some value, rest) => readBody boundary (value.bind Text.parseUsize) rest

theorem readHeaders_suffix {name : Text} {found : Option Text} {reader rest : Reader}
    {value : Option (Option Text)} (h : readHeaders name found reader = .ok (value, rest)) :
    rest.bytes <:+ reader.bytes := by
  fun_induction readHeaders name found reader with
  | case1 => cases h
  | case2 found reader rest' ended =>
      obtain ⟨-, rfl⟩ := Prod.mk.injEq .. ▸ Except.ok.inj h
      rw [readLineOpt_none ended]
  | case3 found reader line rest' consumed blank =>
      obtain ⟨-, rfl⟩ := Prod.mk.injEq .. ▸ Except.ok.inj h
      exact ⟨_, (readLineOpt_some consumed).1.symm⟩
  | case4 found reader line rest' consumed _ ih =>
      exact (ih h).trans ⟨_, (readLineOpt_some consumed).1.symm⟩

/-- A delimiter found is a line of the stream, with what is read next behind it. -/
theorem skipToDelimiter_found {boundary : Text} {reader rest : Reader}
    (h : skipToDelimiter boundary reader = .ok (true, rest)) :
    ∃ line, isDelimiter boundary line = true ∧ line ≠ [] ∧
      (rest.bytes ≠ [] → ∃ text, line = text ++ ['\n']) ∧
      encode line ++ rest.bytes <:+ reader.bytes := by
  fun_induction skipToDelimiter boundary reader with
  | case1 => cases h
  | case2 => simp at h
  | case3 reader line rest' consumed delimiter =>
      obtain ⟨-, rfl⟩ := Prod.mk.injEq .. ▸ Except.ok.inj h
      obtain ⟨shape, nonempty⟩ := readLineOpt_some consumed
      exact ⟨line, delimiter, nonempty, readLineOpt_terminated consumed, by rw [shape]⟩
  | case4 reader line rest' consumed _ ih =>
      obtain ⟨found, delimiter, nonempty, terminated, suffix⟩ := ih h
      exact ⟨found, delimiter, nonempty, terminated,
        suffix.trans ⟨_, (readLineOpt_some consumed).1.symm⟩⟩

theorem scanFrom_suffix {needle frame bytes : Bytes} {failure : Option String}
    {result : Option Bytes} {rest : Reader}
    (h : scanFrom needle failure frame bytes = .ok (result, rest)) : rest.bytes <:+ bytes := by
  induction bytes generalizing frame with
  | nil =>
      cases failure with
      | some error => cases h
      | none =>
          simp only [scanFrom, Except.ok.injEq, Prod.mk.injEq] at h
          simp [← h.2]
  | cons b bytes ih =>
      simp only [scanFrom] at h
      split at h
      · cases h
      · split at h
        · simp only [Except.ok.injEq, Prod.mk.injEq] at h
          simp [← h.2]
        · exact (ih h).trans (List.suffix_cons _ _)

theorem readBody_suffix {boundary : Text} {length : Option Nat} {reader rest : Reader}
    {result : Option Bytes} (h : readBody boundary length reader = .ok (result, rest)) :
    rest.bytes <:+ reader.bytes := by
  cases length with
  | none => exact scanFrom_suffix h
  | some length =>
      simp only [readBody, readExact] at h
      split at h
      · cases h
      · split at h
        · simp only [Except.ok.injEq, Prod.mk.injEq] at h
          simp [← h.2, List.drop_suffix]
        · split at h
          · cases h
          · simp only [Except.ok.injEq, Prod.mk.injEq] at h
            simp [← h.2]

/-- How a frame comes about: a delimiter line, a header, a body. -/
theorem readFrame_some {boundary : Text} {reader rest : Reader} {frame : Bytes}
    (h : readFrame boundary reader = .ok (some frame, rest)) :
    ∃ line behind value body, isDelimiter boundary line = true ∧ line ≠ [] ∧
      (behind.bytes ≠ [] → ∃ text, line = text ++ ['\n']) ∧
      encode line ++ behind.bytes <:+ reader.bytes ∧
      readHeaders contentLengthName none behind = .ok (some value, body) ∧
      readBody boundary (value.bind Text.parseUsize) body = .ok (some frame, rest) := by
  unfold readFrame at h
  split at h
  · cases h
  · simp at h
  · rename_i behind skipped
    obtain ⟨line, delimiter, nonempty, terminated, suffix⟩ := skipToDelimiter_found skipped
    split at h
    · cases h
    · simp at h
    · rename_i value body headers
      exact ⟨line, behind, value, body, delimiter, nonempty, terminated, suffix, headers, h⟩

theorem readFrame_suffix {boundary : Text} {reader rest : Reader} {frame : Bytes}
    (h : readFrame boundary reader = .ok (some frame, rest)) :
    rest.bytes <:+ reader.bytes ∧ rest.bytes.length < reader.bytes.length := by
  obtain ⟨line, behind, value, body, -, nonempty, -, suffix, headers, read⟩ := readFrame_some h
  have tail : rest.bytes <:+ behind.bytes := (readBody_suffix read).trans (readHeaders_suffix headers)
  refine ⟨tail.trans ((List.suffix_append _ _).trans suffix), ?_⟩
  have := List.length_pos_iff.mpr nonempty
  have := length_le_encode line
  have := suffix.length_le
  have := tail.length_le
  simp only [List.length_append] at *
  omega

/-- What the pump leaves behind: the frames in the order of their publication,
    the failure it recorded, and the stop flag. -/
structure Outcome where
  published : List Bytes
  failure : Option String
  stopping : Bool
  deriving Repr, DecidableEq

def Outcome.publish (frame : Bytes) (outcome : Outcome) : Outcome :=
  { outcome with published := frame :: outcome.published }

/-- The loop of `pump_upstream`. `stop i` says whether the stop flag was up when
    it was looked at for the `i`-th time. -/
def pumpLoop (boundary : Text) (stop : Nat → Bool) (i : Nat) (reader : Reader) : Outcome :=
  if stop i then ⟨[], none, true⟩
  else
    match _ : readFrame boundary reader with
    | .ok (some frame, rest) => (pumpLoop boundary stop (i + 1) rest).publish frame
    | .ok (none, _) => ⟨[], none, true⟩
    | .error reason => ⟨[], some reason, true⟩
termination_by reader.bytes.length
decreasing_by exact (readFrame_suffix ‹_›).2

/-- `pump_upstream`. `request` is what became of the request the stream waits for. -/
def pumpUpstream (request : Except String Unit) (stop : Nat → Bool) (upstream : Reader) :
    Outcome :=
  match request with
  | .error reason => ⟨[], some reason, true⟩
  | .ok () =>
      match readUpstreamBoundary upstream with
      | .error reason => ⟨[], some reason, true⟩
      | .ok (boundary, rest) => pumpLoop boundary stop 0 rest

end QuadControl.Ios.Mjpeg
