import QuadControl.Ios.MjpegRendering

/-! # Parts without a length

The scan for the next boundary consumes the boundary's name, and the loop behind
it looks for a delimiter line again: the part whose delimiter was consumed is
lost. This module renders the same frames with and without their lengths and
says for which lists the pump publishes the same.
-/

namespace QuadControl.Ios.Mjpeg

open Lib Lib.Utf8
open Lib.Text (dashes)

/-- A frame that a reader without lengths can be expected to find the end of. -/
structure PlainFrame (b : Boundary) where
  bytes : Bytes
  small : bytes.length ≤ maxFrameBytes
  noBoundary : ¬ encode b.delimiter <:+: bytes
  noLineEnd : ∀ x, bytes.getLast? = some x → ¬ isLineEnd x

def imageTypeLine : Text := "Content-Type: image/jpeg".toList

def imageType : OtherHeader contentLengthName where
  text := imageTypeLine
  oneLine := by decide
  notBlank := ⟨'C', by decide, by decide⟩
  other := by
    intro key value shape colon
    have split : Text.splitOnce ':' imageTypeLine = some (key, value) :=
      Text.splitOnce_eq_some.mpr ⟨shape, colon⟩
    have known : Text.splitOnce ':' imageTypeLine =
        some ("Content-Type".toList, " image/jpeg".toList) := by decide
    rw [known, Option.some.injEq, Prod.mk.injEq] at split
    rw [← split.1]
    decide

def PlainFrame.part {b : Boundary} (frame : PlainFrame b) : Part :=
  ⟨frame.bytes, frame.small, [imageType], []⟩

/-- The part of a frame without its length. -/
def PlainFrame.scanned {b : Boundary} (frame : PlainFrame b) : Bytes :=
  line b.delimiter ++ line imageTypeLine ++ line [] ++ frame.bytes ++ line []

def ending (b : Boundary) (closed : Bool) : Bytes :=
  (if closed then Tail.closed else Tail.ended).bytes b

/-- The body of a stream whose parts have no length. -/
def scannedBody (b : Boundary) (closed : Bool) (frames : List (PlainFrame b)) : Bytes :=
  frames.flatMap PlainFrame.scanned ++ ending b closed

def withoutLengths (response : Response) (closed : Bool)
    (frames : List (PlainFrame response.boundary)) : Reader :=
  ⟨response.bytes ++ scannedBody response.boundary closed frames, none⟩

def withLengths (response : Response) (closed : Bool)
    (frames : List (PlainFrame response.boundary)) : Reader :=
  ⟨response.bytes ++ ((frames.map PlainFrame.part).flatMap (Part.bytes response.boundary) ++
    ending response.boundary closed), none⟩

/-- The lists that survive the scan: none at all, or one frame with a closing
    delimiter behind it, when the boundary is written as the pump keeps it and the
    frame leaves room for the delimiter under the limit. -/
def ScanKeeps (b : Boundary) (closed : Bool) (frames : List (PlainFrame b)) : Prop :=
  frames = [] ∨ closed = true ∧ ¬ dashes <+: b.text ∧
    ∃ frame, frames = [frame] ∧
      frame.bytes.length + (encode b.text).length + 4 ≤ maxFrameBytes

/-! ### The scan -/

section Scan

variable {needle frame bytes : Bytes} {failure : Option String} {rest : Reader}

/-- A scan that ends with a frame has run into the needle or into the end of the stream. -/
theorem scanFrom_some {result : Bytes} (fresh : ¬ needle <:+ frame)
    (h : scanFrom needle failure frame bytes = .ok (some result, rest)) :
    (rest.bytes = [] ∧ result = frame ++ bytes ∧ result ≠ []) ∨
      ∃ p, frame ++ bytes = p ++ needle ++ rest.bytes ∧ result = p.rdropWhile isLineEnd ∧
        p.length + needle.length ≤ maxFrameBytes := by
  induction bytes generalizing frame with
  | nil =>
      cases failure with
      | some error => cases h
      | none =>
          simp only [scanFrom, Except.ok.injEq, Prod.mk.injEq] at h
          obtain ⟨found, rfl⟩ := h
          split at found
          · cases found
          · rename_i nonempty
            obtain rfl := Option.some.inj found
            exact .inl ⟨rfl, (List.append_nil _).symm, nonempty⟩
  | cons b bytes ih =>
      have shape : frame ++ b :: bytes = frame ++ [b] ++ bytes := by simp
      simp only [scanFrom] at h
      split at h
      · cases h
      · rename_i within
        split at h
        · rename_i found
          obtain ⟨p, whole⟩ := found
          simp only [Except.ok.injEq, Prod.mk.injEq, Option.some.injEq] at h
          obtain ⟨rfl, rfl⟩ := h
          have lengths : p.length + needle.length = (frame ++ [b]).length := by
            rw [← whole, List.length_append]
          refine .inr ⟨p, by rw [shape, whole], ?_, by omega⟩
          congr 1
          rw [← whole]
          simp
        · rename_i fresh'
          rw [shape]
          exact ih fresh' h

/-- A needle ahead needs another byte. -/
theorem ne_nil_of_ahead {before behind : Bytes} (shape : frame ++ bytes = before ++ needle ++ behind)
    (ahead : frame.length < (before ++ needle).length) : bytes ≠ [] := by
  rintro rfl
  have := congrArg List.length shape
  simp only [List.length_append, List.length_nil] at this ahead
  omega

/-- A needle that the next byte does not complete is still ahead. -/
theorem ahead_of_fresh {before behind : Bytes} {b : UInt8}
    (shape : frame ++ [b] ++ bytes = before ++ needle ++ behind)
    (ahead : frame.length < (before ++ needle).length) (fresh : ¬ needle <:+ frame ++ [b]) :
    (frame ++ [b]).length < (before ++ needle).length := by
  have within : (frame ++ [b]).length ≤ (before ++ needle).length := by
    simp only [List.length_append, List.length_singleton] at ahead ⊢
    omega
  refine Nat.lt_of_le_of_ne within fun same => fresh ?_
  obtain ⟨whole, -⟩ := List.append_inj shape same
  rw [whole]
  exact List.suffix_append before needle

/-- A needle ahead is not passed: what lies behind it is still to be read. -/
theorem scanFrom_before {before behind : Bytes} {result : Option Bytes}
    (shape : frame ++ bytes = before ++ needle ++ behind)
    (ahead : frame.length < (before ++ needle).length)
    (h : scanFrom needle failure frame bytes = .ok (result, rest)) :
    behind.length ≤ rest.bytes.length := by
  induction bytes generalizing frame with
  | nil => exact absurd rfl (ne_nil_of_ahead shape ahead)
  | cons b bytes ih =>
      have shape' : frame ++ [b] ++ bytes = before ++ needle ++ behind := by simpa using shape
      simp only [scanFrom] at h
      split at h
      · cases h
      · split at h
        · simp only [Except.ok.injEq, Prod.mk.injEq] at h
          rw [← h.2]
          show behind.length ≤ bytes.length
          have total := congrArg List.length shape'
          simp only [List.length_append, List.length_singleton] at total ahead
          omega
        · rename_i fresh
          exact ih shape' (ahead_of_fresh shape' ahead fresh) h

/-- The first needle ends the scan. -/
theorem scanFrom_found {before behind : Bytes}
    (shape : frame ++ bytes = before ++ needle ++ behind)
    (ahead : frame.length < (before ++ needle).length)
    (small : (before ++ needle).length ≤ maxFrameBytes)
    (first : ∀ p, p ++ needle <+: before ++ needle → p = before) :
    scanFrom needle failure frame bytes =
      .ok (some (before.rdropWhile isLineEnd), ⟨behind, failure⟩) := by
  induction bytes generalizing frame with
  | nil => exact absurd rfl (ne_nil_of_ahead shape ahead)
  | cons b bytes ih =>
      have shape' : frame ++ [b] ++ bytes = before ++ needle ++ behind := by simpa using shape
      have within : (frame ++ [b]).length ≤ (before ++ needle).length := by
        simp only [List.length_append, List.length_singleton] at ahead ⊢
        omega
      have inside : frame ++ [b] <+: before ++ needle :=
        List.prefix_of_prefix_length_le ⟨bytes, shape'⟩ (List.prefix_append _ behind) within
      simp only [scanFrom, Nat.not_lt.mpr (within.trans small), if_false]
      split
      · rename_i found
        obtain ⟨p, whole⟩ := found
        obtain rfl := first p (whole ▸ inside)
        have same : bytes = behind := by
          rw [← whole] at shape'
          exact List.append_cancel_left shape'
        rw [← whole, same]
        simp
      · rename_i fresh
        exact ih shape' (ahead_of_fresh shape' ahead fresh)

end Scan

/-! ### What a frame costs -/

theorem trim_length_le (s : Text) : (Text.trim s).length ≤ s.length :=
  ((List.dropWhile_sublist _).length_le).trans (List.rdropWhile_prefix _ _).length_le

theorem headerValue_length {name line value : Text} (h : headerValue name line = some value) :
    name.length + 1 ≤ line.length := by
  unfold headerValue at h
  split at h
  · rename_i key rest split
    obtain ⟨rfl, -⟩ := Text.splitOnce_eq_some.mp split
    split at h
    · rename_i named
      have same := congrArg List.length (of_decide_eq_true named)
      simp only [List.length_map] at same
      have := trim_length_le key
      simp only [List.length_append, List.length_cons]
      omega
    · cases h
  · cases h

/-- A header block takes its blank line, and a line for a value it finds. What
    follows stands behind a line feed. -/
theorem readHeaders_cost {name : Text} {found value : Option Text} {reader rest : Reader}
    (h : readHeaders name found reader = .ok (some value, rest)) :
    rest.bytes.length + 1 ≤ reader.bytes.length ∧
      (value = found ∨ rest.bytes.length + name.length + 2 ≤ reader.bytes.length) ∧
      (rest.bytes ≠ [] → [lineFeed] ++ rest.bytes <:+ reader.bytes) := by
  fun_induction readHeaders name found reader with
  | case1 => cases h
  | case2 => simp at h
  | case3 found reader line rest' consumed blank =>
      simp only [Except.ok.injEq, Prod.mk.injEq, Option.some.injEq] at h
      obtain ⟨rfl, rfl⟩ := h
      obtain ⟨shape, nonempty⟩ := readLineOpt_some consumed
      have := List.length_pos_iff.mpr nonempty
      have := length_le_encode line
      refine ⟨by simp only [shape, List.length_append]; omega, .inl rfl, fun more => ?_⟩
      obtain ⟨text, rfl⟩ := readLineOpt_terminated consumed more
      refine ⟨encode text, ?_⟩
      rw [shape, encode_append]
      simp
      rfl
  | case4 found reader line rest' consumed _ ih =>
      obtain ⟨blank, named, behind⟩ := ih h
      obtain ⟨shape, nonempty⟩ := readLineOpt_some consumed
      have := List.length_pos_iff.mpr nonempty
      have := length_le_encode line
      have total := congrArg List.length shape
      simp only [List.length_append] at total
      refine ⟨by omega, ?_, fun more => (behind more).trans ⟨_, shape.symm⟩⟩
      rcases named with rfl | named
      · cases given : headerValue name line with
        | none => exact .inl (Option.none_or ..)
        | some v =>
            have := headerValue_length given
            exact .inr (by omega)
      · exact .inr (by omega)

theorem isDelimiter_length {boundary text : Text}
    (h : isDelimiter boundary (text ++ ['\n']) = true) :
    (encode boundary).length + 1 ≤ (encode (text ++ ['\n'])).length := by
  simp only [isDelimiter, Bool.and_eq_true, decide_eq_true_eq] at h
  have stripped : Text.trimEnd (text ++ ['\n']) = Text.trimEnd text :=
    Text.trimEnd_append_space (List.all_eq_true.mp (by decide))
  have inside : boundary <:+ Text.trimEndDashes (Text.trimEnd text) := stripped ▸ h.1
  have := (suffix_encode inside).length_le
  have := (prefix_encode ((Text.trimEndDashes_prefix (Text.trimEnd text)).trans
    (List.rdropWhile_prefix _ _))).length_le
  have newline : encode ['\n'] = [lineFeed] := rfl
  simp only [encode_append, newline, List.length_append, List.length_singleton]
  omega

/-- Lines without a pair of dashes are no delimiters. -/
theorem skipToDelimiter_dashless {boundary s : Text} (rest : Bytes) (failure : Option String)
    (dashless : ¬ dashes <:+: s) (lines : s = [] ∨ s.getLast? = some '\n') :
    skipToDelimiter boundary ⟨encode s ++ rest, failure⟩ =
      skipToDelimiter boundary ⟨rest, failure⟩ := by
  induction size : s.length using Nat.strong_induction_on generalizing s with
  | h n ih =>
      cases split : Text.splitOnce '\n' s with
      | none =>
          rcases lines with rfl | last
          · rfl
          · exact absurd (List.mem_of_getLast? last) (Text.splitOnce_eq_none.mp split)
      | some parts =>
          obtain ⟨before, after⟩ := parts
          obtain ⟨rfl, oneLine⟩ := Text.splitOnce_eq_some.mp split
          have shape : encode (before ++ '\n' :: after) ++ rest =
              encode (before ++ ['\n']) ++ (encode after ++ rest) := by
            rw [List.append_cons, encode_append, List.append_assoc]
          have plain : ¬ isDelimiter boundary (before ++ ['\n']) = true := by
            intro delimiter
            simp only [isDelimiter, Bool.and_eq_true, decide_eq_true_eq] at delimiter
            exact dashless (delimiter.2.trans ⟨[], after, by simp⟩)
          have dashless' : ¬ dashes <:+: after := fun inside =>
            dashless (inside.trans ⟨before ++ ['\n'], [], by simp⟩)
          have lines' : after = [] ∨ after.getLast? = some '\n' := by
            cases after with
            | nil => exact .inl rfl
            | cons c after => exact .inr (by simpa using lines)
          rw [shape, skipToDelimiter_of_line (readLineOpt_text _ failure oneLine), if_neg plain]
          refine ih after.length ?_ dashless' lines' rfl
          rw [← size]
          simp
          omega

/-- A frame costs its delimiter line, its header and itself. With a length that
    is all that is consumed; without one the scan starts behind a line feed. -/
theorem readFrame_cost {boundary : Text} {reader rest : Reader} {frame : Bytes}
    (h : readFrame boundary reader = .ok (some frame, rest)) :
    rest.bytes.length + frame.length + (encode boundary).length + 17 ≤ reader.bytes.length ∨
      ∃ body failure, body.length + (encode boundary).length + 2 ≤ reader.bytes.length ∧
        body <:+ reader.bytes ∧ (body ≠ [] → [lineFeed] ++ body <:+ reader.bytes) ∧
        scanFrom (encode (dashes ++ boundary)) failure [] body = .ok (some frame, rest) := by
  obtain ⟨line, behind, value, body, delimiter, -, terminated, suffix, headers, read⟩ :=
    readFrame_some h
  obtain ⟨blank, named, afterFeed⟩ := readHeaders_cost headers
  have more : behind.bytes ≠ [] := List.ne_nil_of_length_pos (by omega)
  obtain ⟨text, rfl⟩ := terminated more
  have lineCost := isDelimiter_length delimiter
  have total := suffix.length_le
  rw [List.length_append] at total
  cases length : value.bind Text.parseUsize with
  | some n =>
      rcases named with rfl | named
      · cases length
      · have nameLength : contentLengthName.length = 14 := by decide
        simp only [readBody, readExact, length] at read
        split at read
        · cases read
        · split at read
          · simp only [Except.ok.injEq, Prod.mk.injEq, Option.some.injEq] at read
            obtain ⟨rfl, rfl⟩ := read
            simp only [List.length_take, List.length_drop]
            exact .inl (by omega)
          · split at read
            · cases read
            · simp at read
  | none =>
      rw [length] at read
      have behindSuffix : behind.bytes <:+ reader.bytes := (List.suffix_append _ _).trans suffix
      exact .inr ⟨body.bytes, body.failure, by omega,
        (readHeaders_suffix headers).trans behindSuffix,
        fun nonempty => (afterFeed nonempty).trans behindSuffix, read⟩

/-! ### What is left behind a consumed boundary -/

section Plain

variable {b : Boundary} {closed : Bool}

/-- From the end of the boundary's name to the body. -/
def partIntro : Text := crlf ++ imageTypeLine ++ crlf ++ crlf

/-- The stream behind the boundary's name, when `frame` and the frames of `rest`
    are still to come. -/
def afterName (closed : Bool) (frame : PlainFrame b) (rest : List (PlainFrame b)) : Bytes :=
  encode partIntro ++ (frame.bytes ++ (line [] ++ scannedBody b closed rest))

theorem scannedBody_cons (frame : PlainFrame b) (rest : List (PlainFrame b)) :
    scannedBody b closed (frame :: rest) = encode b.delimiter ++ afterName closed frame rest := by
  simp [scannedBody, PlainFrame.scanned, afterName, partIntro, line]

/-- Wherever reading resumes behind the name, the intro holds no delimiter. -/
theorem readFrame_behindName {frame : PlainFrame b} {rest : List (PlainFrame b)}
    {reader : Reader} (behind : reader.bytes <:+ afterName closed frame rest) :
    ∃ reader', reader'.bytes <:+ frame.bytes ++ (line [] ++ scannedBody b closed rest) ∧
      readFrame b.kept reader = readFrame b.kept reader' := by
  obtain ⟨bytes, failure⟩ := reader
  obtain ⟨consumed, whole⟩ := behind
  rcases List.append_eq_append_iff.mp whole with ⟨intro, shape, rfl⟩ | ⟨early, -, shape⟩
  · obtain ⟨text, textSuffix, rfl⟩ : ∃ text, text <:+ partIntro ∧ intro = encode text := by
      have ascii : ∀ c ∈ partIntro, c.toNat < 128 := ascii_of_all (by decide)
      rw [encode_ascii ascii] at shape
      obtain ⟨text, suffix, rfl⟩ := List.suffix_map_iff.mp ⟨consumed, shape.symm⟩
      exact ⟨text, suffix, (encode_ascii fun c inside => ascii c (suffix.subset inside)).symm⟩
    have dashless : ¬ dashes <:+: text := fun inside =>
      absurd (inside.trans textSuffix.isInfix) (by decide)
    have lines : text = [] ∨ text.getLast? = some '\n' := by
      by_cases empty : text = []
      · exact .inl empty
      · obtain ⟨before, split⟩ := textSuffix
        have last : partIntro.getLast? = some '\n' := by decide
        rw [← split, List.getLast?_append_of_ne_nil _ empty] at last
        exact .inr last
    refine ⟨⟨_, failure⟩, List.suffix_rfl, ?_⟩
    simp only [readFrame, skipToDelimiter_dashless _ failure dashless lines]
  · exact ⟨⟨bytes, failure⟩, ⟨early, shape.symm⟩, rfl⟩

theorem line_blank_length : (line []).length = 2 := by decide

theorem delimiter_length : (encode b.delimiter).length = (encode b.text).length + 2 := by
  have : (encode dashes).length = 2 := by decide
  rw [Boundary.delimiter, encode_append, List.length_append, this, Nat.add_comm]

/-- Trimming line ends takes nothing off a frame's count but what the scan counted. -/
theorem rdropWhile_length_le (p : Bytes) : (p.rdropWhile isLineEnd).length ≤ p.length :=
  (List.rdropWhile_prefix _ _).length_le

/-- When another part follows, publishing the frame takes the reader past that
    part's delimiter as well. -/
theorem readFrame_skips (written : b.kept = b.text) {frame next : PlainFrame b}
    {rest : List (PlainFrame b)} {reader after : Reader}
    (behind : reader.bytes <:+ afterName closed frame (next :: rest))
    (read : readFrame b.kept reader = .ok (some frame.bytes, after)) :
    after.bytes <:+ afterName closed next rest := by
  obtain ⟨reader', suffix, same⟩ := readFrame_behindName behind
  rw [same] at read
  rw [scannedBody_cons] at suffix
  have nextSuffix : afterName closed next rest <:+
      frame.bytes ++ (line [] ++ (encode b.delimiter ++ afterName closed next rest)) :=
    ⟨frame.bytes ++ (line [] ++ encode b.delimiter), by simp⟩
  apply List.suffix_of_suffix_length_le ((readFrame_suffix read).1.trans suffix) nextSuffix
  have total := suffix.length_le
  simp only [List.length_append, line_blank_length, delimiter_length] at total
  rw [written] at read
  rcases readFrame_cost read with counted | ⟨body, failure, cost, -, -, scan⟩
  · omega
  · have needle : ¬ encode (dashes ++ b.text) <:+ [] := by
      simp [dashes, encode_cons]
    rcases scanFrom_some needle scan with ⟨ended, -⟩ | ⟨p, shape, trimmed, -⟩
    · simp [ended]
    · have lengths := congrArg List.length shape
      have := delimiter_length (b := b)
      have := congrArg List.length trimmed
      have := rdropWhile_length_le p
      simp only [Boundary.delimiter, List.length_append, List.nil_append] at *
      omega

/-- What stands behind a line feed, and is not empty, holds the whole last line. -/
theorem lastLine_suffix {before last body : Bytes} (fresh : lineFeed ∉ last)
    (nonempty : body ≠ []) (h : [lineFeed] ++ body <:+ before ++ (last ++ [lineFeed])) :
    last ++ [lineFeed] <:+ body := by
  have whole : last ++ [lineFeed] <:+ before ++ (last ++ [lineFeed]) := List.suffix_append _ _
  rcases List.suffix_or_suffix_of_suffix h whole with inside | outside
  · -- The line feed before the body would be one inside the last line.
    obtain ⟨early, shape⟩ := inside
    have : lineFeed ∈ last := by
      have body_eq := List.dropLast_concat_getLast nonempty
      rw [← body_eq, ← List.append_assoc, ← List.append_assoc] at shape
      rw [← (List.append_inj_left' shape rfl)]
      simp
    exact absurd this fresh
  · rcases List.suffix_cons_iff.mp outside with same | inside
    · cases last with
      | nil => exact absurd (List.cons.inj same).2.symm nonempty
      | cons x last =>
          refine absurd ?_ fresh
          rw [(List.cons.inj same).1]
          exact List.mem_cons_self
    · exact inside

theorem getLast_ending (closed : Bool) (x : Bytes) :
    (x ++ (line [] ++ ending b closed)).getLast? = some lineFeed := by
  cases closed with
  | false =>
      rw [ending, if_neg (by decide), Tail.bytes, List.append_nil,
        List.getLast?_append_of_ne_nil _ (by decide)]
      rfl
  | true =>
      have shape : ending b true = encode (b.delimiter ++ dashes) ++ line [] := by
        rw [ending, if_pos rfl, Tail.bytes, line, encode_append]
        rfl
      rw [shape, ← List.append_assoc, ← List.append_assoc,
        List.getLast?_append_of_ne_nil _ (by decide)]
      rfl

/-- The last frame cannot be published once its delimiter is consumed. -/
theorem readFrame_last (written : b.kept = b.text) {frame : PlainFrame b}
    {reader after : Reader} (behind : reader.bytes <:+ afterName closed frame []) :
    readFrame b.kept reader ≠ .ok (some frame.bytes, after) := by
  intro read
  obtain ⟨reader', suffix, same⟩ := readFrame_behindName behind
  rw [same, written] at read
  have empty : scannedBody b closed [] = ending b closed := rfl
  rw [empty] at suffix
  have kept : 0 < (encode b.text).length :=
    (List.length_pos_iff.mpr b.nonempty).trans_le (length_le_encode b.text)
  have total := suffix.length_le
  have room : (ending b closed).length ≤ (encode b.text).length + 6 := by
    cases closed
    · simp [ending, Tail.bytes]
    · have : (encode dashes).length = 2 := by decide
      have : (encode crlf).length = 2 := by decide
      have := delimiter_length (b := b)
      simp only [ending, Tail.bytes, if_true, line, encode_append, List.length_append]
      omega
  simp only [List.length_append, line_blank_length] at total
  rcases readFrame_cost read with counted | ⟨body, failure, cost, bodySuffix, feed, scan⟩
  · omega
  have needle : ¬ encode (dashes ++ b.text) <:+ [] := by
    simp [dashes, encode_cons]
  rcases scanFrom_some needle scan with ⟨ended, all, nonempty⟩ | ⟨p, shape, trimmed, -⟩
  · -- Up to the end of the stream the frame would end in a line feed.
    rw [List.nil_append] at all
    have inside : frame.bytes <:+ frame.bytes ++ (line [] ++ ending b closed) := by
      rw [all] at suffix ⊢
      exact bodySuffix.trans suffix
    obtain ⟨early, whole⟩ := inside
    have last : frame.bytes.getLast? = some lineFeed := by
      rw [← List.getLast?_append_of_ne_nil early nonempty, whole]
      exact getLast_ending closed frame.bytes
    exact frame.noLineEnd _ last rfl
  · have lengths := congrArg List.length shape
    have named := delimiter_length (b := b)
    have := congrArg List.length trimmed
    have := rdropWhile_length_le p
    rw [Boundary.delimiter] at named
    simp only [List.length_append, List.nil_append] at lengths
    cases closed with
    | false =>
        have : (ending b false).length = 0 := rfl
        omega
    | true =>
        -- The scan starts before the closing delimiter and stops at its boundary.
        have bodyNonempty : body ≠ [] := List.ne_nil_of_length_pos (by omega)
        obtain ⟨before, ahead⟩ : encode b.delimiter ++ encode (dashes ++ crlf) <:+ body := by
          have closing : ending b true = encode (b.delimiter ++ dashes ++ ['\r']) ++ [lineFeed] := by
            rw [ending, if_pos rfl, Tail.bytes, line, crlf, List.append_cons, encode_append]
            rfl
          have fresh : lineFeed ∉ encode (b.delimiter ++ dashes ++ ['\r']) := by
            rw [lineFeed_eq, mem_encode_iff (by decide)]
            simp [dashes, b.delimiter_oneLine]
          have inside := (feed bodyNonempty).trans suffix
          rw [← List.append_assoc, closing] at inside
          have := lastLine_suffix fresh bodyNonempty inside
          rw [← closing, ending, if_pos rfl, Tail.bytes, line] at this
          rwa [← encode_append, ← List.append_assoc]
        have shape' : [] ++ body = before ++ encode (dashes ++ b.text) ++ encode (dashes ++ crlf) := by
          rw [List.nil_append, List.append_assoc]
          exact ahead.symm
        have start : ([] : Bytes).length < (before ++ encode (dashes ++ b.text)).length := by
          rw [List.length_append, List.length_nil]
          omega
        have stops := scanFrom_before shape' start scan
        have : (encode (dashes ++ crlf)).length = 4 := by decide
        omega

theorem published_cons {boundary : Text} {stop : Nat → Bool} {i : Nat} {reader : Reader}
    {frame : Bytes} {frames : List Bytes}
    (h : (pumpLoop boundary stop i reader).published = frame :: frames) :
    ∃ rest, readFrame boundary reader = .ok (some frame, rest) ∧
      (pumpLoop boundary stop (i + 1) rest).published = frames := by
  rw [pumpLoop] at h
  split at h
  · cases h
  · split at h
    · rename_i frame' rest read
      simp only [Outcome.publish, List.cons.injEq] at h
      obtain ⟨rfl, rfl⟩ := h
      exact ⟨rest, read, rfl⟩
    · cases h
    · cases h

/-- Once a delimiter is consumed ahead of its part, that part and those behind it
    do not come out as they went in. -/
theorem published_behindName (written : b.kept = b.text) (stop : Nat → Bool) (i : Nat)
    (frame : PlainFrame b) (rest : List (PlainFrame b)) (reader : Reader)
    (behind : reader.bytes <:+ afterName closed frame rest) :
    (pumpLoop b.kept stop i reader).published ≠ (frame :: rest).map PlainFrame.bytes := by
  induction rest generalizing i frame reader with
  | nil =>
      intro published
      obtain ⟨after, read, -⟩ := published_cons published
      exact readFrame_last written behind read
  | cons next rest ih =>
      intro published
      obtain ⟨after, read, published⟩ := published_cons published
      exact ih (i + 1) next after (readFrame_skips written behind read) published

/-! ### The first part -/

theorem readFrame_scanned (frame : PlainFrame b) (more : Bytes) (failure : Option String) :
    readFrame b.kept ⟨frame.scanned ++ more, failure⟩ =
      scanFrom (encode (dashes ++ b.kept)) failure [] (frame.bytes ++ (line [] ++ more)) := by
  have shape : frame.scanned ++ more = line b.delimiter ++ (headerLines [imageType] ++
      (line [] ++ (frame.bytes ++ (line [] ++ more)))) := by
    simp [PlainFrame.scanned, headerLines, imageType]
  simp only [readFrame, shape, skipToDelimiter_delimiter, readHeaders_others, readHeaders_blank,
    Option.bind_none, readBody, scanToBoundary]

theorem takeWhile_lineEnds {ends more : Bytes} (all : ∀ x ∈ ends, isLineEnd x)
    (plain : ∀ x, more.head? = some x → ¬ isLineEnd x) :
    (ends ++ more).takeWhile isLineEnd = ends := by
  rw [List.takeWhile_append_of_pos all]
  cases more with
  | nil => simp
  | cons x more => simp [plain x rfl]

/-- A first frame published as it is means that what follows is the boundary as
    the pump writes it. -/
theorem scan_published {frame : PlainFrame b} {more : Bytes} {rest : Reader}
    (h : scanFrom (encode (dashes ++ b.kept)) none [] (frame.bytes ++ (line [] ++ more)) =
      .ok (some frame.bytes, rest))
    (plain : ∀ x, more.head? = some x → ¬ isLineEnd x) :
    more = encode (dashes ++ b.kept) ++ rest.bytes ∧
      frame.bytes.length + (encode b.kept).length + 4 ≤ maxFrameBytes := by
  have needle : ¬ encode (dashes ++ b.kept) <:+ [] := by
    simp [dashes, encode_cons]
  rcases scanFrom_some needle h with ⟨-, all, -⟩ | ⟨p, shape, trimmed, small⟩
  · have := congrArg List.length all
    simp only [List.length_append, line_blank_length, List.length_nil] at this
    omega
  · have ends : ∀ x ∈ p.rtakeWhile isLineEnd, isLineEnd x := fun x => List.mem_rtakeWhile_imp
    have cut : frame.bytes ++ p.rtakeWhile isLineEnd = p := by
      rw [trimmed, List.rdropWhile_append_rtakeWhile]
    have behind : line [] ++ more =
        p.rtakeWhile isLineEnd ++ (encode (dashes ++ b.kept) ++ rest.bytes) := by
      apply (List.append_right_inj frame.bytes).mp
      rw [← List.append_assoc frame.bytes (p.rtakeWhile isLineEnd), cut, ← List.append_assoc p]
      exact shape
    have dash : ∀ x, (encode (dashes ++ b.kept) ++ rest.bytes).head? = some x →
        ¬ isLineEnd x := by
      rintro x ⟨rfl⟩
      decide
    have both := congrArg (List.takeWhile isLineEnd) behind
    rw [takeWhile_lineEnds (List.all_eq_true.mp (by decide)) plain, takeWhile_lineEnds ends dash] at both
    rw [← both] at behind cut
    have lengths := congrArg List.length cut
    have dashesLength : (encode dashes).length = 2 := by decide
    simp only [encode_append, List.length_append, line_blank_length] at lengths small
    exact ⟨List.append_cancel_left behind, by omega⟩

theorem scannedBody_head (closed : Bool) (frames : List (PlainFrame b)) :
    scannedBody b closed frames = [] ∨
      ∃ more, scannedBody b closed frames = encode b.delimiter ++ more := by
  cases frames with
  | nil =>
      cases closed with
      | false => exact .inl rfl
      | true => exact .inr ⟨encode (dashes ++ crlf), by
          simp [scannedBody, ending, Tail.bytes, line]⟩
  | cons frame rest => exact .inr ⟨_, scannedBody_cons frame rest⟩

/-- The pump's boundary stands where the stream's should only if they are the same. -/
theorem not_dashed_of_scanned {more behind : Bytes}
    (h : encode b.delimiter ++ more = encode (dashes ++ b.kept) ++ behind) :
    ¬ dashes <+: b.text := by
  intro dashed
  have ascii : ∀ c ∈ dashes, c.toNat < 128 := ascii_of_all (by decide)
  rw [Boundary.delimiter, encode_append, encode_append, List.append_assoc, List.append_assoc] at h
  have named : encode dashes <+: encode b.kept ++ behind := by
    rw [← List.append_cancel_left h]
    exact (prefix_encode dashed).trans (List.prefix_append _ _)
  rcases List.prefix_or_prefix_of_prefix named (List.prefix_append (encode b.kept) behind) with
    inside | inside
  · exact Text.not_dashes_prefix_trimStartDashes b.text ((encode_prefix_iff ascii).mp inside)
  · have short : encode b.kept = encode ['-'] := by
      have two : encode dashes = [byte '-', byte '-'] := rfl
      have nonempty : encode b.kept ≠ [] := fun empty => b.kept_ne_nil (encode_injective empty)
      rw [two] at inside
      rcases List.prefix_cons_iff.mp inside with empty | ⟨rest, spelled, inside⟩
      · exact absurd empty nonempty
      · rcases List.prefix_cons_iff.mp inside with empty | ⟨rest', spelled', inside⟩
        · rw [spelled, empty]
          rfl
        · obtain rfl := List.prefix_nil.mp inside
          have same : encode b.kept = encode dashes := by rw [spelled, spelled', two]
          have := Text.not_dashes_prefix_trimStartDashes b.text
          rw [show Text.trimStartDashes b.text = dashes from encode_injective same] at this
          exact absurd List.prefix_rfl this
    rcases Text.dashes_suffix_of_trimStartDashes (encode_injective short) with single | suffix
    · rw [single] at dashed
      exact absurd dashed (by decide)
    · exact b.openEnd suffix

/-- An occurrence in a list broken by another element lies on one side of it. -/
theorem infix_around {needle before after : Bytes} {x : UInt8} (absent : x ∉ needle)
    (h : needle <:+: before ++ x :: after) : needle <:+: before ∨ needle <:+: after := by
  rcases List.infix_append_iff.mp h with inside | inside | ⟨left, right, rfl, suffix, pre⟩
  · exact .inl inside
  · rcases List.infix_cons_iff.mp inside with start | inside
    · cases needle with
      | nil => exact .inl (List.nil_infix)
      | cons y needle =>
          rw [(List.cons_prefix_cons.mp start).1] at absent
          exact absurd List.mem_cons_self absent
    · exact .inr inside
  · cases right with
    | nil => exact .inl (by simpa using suffix.isInfix)
    | cons y right =>
        rw [(List.cons_prefix_cons.mp pre).1] at absent
        exact absurd (by simp) absent

theorem line_blank : line [] = [carriageReturn, lineFeed] := by decide

/-- The boundary behind a frame and its line end is the first one. -/
theorem first_delimiter (frame : PlainFrame b) (p : Bytes)
    (h : p ++ encode b.delimiter <+: frame.bytes ++ line [] ++ encode b.delimiter) :
    p = frame.bytes ++ line [] := by
  have carriage : carriageReturn ∉ encode b.delimiter := by
    rw [show carriageReturn = byte '\r' from rfl, mem_encode_iff (by decide)]
    simp [Boundary.delimiter, dashes, b.oneLine.2]
  have feed : lineFeed ∉ encode b.delimiter := by
    rw [lineFeed_eq, mem_encode_iff (by decide)]
    exact b.delimiter_oneLine
  have nonempty : encode b.delimiter ≠ [] := by
    simp [Boundary.delimiter, dashes, encode_cons]
  have lengths := h.length_le
  simp only [List.length_append] at lengths
  by_cases whole : p.length = (frame.bytes ++ line []).length
  · obtain ⟨more, shape⟩ := h
    rw [List.append_assoc] at shape
    exact (List.append_inj shape whole).1
  · -- It would begin before the line end and could only lie in the frame.
    have earlier : encode b.delimiter <:+:
        frame.bytes ++ line [] ++ (encode b.delimiter).dropLast := by
      have inside : frame.bytes ++ line [] ++ (encode b.delimiter).dropLast <+:
          frame.bytes ++ line [] ++ encode b.delimiter :=
        List.prefix_append_right_inj _ |>.mpr (List.dropLast_prefix _)
      have short : (p ++ encode b.delimiter).length ≤
          (frame.bytes ++ line [] ++ (encode b.delimiter).dropLast).length := by
        simp only [List.length_append, List.length_dropLast] at whole ⊢
        omega
      exact (List.suffix_append p _).isInfix.trans
        (List.prefix_of_prefix_length_le h inside short).isInfix
    rw [line_blank, List.append_assoc] at earlier
    rcases infix_around carriage earlier with inside | inside
    · exact absurd inside frame.noBoundary
    · have inside : encode b.delimiter <:+: [] ++ lineFeed :: (encode b.delimiter).dropLast :=
        inside
      rcases infix_around feed inside with inside | inside
      · exact absurd (List.infix_nil.mp inside) nonempty
      · have shorter := inside.length_le
        have := List.length_pos_iff.mpr nonempty
        rw [List.length_dropLast] at shorter
        omega

/-- A single frame with a closing delimiter is found by the scan. -/
theorem scan_single (frame : PlainFrame b) (written : b.kept = b.text)
    (room : frame.bytes.length + (encode b.text).length + 4 ≤ maxFrameBytes) :
    scanFrom (encode (dashes ++ b.kept)) none [] (frame.bytes ++ (line [] ++ ending b true)) =
      .ok (some frame.bytes, ⟨line dashes, none⟩) := by
  have trimmed : (frame.bytes ++ line []).rdropWhile isLineEnd = frame.bytes := by
    have split : frame.bytes ++ line [] = frame.bytes ++ [carriageReturn] ++ [lineFeed] := by
      rw [line_blank, List.append_assoc]
      rfl
    rw [split, List.rdropWhile_concat_pos _ _ _ (by decide),
      List.rdropWhile_concat_pos _ _ _ (by decide), List.rdropWhile_eq_self_iff]
    exact fun nonempty => frame.noLineEnd _ (List.getLast?_eq_some_getLast nonempty)
  have shape : [] ++ (frame.bytes ++ (line [] ++ ending b true)) =
      frame.bytes ++ line [] ++ encode b.delimiter ++ line dashes := by
    simp [ending, Tail.bytes, line]
  have named := delimiter_length (b := b)
  have ahead : ([] : Bytes).length < (frame.bytes ++ line [] ++ encode b.delimiter).length := by
    simp only [List.length_append, List.length_nil]
    omega
  have small : (frame.bytes ++ line [] ++ encode b.delimiter).length ≤ maxFrameBytes := by
    simp only [List.length_append, line_blank_length]
    omega
  have found : scanFrom (encode b.delimiter) none []
      (frame.bytes ++ (line [] ++ ending b true)) = _ :=
    scanFrom_found shape ahead small (first_delimiter frame)
  rw [trimmed] at found
  rwa [written]

theorem published_scanned_iff (frames : List (PlainFrame b)) (stop : Nat → Bool)
    (calm : ∀ i ≤ frames.length, stop i = false) :
    (pumpLoop b.kept stop 0 ⟨scannedBody b closed frames, none⟩).published =
        frames.map PlainFrame.bytes ↔
      ScanKeeps b closed frames := by
  cases frames with
  | nil =>
      refine ⟨fun _ => .inl rfl, fun _ => ?_⟩
      obtain ⟨rest, ended⟩ := readFrame_tail b (if closed then Tail.closed else Tail.ended)
      exact congrArg Outcome.published (pumpLoop_ended (calm 0 (Nat.zero_le _)) ended)
  | cons frame rest =>
      have shape : scannedBody b closed (frame :: rest) =
          frame.scanned ++ scannedBody b closed rest := by simp [scannedBody]
      constructor
      · intro published
        obtain ⟨after, read, published⟩ := published_cons published
        rw [shape, readFrame_scanned] at read
        have plain : ∀ x, (scannedBody b closed rest).head? = some x → ¬ isLineEnd x := by
          rcases scannedBody_head closed rest with empty | ⟨more, head⟩
          · simp [empty]
          · rw [head]
            rintro x ⟨rfl⟩
            decide
        obtain ⟨resumed, room⟩ := scan_published read plain
        have undashed : ¬ dashes <+: b.text := by
          rcases scannedBody_head closed rest with empty | ⟨more, head⟩
          · rw [empty] at resumed
            simp [dashes, encode_cons] at resumed
          · exact not_dashed_of_scanned (head.symm.trans resumed)
        have written : b.kept = b.text := Text.trimStartDashes_eq_self undashed
        rw [written] at resumed room
        cases rest with
        | nil =>
            cases closed with
            | false => simp [scannedBody, ending, Tail.bytes, dashes, encode_cons] at resumed
            | true => exact .inr ⟨rfl, undashed, frame, rfl, room⟩
        | cons next rest =>
            rw [scannedBody_cons] at resumed
            have behind : after.bytes <:+ afterName closed next rest :=
              List.append_cancel_left resumed ▸ List.suffix_rfl
            exact absurd published (published_behindName written stop 1 next rest after behind)
      · rintro (empty | ⟨rfl, undashed, single, list, room⟩)
        · cases empty
        · obtain ⟨rfl, rfl⟩ := List.cons.inj list
          have written : b.kept = b.text := Text.trimStartDashes_eq_self undashed
          have read := readFrame_scanned frame (scannedBody b true []) none
          have empty : scannedBody b true [] = ending b true := rfl
          rw [empty, scan_single frame written room] at read
          have oneLine : '\n' ∉ dashes := by decide
          obtain ⟨after, ended⟩ := readFrame_lastLine b oneLine
          rw [shape, empty, pumpLoop_frame (calm 0 (Nat.zero_le _)) read,
            pumpLoop_ended (calm 1 (by simp)) ended]
          rfl

end Plain

/-! ### Both ways of rendering -/

theorem published_withLengths (response : Response) (closed : Bool)
    (frames : List (PlainFrame response.boundary)) (stop : Nat → Bool)
    (calm : ∀ i ≤ frames.length, stop i = false) :
    (pumpUpstream (.ok ()) stop (withLengths response closed frames)).published =
      frames.map PlainFrame.bytes := by
  have calm' : ∀ j ≤ (frames.map PlainFrame.part).length, stop (0 + j) = false := by
    simpa using calm
  have pumped := pumpLoop_parts response.boundary (frames.map PlainFrame.part)
    (if closed then Tail.closed else Tail.ended) stop 0 [] (.inl rfl) calm'
  simp only [pumpUpstream, withLengths, readUpstreamBoundary_response]
  rw [List.nil_append] at pumped
  rw [ending, pumped, List.map_map]
  rfl

theorem published_withoutLengths (response : Response) (closed : Bool)
    (frames : List (PlainFrame response.boundary)) (stop : Nat → Bool)
    (calm : ∀ i ≤ frames.length, stop i = false) :
    (pumpUpstream (.ok ()) stop (withoutLengths response closed frames)).published =
        frames.map PlainFrame.bytes ↔
      ScanKeeps response.boundary closed frames := by
  simp only [pumpUpstream, withoutLengths, readUpstreamBoundary_response]
  exact published_scanned_iff frames stop calm

/-- The two renderings of a list are published alike exactly when the list
    survives the scan. -/
theorem published_alike_iff (response : Response) (closed : Bool)
    (frames : List (PlainFrame response.boundary)) (stop : Nat → Bool)
    (calm : ∀ i ≤ frames.length, stop i = false) :
    (pumpUpstream (.ok ()) stop (withoutLengths response closed frames)).published =
        (pumpUpstream (.ok ()) stop (withLengths response closed frames)).published ↔
      ScanKeeps response.boundary closed frames := by
  rw [published_withLengths response closed frames stop calm]
  exact published_withoutLengths response closed frames stop calm

def byteFrame (x : UInt8) (plain : isLineEnd x = false) : PlainFrame deviceBoundary where
  bytes := [x]
  small := Nat.le_of_ble_eq_true rfl
  noBoundary := by
    intro inside
    have short := inside.length_le
    have : (encode deviceBoundary.delimiter).length = 16 := by decide
    rw [List.length_singleton] at short
    omega
  noLineEnd := by
    rintro y ⟨rfl⟩
    simp [plain]

theorem published_alike_iff_device :
    (pumpUpstream (.ok ()) (fun i => decide (1 < i))
        (withoutLengths deviceResponse true [byteFrame 7 rfl])).published =
        (pumpUpstream (.ok ()) (fun i => decide (1 < i))
          (withLengths deviceResponse true [byteFrame 7 rfl])).published ↔
      ScanKeeps deviceBoundary true [byteFrame 7 rfl] :=
  published_alike_iff deviceResponse true [byteFrame 7 rfl] (fun i => decide (1 < i)) (by decide)

/-- The second of two frames is lost without its length. -/
theorem published_withoutLengths_loses :
    ¬ ∀ (response : Response) (closed : Bool) (frames : List (PlainFrame response.boundary)),
      (pumpUpstream (.ok ()) (fun _ => false) (withoutLengths response closed frames)).published =
        (pumpUpstream (.ok ()) (fun _ => false) (withLengths response closed frames)).published := by
  intro alike
  have two := alike deviceResponse true [byteFrame 1 rfl, byteFrame 2 rfl]
  rw [published_withLengths _ _ _ _ (fun _ _ => rfl),
    published_withoutLengths _ _ _ _ (fun _ _ => rfl)] at two
  rcases two with empty | ⟨-, -, frame, single, -⟩
  · cases empty
  · cases single

end QuadControl.Ios.Mjpeg
