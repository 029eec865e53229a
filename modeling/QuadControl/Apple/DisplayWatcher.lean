import QuadControl.Apple.DisplaySizes
import QuadControl.Lib.Utf8

/-! # Watching the device rotate

The watcher asks a shell for the display's size over and over and reads the answers. What it
has read is parsed and dropped as soon as it is text, wherever the read ended: a size that the
end of a read cuts is shortened or lost, and of several answers in one read it sees the first.
-/

namespace QuadControl.Apple

open Lib
open Utf8 (Bytes)

/-- What the polling thread has: the bytes it has not parsed, the size it saw last, and what
    it has told `onChange`. -/
structure DisplayWatcher where
  pending : Bytes
  lastSeen : Option CGSize
  changes : List AndroidDisplay
  deriving Repr, DecidableEq

/-- What one turn of the loop meets: a stop, a shell that takes no command, or what it reads. -/
inductive WatchTurn where
  | stopped
  | unwritten
  | read (chunk : Bytes)
  deriving Repr, DecidableEq

namespace DisplayWatcher

def start (initial : AndroidDisplay) : DisplayWatcher := ⟨[], some initial.currentSize, []⟩

variable (watcher : DisplayWatcher)

def notifyIfChanged (display : AndroidDisplay) : DisplayWatcher :=
  if watcher.lastSeen ≠ some display.currentSize then
    { watcher with
      lastSeen := some display.currentSize
      changes := watcher.changes ++ [display] }
  else watcher

/-- What `poll` makes of a text it has read. -/
def see (text : Text) : DisplayWatcher :=
  match AndroidDisplay.parse text with
  | none => watcher
  | some display => watcher.notifyIfChanged display

def read (chunk : Bytes) : DisplayWatcher :=
  match Utf8.decode? (watcher.pending ++ chunk) with
  | none => { watcher with pending := watcher.pending ++ chunk }
  | some text => see { watcher with pending := [] } text

/-- Nothing is read at the end of the output. -/
def poll (watcher : DisplayWatcher) : List WatchTurn → DisplayWatcher
  | .read chunk :: rest => if chunk = [] then watcher else poll (watcher.read chunk) rest
  | _ => watcher

/-- What the loop reads. -/
def received : List WatchTurn → List Bytes
  | .read chunk :: rest => if chunk = [] then [] else chunk :: received rest
  | _ => []

/-- The texts that reads complete, behind bytes that are no text yet. -/
def texts (pending : Bytes) : List Bytes → List Text
  | [] => []
  | chunk :: rest =>
      match Utf8.decode? (pending ++ chunk) with
      | none => texts (pending ++ chunk) rest
      | some text => text :: texts [] rest

/-- The shell's output. -/
def printed (lines : List Text) : Text := lines.flatMap (· ++ ['\n'])

/-- The sizes are those that lines state, and when everything is read the last one is. -/
def Exact (lines : List Text) (initial : AndroidDisplay) (turns : List WatchTurn) : Prop :=
  (∀ display ∈ (poll (start initial) turns).changes,
      ∃ line ∈ lines, stated line = some display.currentSize) ∧
    ((received turns).flatten = Utf8.encode (printed lines) →
      (poll (start initial) turns).lastSeen =
        some ((lines.filterMap stated).getLast?.getD initial.currentSize))

/-- Each of the texts agrees with its lines, and what is left of a line behind it is apart
    from what has been read of that line. -/
def Unmixed (output before : Text) : List Text → Prop
  | [] => True
  | text :: later =>
      Agrees text ∧
        Apart (Text.lastPart '\n' (before ++ text))
          (Text.firstPart '\n' (output.drop (before ++ text).length)) ∧
        Unmixed output (before ++ text) later

/-! ### One read -/

/-- What holds when a part of the output has been parsed. -/
structure Follows (output : Text) (initial : AndroidDisplay) (before : Text)
    (watcher : DisplayWatcher) : Prop where
  apart : Apart (Text.lastPart '\n' before) (Text.firstPart '\n' (output.drop before.length))
  undecided : watcher.pending = [] ∨ Utf8.decode? watcher.pending = none
  recorded : watcher.lastSeen = some ((sizes before).getLast?.getD initial.currentSize)
  reported : ∀ display ∈ watcher.changes, display.currentSize ∈ sizes before

variable {watcher} {output before text : Text} {initial : AndroidDisplay}

theorem follows_start (output : Text) (initial : AndroidDisplay) :
    Follows output initial [] (start initial) where
  apart := Apart.of_nil _
  undecided := .inl rfl
  recorded := rfl
  reported := nofun

/-- A text is parsed as the last size its lines state. -/
theorem parse_of_agrees (agrees : Agrees text) :
    (AndroidDisplay.parse text).map AndroidDisplay.currentSize = (sizes text).getLast? := by
  have first : sizeOf cur text = (sizes text).getLast? := by
    rw [sizeOf_eq, findSize_splitOn (by decide), agrees]
  rw [← first, AndroidDisplay.parse, ← cur]
  cases sizeOf cur text <;> rfl

theorem notifyIfChanged_lastSeen (display : AndroidDisplay) :
    (watcher.notifyIfChanged display).lastSeen = some display.currentSize := by
  unfold notifyIfChanged
  split
  · rfl
  · rename_i same
    exact not_not.mp same

theorem notifyIfChanged_pending (display : AndroidDisplay) :
    (watcher.notifyIfChanged display).pending = watcher.pending := by
  unfold notifyIfChanged
  split <;> rfl

theorem mem_notifyIfChanged {display other : AndroidDisplay}
    (told : other ∈ (watcher.notifyIfChanged display).changes) :
    other ∈ watcher.changes ∨ other = display := by
  unfold notifyIfChanged at told
  split at told
  · exact (List.mem_append.mp told).imp_right List.mem_singleton.mp
  · exact .inl told

theorem Follows.see (follows : Follows output initial before watcher)
    (added : sizes (before ++ text) = sizes before ++ sizes text) (agrees : Agrees text)
    (apart : Apart (Text.lastPart '\n' (before ++ text))
      (Text.firstPart '\n' (output.drop (before ++ text).length))) :
    Follows output initial (before ++ text)
      (DisplayWatcher.see { watcher with pending := [] } text) := by
  have last := parse_of_agrees agrees
  unfold DisplayWatcher.see
  cases parsed : AndroidDisplay.parse text with
  | none =>
      -- Its lines state none.
      rw [parsed, Option.map_none, eq_comm, List.getLast?_eq_none_iff] at last
      rw [last, List.append_nil] at added
      refine ⟨apart, .inl rfl, ?_, ?_⟩
      · rw [added]; exact follows.recorded
      · rw [added]; exact follows.reported
  | some display =>
      rw [parsed, Option.map_some] at last
      refine ⟨apart, .inl (notifyIfChanged_pending display), ?_, fun other told => ?_⟩
      · rw [added, List.getLast?_append, ← last]
        exact notifyIfChanged_lastSeen display
      · rw [added]
        rcases mem_notifyIfChanged told with old | rfl
        · exact List.mem_append_left _ (follows.reported other old)
        · exact List.mem_append_right _ (List.mem_of_getLast? last.symm)

theorem see_pending (text : Text) : (watcher.see text).pending = watcher.pending := by
  unfold DisplayWatcher.see
  split
  · rfl
  · exact notifyIfChanged_pending _

theorem read_of_none {chunk : Bytes} (partly : Utf8.decode? (watcher.pending ++ chunk) = none) :
    watcher.read chunk = { watcher with pending := watcher.pending ++ chunk } := by
  rw [DisplayWatcher.read, partly]

theorem read_of_some {chunk : Bytes} (whole : Utf8.decode? (watcher.pending ++ chunk) = some text) :
    watcher.read chunk = DisplayWatcher.see { watcher with pending := [] } text := by
  rw [DisplayWatcher.read, whole]

/-- Bytes that are no text yet leave everything parsed as it is. -/
theorem Follows.wait (follows : Follows output initial before watcher) {chunk : Bytes}
    (partly : Utf8.decode? (watcher.pending ++ chunk) = none) :
    Follows output initial before (watcher.read chunk) := by
  rw [read_of_none partly]
  exact ⟨follows.apart, .inr partly, follows.recorded, follows.reported⟩

/-- A text between two parts of the output is seen as its lines state it. -/
theorem Follows.parse {after : Text} (follows : Follows output initial before watcher)
    (shape : output = before ++ text ++ after) (agrees : Agrees text)
    (apart : Apart (Text.lastPart '\n' (before ++ text))
      (Text.firstPart '\n' (output.drop (before ++ text).length))) :
    Follows output initial (before ++ text)
      (DisplayWatcher.see { watcher with pending := [] } text) := by
  have cut := follows.apart
  have next := apart
  rw [shape, List.drop_left] at next
  rw [shape, List.append_assoc, List.drop_left] at cut
  exact follows.see (sizes_append (cut.first next)) agrees apart

/-! ### The whole loop -/

theorem poll_read {chunk : Bytes} (more : chunk ≠ []) (rest : List WatchTurn) :
    DisplayWatcher.poll watcher (.read chunk :: rest) =
      DisplayWatcher.poll (watcher.read chunk) rest :=
  if_neg more

theorem received_read {chunk : Bytes} (more : chunk ≠ []) (rest : List WatchTurn) :
    received (.read chunk :: rest) = chunk :: received rest :=
  if_neg more

/-- A text that a read completes joins what has been parsed. -/
theorem encode_joined {pending chunk : Bytes} (bytes : pending ++ chunk = Utf8.encode text)
    (before : Text) (rest : Bytes) :
    Utf8.encode before ++ pending ++ (chunk ++ rest) = Utf8.encode (before ++ text) ++ rest := by
  rw [Utf8.encode_append, ← bytes]
  simp only [List.append_assoc]

/-- What is read is parsed in order, up to the bytes that are no text yet. -/
theorem Follows.poll {turns : List WatchTurn} (follows : Follows output initial before watcher)
    (within : Utf8.encode before ++ watcher.pending ++ (received turns).flatten <+:
      Utf8.encode output)
    (unmixed : Unmixed output before (texts watcher.pending (received turns))) :
    ∃ parsed, Follows output initial parsed (DisplayWatcher.poll watcher turns) ∧
      Utf8.encode parsed ++ (DisplayWatcher.poll watcher turns).pending =
        Utf8.encode before ++ watcher.pending ++ (received turns).flatten := by
  induction turns generalizing watcher before with
  | nil => exact ⟨before, follows, (List.append_nil _).symm⟩
  | cons turn rest ih =>
      cases turn with
      | stopped => exact ⟨before, follows, (List.append_nil _).symm⟩
      | unwritten => exact ⟨before, follows, (List.append_nil _).symm⟩
      | read chunk =>
          by_cases ended : chunk = []
          · subst ended
            exact ⟨before, follows, (List.append_nil _).symm⟩
          · rw [received_read ended, List.flatten_cons] at within
            rw [received_read ended] at unmixed
            rw [poll_read ended, received_read ended, List.flatten_cons]
            cases decoded : Utf8.decode? (watcher.pending ++ chunk) with
            | none =>
                have waiting := read_of_none decoded
                rw [texts, decoded] at unmixed
                have later := ih (follows.wait decoded)
                simp only [waiting, List.append_assoc] at later within unmixed ⊢
                exact later within unmixed
            | some text =>
                have joined := encode_joined (Utf8.encode_of_decode decoded) before
                  (received rest).flatten
                rw [texts, decoded] at unmixed
                obtain ⟨agrees, apart, unmixed⟩ := unmixed
                rw [joined] at within ⊢
                obtain ⟨behind, shape⟩ := within
                obtain ⟨after, split, -⟩ := Utf8.eq_append_of_encode_append
                  (shape.symm.trans (List.append_assoc _ _ _))
                have parsed := follows.parse split agrees apart
                have empty : (watcher.read chunk).pending = [] := by
                  rw [read_of_some decoded, see_pending]
                rw [← read_of_some decoded] at parsed
                have later := ih parsed
                rw [empty, List.append_nil] at later
                exact later ⟨behind, shape⟩ unmixed

/-- When nothing is left to read, all of the output has been parsed. -/
theorem Follows.whole (follows : Follows output initial before watcher)
    (all : Utf8.encode before ++ watcher.pending = Utf8.encode output) : before = output := by
  obtain ⟨after, rfl, pending⟩ := Utf8.eq_append_of_encode_append all.symm
  rcases follows.undecided with empty | partly
  · rw [pending] at empty
    have : after = [] := Utf8.encode_injective empty
    rw [this, List.append_nil]
  · rw [pending, Utf8.decode_encode] at partly
    cases partly

theorem sizes_printed {lines : List Text} (oneLine : ∀ line ∈ lines, '\n' ∉ line) :
    sizes (printed lines) = lines.filterMap stated := by
  rw [sizes, printed, Text.splitOn_lines oneLine, List.filterMap_append]
  exact List.append_nil _

/-- Where every text that reads complete agrees with its lines and cuts no line between or
    inside its sizes, the sizes reported are those the lines state, and the size recorded is
    the last one stated. -/
theorem poll_exact {lines : List Text} {initial : AndroidDisplay} {turns : List WatchTurn}
    (oneLine : ∀ line ∈ lines, '\n' ∉ line)
    (within : (received turns).flatten <+: Utf8.encode (printed lines))
    (unmixed : Unmixed (printed lines) [] (texts [] (received turns))) :
    Exact lines initial turns := by
  obtain ⟨parsed, follows, bytes⟩ :=
    (follows_start (printed lines) initial).poll within unmixed
  have all : Utf8.encode parsed ++ (poll (start initial) turns).pending =
      (received turns).flatten := bytes
  constructor
  · intro display told
    obtain ⟨behind, shape⟩ := within
    rw [← all, List.append_assoc] at shape
    obtain ⟨after, split, -⟩ := Utf8.eq_append_of_encode_append shape.symm
    have cut := follows.apart
    rw [split, List.drop_left] at cut
    have inside := List.mem_append_left (sizes after) (follows.reported display told)
    rw [← sizes_append cut, ← split, sizes_printed oneLine] at inside
    exact List.mem_filterMap.mp inside
  · intro everything
    have whole := follows.whole (all.trans everything)
    subst whole
    rw [follows.recorded, sizes_printed oneLine]

/-! ### Reads of whole texts -/

def reads (chunks : List Text) : List WatchTurn := chunks.map fun chunk => .read (Utf8.encode chunk)

theorem encode_ne_nil (nonempty : text ≠ []) : Utf8.encode text ≠ [] := fun none =>
  nonempty (Utf8.encode_injective none)

theorem received_reads {chunks : List Text} (each : ∀ chunk ∈ chunks, chunk ≠ []) :
    received (reads chunks) = chunks.map Utf8.encode := by
  induction chunks with
  | nil => rfl
  | cons chunk chunks ih =>
      rw [reads, List.map_cons, received_read (encode_ne_nil (each chunk List.mem_cons_self)),
        ← reads, ih fun other inside => each other (List.mem_cons_of_mem _ inside), List.map_cons]

theorem flatten_encode (chunks : List Text) :
    (chunks.map Utf8.encode).flatten = Utf8.encode chunks.flatten := by
  induction chunks with
  | nil => rfl
  | cons chunk chunks ih =>
      rw [List.map_cons, List.flatten_cons, ih, List.flatten_cons, Utf8.encode_append]

theorem texts_encode (chunks : List Text) : texts [] (chunks.map Utf8.encode) = chunks := by
  induction chunks with
  | nil => rfl
  | cons chunk chunks ih =>
      rw [List.map_cons, texts, List.nil_append, Utf8.decode_encode]
      simp only [ih]

/-- Reads of whole texts are seen one after the other. -/
theorem poll_reads {chunks : List Text} (empty : watcher.pending = [])
    (each : ∀ chunk ∈ chunks, chunk ≠ []) :
    DisplayWatcher.poll watcher (reads chunks) = chunks.foldl DisplayWatcher.see watcher := by
  induction chunks generalizing watcher with
  | nil => rfl
  | cons chunk chunks ih =>
      have whole : Utf8.decode? (watcher.pending ++ Utf8.encode chunk) = some chunk := by
        rw [empty, List.nil_append, Utf8.decode_encode]
      have same : { watcher with pending := [] } = watcher := by rw [← empty]
      rw [reads, List.map_cons, poll_read (encode_ne_nil (each chunk List.mem_cons_self)), ← reads,
        read_of_some whole, same, ih ((see_pending chunk).trans empty)
          fun other inside => each other (List.mem_cons_of_mem _ inside)]
      rfl

/-- The end of the first read is behind the size. -/
theorem poll_exact_behindSize :
    Exact ["cur=30x40 app".toList] ⟨⟨40, 30⟩, ⟨40, 30⟩⟩
      (reads ["cur=30x40 a".toList, "pp\n".toList]) := by
  have each : ∀ chunk ∈ ["cur=30x40 a".toList, "pp\n".toList], chunk ≠ [] := by decide
  have whole : ["cur=30x40 a".toList, "pp\n".toList].flatten =
      printed ["cur=30x40 app".toList] := by decide
  refine poll_exact (by decide) ?_ ?_
  · rw [received_reads each, flatten_encode, whole]
  · rw [received_reads each, texts_encode]
    exact ⟨by decide, by decide, by decide, by decide, trivial⟩

/-- A read that ends in the middle of a number shortens the size. -/
theorem poll_shortens :
    ¬ ∀ lines initial turns, (∀ line ∈ lines, '\n' ∉ line) →
      (received turns).flatten <+: Utf8.encode (printed lines) → Exact lines initial turns := by
  intro exact
  have each : ∀ chunk ∈ ["cur=30x4".toList, "0\n".toList], chunk ≠ [] := by decide
  have whole : ["cur=30x4".toList, "0\n".toList].flatten = printed ["cur=30x40".toList] := by decide
  have within : (received (reads ["cur=30x4".toList, "0\n".toList])).flatten <+:
      Utf8.encode (printed ["cur=30x40".toList]) := by
    rw [received_reads each, flatten_encode, whole]
  have reported := (exact ["cur=30x40".toList] ⟨⟨40, 30⟩, ⟨40, 30⟩⟩ _ (by decide) within).1
  rw [poll_reads rfl each] at reported
  exact absurd reported (by decide)

end DisplayWatcher

end QuadControl.Apple
