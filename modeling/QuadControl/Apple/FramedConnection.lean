import QuadControl.Apple.Wire

/-! # Receiving frames

`FramedConnection` reads a frame's length and then its payload from a connection that
hands out the bytes of a stream in chunks. What it delivers depends on the bytes alone,
not on where the chunks end.
-/

namespace QuadControl.Apple.Diagnostic

open Lib Lib.Utf8 Lib.Framing Constants

/-- Received bytes. There is at least one, which is what `minimumIncompleteLength` asks for. -/
abbrev Chunk := { bytes : Bytes // bytes ≠ [] }

inductive Ending where
  | complete
  | failed
  deriving Repr, DecidableEq

/-- The receiving half of an `NWConnection`: the chunks to come, and how the stream ends after
    them, if it does. An early ending is told with the last bytes. -/
structure NWConnection where
  chunks : List Chunk
  ending : Option Ending
  early : Bool
  deriving Repr, DecidableEq

/-- What the callback of a receive is given. -/
structure Received where
  content : Option Bytes
  isComplete : Bool
  error : Bool
  deriving Repr, DecidableEq

namespace NWConnection

/-- A cancelled connection has nothing but an error for who receives. -/
def cancelled : NWConnection := ⟨[], some .failed, false⟩

variable (connection : NWConnection)

/-- All the bytes to come. -/
def bytes : Bytes := connection.chunks.flatMap Subtype.val

/-- The chunks that are left when so many bytes of the first one are handed out. -/
def advance (maximumLength : Nat) (chunk : Chunk) (chunks : List Chunk) : List Chunk :=
  if rest : chunk.1.drop maximumLength = [] then chunks
  else ⟨chunk.1.drop maximumLength, rest⟩ :: chunks

/-- The callback of a receive, unless it waits for more to come. -/
def receive (maximumLength : Nat) : Option (Received × NWConnection) :=
  match connection.chunks with
  | [] => connection.ending.map fun ending =>
      (⟨none, ending = .complete, ending = .failed⟩, connection)
  | chunk :: chunks =>
      let left := advance maximumLength chunk chunks
      let told := if left.isEmpty && connection.early then connection.ending else none
      some (⟨some (chunk.1.take maximumLength), told = some .complete, told = some .failed⟩,
        { connection with chunks := left })

end NWConnection

namespace FramedConnection

def readExactly (length : Nat) (accumulated : Bytes) (connection : NWConnection) :
    Option (Except Failure Bytes × NWConnection) :=
  let remaining := length - accumulated.length
  if 0 < remaining then
    match connection.receive remaining with
    | none => none
    | some (received, left) =>
        let next := accumulated ++ received.content.getD []
        if next.length = length then some (.ok next, left)
        else if received.error || received.isComplete ||
            received.content.map List.isEmpty ≠ some false then
          some (.error .network, .cancelled)
        else readExactly length next left
  else some (.ok accumulated, connection)
termination_by length - accumulated.length
decreasing_by
  rename_i room _ more
  simp only [Bool.or_eq_true, decide_eq_true_eq, not_or, not_not, Option.map_eq_some_iff] at more
  obtain ⟨-, content, some, full⟩ := more
  have positive : 0 < content.length := by
    cases content with
    | nil => cases full
    | cons => exact Nat.zero_lt_succ _
  have next : (accumulated ++ received.content.getD []).length =
      accumulated.length + content.length := by
    simp [some]
  omega

def receive (connection : NWConnection) : Option (Except Failure Bytes × NWConnection) :=
  match readExactly 4 [] connection with
  | none => none
  | some (.error failure, _) => some (.error failure, .cancelled)
  | some (.ok header, left) =>
      match Wire.decodeFrameLength header with
      | .error failure => some (.error failure, .cancelled)
      | .ok length => readExactly length [] left

/-- The results of receives one after the other, as long as there are any. -/
def receives : Nat → NWConnection → List (Except Failure Bytes)
  | 0, _ => []
  | n + 1, connection =>
      match receive connection with
      | none => []
      | some (result, left) => result :: receives n left

end FramedConnection

/-! ### What a receive hands out -/

namespace NWConnection

variable {connection : NWConnection}

theorem bytes_advance (maximumLength : Nat) (chunk : Chunk) (chunks : List Chunk) :
    (advance maximumLength chunk chunks).flatMap Subtype.val =
      chunk.1.drop maximumLength ++ chunks.flatMap Subtype.val := by
  unfold advance
  split
  · rename_i rest
    rw [rest, List.nil_append]
  · rfl

/-- Some of the bytes to come, and the ending only where they are the last ones. -/
theorem receive_of_bytes {maximumLength : Nat} (room : 0 < maximumLength)
    (some : connection.bytes ≠ []) :
    ∃ content isComplete error left,
      connection.receive maximumLength =
        Option.some (⟨Option.some content, isComplete, error⟩, left) ∧
      content ≠ [] ∧ content.length ≤ maximumLength ∧ connection.bytes = content ++ left.bytes ∧
      left.ending = connection.ending ∧
      ((error || isComplete) = true → left.bytes = [] ∧ connection.ending.isSome = true) := by
  obtain ⟨chunks, ending, early⟩ := connection
  cases chunks with
  | nil => exact absurd rfl some
  | cons chunk chunks =>
      refine ⟨chunk.1.take maximumLength, _, _, _, rfl, ?_, ?_, ?_, rfl, ?_⟩
      · intro none
        rcases List.take_eq_nil_iff.mp none with zero | empty
        · omega
        · exact chunk.2 empty
      · exact List.length_take_le _ _
      · show chunk.1 ++ chunks.flatMap Subtype.val = _ ++ (advance _ _ _).flatMap Subtype.val
        rw [bytes_advance, ← List.append_assoc, List.take_append_drop]
      · intro told
        by_cases last : ((advance maximumLength chunk chunks).isEmpty && early) = true
        · rw [if_pos last] at told
          have none := List.isEmpty_iff.mp (Bool.and_eq_true_iff.mp last).1
          refine ⟨congrArg (List.flatMap Subtype.val) none, ?_⟩
          cases ending with
          | none => cases told
          | some ending => rfl
        · rw [if_neg last] at told
          cases told

theorem receive_of_none (maximumLength : Nat) (none : connection.bytes = []) :
    connection.receive maximumLength = connection.ending.map fun ending =>
      (⟨Option.none, ending = .complete, ending = .failed⟩, connection) := by
  obtain ⟨chunks, ending, early⟩ := connection
  cases chunks with
  | nil => rfl
  | cons chunk chunks =>
      have first := (List.append_eq_nil_iff.mp none).1
      exact absurd first chunk.2

end NWConnection

namespace FramedConnection

theorem readExactly_of_received {length remaining : Nat} {accumulated : Bytes}
    {connection left : NWConnection} {received : Received}
    (here : length - accumulated.length = remaining) (room : 0 < remaining)
    (called : connection.receive remaining = some (received, left)) :
    readExactly length accumulated connection =
      if (accumulated ++ received.content.getD []).length = length then
        some (.ok (accumulated ++ received.content.getD []), left)
      else if received.error || received.isComplete ||
          received.content.map List.isEmpty ≠ some false then some (.error .network, .cancelled)
      else readExactly length (accumulated ++ received.content.getD []) left := by
  subst here
  rw [readExactly]
  simp only [if_pos room, called]

/-- What the bytes to come begin with is read, however they are cut. -/
theorem readExactly_of_bytes (length : Nat) (accumulated : Bytes) {payload rest : Bytes}
    {connection : NWConnection} (here : connection.bytes = payload ++ rest)
    (exact : accumulated.length + payload.length = length) :
    ∃ left, readExactly length accumulated connection = some (.ok (accumulated ++ payload), left) ∧
      left.bytes = rest ∧ left.ending = connection.ending := by
  induction size : payload.length using Nat.strong_induction_on
    generalizing accumulated payload connection with
  | _ n ih =>
      by_cases done : payload = []
      · subst done
        rw [List.length_nil] at exact
        rw [readExactly, List.append_nil]
        exact ⟨connection, if_neg (by omega), here, rfl⟩
      · have room : 0 < payload.length := List.length_pos_iff.mpr done
        have some : connection.bytes ≠ [] := by
          rw [here]
          exact List.append_ne_nil_of_left_ne_nil done rest
        obtain ⟨content, isComplete, error, left, received, full, bound, cut, ending, told⟩ :=
          NWConnection.receive_of_bytes room some
        have begins : content <+: payload := by
          apply List.prefix_of_prefix_length_le _ (List.prefix_append payload rest) bound
          rw [← here, cut]
          exact List.prefix_append content left.bytes
        have remaining : length - accumulated.length = payload.length := by omega
        have step := readExactly_of_received remaining room received
        obtain ⟨more, rfl⟩ := begins
        have behind : left.bytes = more ++ rest := by
          rw [here, List.append_assoc] at cut
          exact (List.append_cancel_left cut).symm
        have positive : 0 < content.length := List.length_pos_iff.mpr full
        rw [List.length_append] at exact
        rw [step, Option.getD_some, List.length_append]
        by_cases last : more = []
        · subst last
          rw [List.length_nil] at exact
          rw [if_pos (by omega), List.append_nil]
          exact ⟨left, rfl, behind, ending⟩
        · have short : 0 < more.length := List.length_pos_iff.mpr last
          have open' : (error || isComplete) = false := by
            apply Bool.eq_false_iff.mpr
            intro closed
            have none := (told closed).1
            rw [behind] at none
            exact last (List.append_eq_nil_iff.mp none).1
          have some' : content.isEmpty = false := List.isEmpty_eq_false_iff.mpr full
          have exact' : (accumulated ++ content).length + more.length = length := by
            rw [List.length_append]
            omega
          have shorter : more.length < n := by
            rw [← size, List.length_append]
            omega
          obtain ⟨final, read, rest', ending'⟩ := ih more.length shorter _ behind exact' rfl
          rw [if_neg (by omega), if_neg (by simp [open', some']), read]
          exact ⟨final, by rw [List.append_assoc], rest', ending'.trans ending⟩

/-- Where the bytes to come are too few, nothing is read: the read waits, or the stream ends. -/
theorem readExactly_of_few (length : Nat) (accumulated : Bytes) {connection : NWConnection}
    (few : accumulated.length + connection.bytes.length < length) :
    readExactly length accumulated connection =
      connection.ending.map fun _ => (.error .network, .cancelled) := by
  induction size : connection.bytes.length using Nat.strong_induction_on
    generalizing accumulated connection with
  | _ n ih =>
      by_cases none : connection.bytes = []
      · have called := NWConnection.receive_of_none (length - accumulated.length) none
        cases ending : connection.ending with
        | none =>
            rw [ending] at called
            rw [readExactly, if_pos (by omega), called]
            rfl
        | some ending' =>
            rw [ending] at called
            have step := readExactly_of_received rfl (by omega) called
            rw [step, Option.getD_none, List.append_nil, if_neg (by omega), if_pos (by simp)]
            rfl
      · have room : 0 < length - accumulated.length := by omega
        obtain ⟨content, isComplete, error, left, received, full, bound, cut, ending, told⟩ :=
          NWConnection.receive_of_bytes room none
        have step := readExactly_of_received rfl room received
        have positive : 0 < content.length := List.length_pos_iff.mpr full
        have some' : content.isEmpty = false := List.isEmpty_eq_false_iff.mpr full
        have lengths := congrArg List.length cut
        rw [List.length_append] at lengths
        rw [step, Option.getD_some, if_neg (by rw [List.length_append]; omega)]
        by_cases closed : (error || isComplete) = true
        · obtain ⟨ending', ended⟩ := Option.isSome_iff_exists.mp (told closed).2
          rw [if_pos (by simp [closed]), ended]
          rfl
        · have few' : (accumulated ++ content).length + left.bytes.length < length := by
            rw [List.length_append]
            omega
          have fewer : left.bytes.length < n := by omega
          rw [if_neg (by simp [closed, some']), ih left.bytes.length fewer _ few' rfl, ending]

/-! ### Streams of frames -/

/-- Bytes that announce no payload, or one that is too long. -/
def Malformed (bytes : Bytes) : Prop :=
  4 ≤ bytes.length ∧
    (ofBigEndian (bytes.take 4) = 0 ∨ maxFrameLength < ofBigEndian (bytes.take 4))

instance (bytes : Bytes) : Decidable (Malformed bytes) := instDecidableAnd

/-- Bytes that end before the frame does that they begin with. -/
def Cut (bytes : Bytes) : Prop :=
  bytes.length < 4 ∨
    0 < ofBigEndian (bytes.take 4) ∧ ofBigEndian (bytes.take 4) ≤ maxFrameLength ∧
      bytes.length < 4 + ofBigEndian (bytes.take 4)

theorem Cut.not_malformed {bytes : Bytes} (cut : Cut bytes) : ¬ Malformed bytes := by
  rintro ⟨enough, length⟩
  rcases cut with few | ⟨positive, bound, -⟩ <;> omega

/-- Bytes begin with a frame, or with none that can be read. -/
theorem frame_cases (bytes : Bytes) :
    (∃ payload rest, Wire.Valid payload ∧ bytes = prefixed payload ++ rest) ∨
      Malformed bytes ∨ Cut bytes := by
  by_cases few : bytes.length < 4
  · exact .inr (.inr (.inl few))
  · by_cases valid : 0 < ofBigEndian (bytes.take 4) ∧ ofBigEndian (bytes.take 4) ≤ maxFrameLength
    · by_cases short : bytes.length < 4 + ofBigEndian (bytes.take 4)
      · exact .inr (.inr (.inr ⟨valid.1, valid.2, short⟩))
      · have length : ((bytes.drop 4).take (ofBigEndian (bytes.take 4))).length =
            ofBigEndian (bytes.take 4) := by
          rw [List.length_take, List.length_drop]
          omega
        have four : (bytes.take 4).length = 4 := by
          rw [List.length_take]
          omega
        have header := bigEndian_ofBigEndian (bytes.take 4)
        rw [four] at header
        refine .inl ⟨(bytes.drop 4).take (ofBigEndian (bytes.take 4)),
          (bytes.drop 4).drop (ofBigEndian (bytes.take 4)), ⟨?_, ?_⟩, ?_⟩
        · apply List.ne_nil_of_length_pos
          rw [length]
          exact valid.1
        · rw [length]
          exact valid.2
        · rw [prefixed, length, header, List.append_assoc, List.take_append_drop,
            List.take_append_drop]
    · exact .inr (.inl ⟨by omega, by omega⟩)

/-- A stream is frames, and what no frame begins. -/
theorem frames_cases (bytes : Bytes) :
    ∃ payloads rest, (∀ payload ∈ payloads, Wire.Valid payload) ∧
      bytes = frames payloads ++ rest ∧ (Malformed rest ∨ Cut rest) := by
  induction size : bytes.length using Nat.strong_induction_on generalizing bytes with
  | _ n ih =>
      rcases frame_cases bytes with ⟨payload, rest, valid, rfl⟩ | none
      · have shorter : rest.length < n := by
          rw [← size, prefixed, List.length_append, List.length_append, length_bigEndian]
          omega
        obtain ⟨payloads, last, valids, rfl, none⟩ := ih rest.length shorter rest rfl
        refine ⟨payload :: payloads, last, ?_, ?_, none⟩
        · exact List.forall_mem_cons.mpr ⟨valid, valids⟩
        · rw [frames_cons, List.append_assoc]
      · exact ⟨[], bytes, List.forall_mem_nil _, rfl, none⟩

theorem receive_of_frame {connection : NWConnection} {payload rest : Bytes}
    (valid : Wire.Valid payload) (here : connection.bytes = prefixed payload ++ rest) :
    ∃ left, receive connection = some (.ok payload, left) ∧ left.bytes = rest ∧
      left.ending = connection.ending := by
  rw [prefixed, List.append_assoc] at here
  have four : (bigEndian 4 payload.length).length = 4 := length_bigEndian 4 _
  obtain ⟨middle, read, behind, ending⟩ := readExactly_of_bytes 4 [] here (by rw [four]; rfl)
  obtain ⟨left, read', behind', ending'⟩ :=
    readExactly_of_bytes payload.length [] behind (Nat.zero_add _)
  have decoded := (Wire.decodeFrameLength_eq_ok four).mpr ⟨valid.length_pos, valid.2, rfl⟩
  refine ⟨left, ?_, behind', ending'.trans ending⟩
  rw [List.nil_append] at read read'
  simp only [receive, read, decoded, read']

theorem receive_of_malformed {connection : NWConnection} (malformed : Malformed connection.bytes) :
    receive connection = some (.error .length, .cancelled) := by
  obtain ⟨enough, length⟩ := malformed
  have four : (connection.bytes.take 4).length = 4 := by
    rw [List.length_take]
    omega
  have split := (List.take_append_drop 4 connection.bytes).symm
  obtain ⟨middle, read, -, -⟩ := readExactly_of_bytes 4 [] split (by rw [four]; rfl)
  have refused := Wire.decodeFrameLength_of_length four
  rw [if_neg (by omega)] at refused
  rw [List.nil_append] at read
  simp only [receive, read, refused]

theorem receive_of_cut {connection : NWConnection} (cut : Cut connection.bytes) :
    receive connection = connection.ending.map fun _ => (.error .network, .cancelled) := by
  by_cases few : connection.bytes.length < 4
  · have few' : ([] : Bytes).length + connection.bytes.length < 4 := by
      rwa [List.length_nil, Nat.zero_add]
    have read := readExactly_of_few 4 [] few'
    cases ending : connection.ending with
    | none =>
        rw [ending] at read
        simp only [receive, read, Option.map_none]
    | some =>
        rw [ending] at read
        simp only [receive, read, Option.map_some]
  · obtain ⟨positive, bound, short⟩ := cut.resolve_left few
    have four : (connection.bytes.take 4).length = 4 := by
      rw [List.length_take]
      omega
    have split := (List.take_append_drop 4 connection.bytes).symm
    obtain ⟨middle, read, behind, ending⟩ := readExactly_of_bytes 4 [] split (by rw [four]; rfl)
    have decoded := Wire.decodeFrameLength_of_length four
    rw [if_pos ⟨positive, bound⟩] at decoded
    have rest : ([] : Bytes).length + middle.bytes.length < ofBigEndian (connection.bytes.take 4) := by
      rw [behind, List.length_drop, List.length_nil]
      omega
    have read' := readExactly_of_few _ [] rest
    rw [List.nil_append] at read
    simp only [receive, read, decoded, read', ending]

/-- What receives get, up to a number of them, where no frame begins: the frame's length is
    refused and the connection cancelled, the stream ends, or they wait. -/
def refusals (rest : Bytes) (ending : Option Ending) (most : Nat) : List (Except Failure Bytes) :=
  if Malformed rest then .error .length :: List.replicate most (.error .network)
  else if ending.isSome then List.replicate most (.error .network)
  else []

theorem receives_of_receive {connection left : NWConnection} {result : Except Failure Bytes}
    (received : receive connection = some (result, left)) (n : Nat) :
    receives (n + 1) connection = result :: receives n left := by
  rw [receives, received]

theorem receives_cancelled (n : Nat) :
    receives n .cancelled = List.replicate n (.error .network) := by
  induction n with
  | zero => rfl
  | succ n ih =>
      have ended : receive .cancelled = some (.error .network, .cancelled) :=
        receive_of_cut (.inl (by decide))
      rw [receives_of_receive ended, ih]
      rfl

theorem receives_of_rest {connection : NWConnection} {n most : Nat}
    (none : Malformed connection.bytes ∨ Cut connection.bytes) (enough : n ≤ most) :
    receives n connection = (refusals connection.bytes connection.ending most).take n := by
  cases n with
  | zero => rfl
  | succ n =>
      rcases none with malformed | cut
      · rw [receives_of_receive (receive_of_malformed malformed), receives_cancelled, refusals,
          if_pos malformed, List.take_succ_cons, List.take_replicate, Nat.min_eq_left (by omega)]
      · have ended := receive_of_cut cut
        rw [refusals, if_neg cut.not_malformed]
        cases ending : connection.ending with
        | none =>
            rw [ending, Option.map_none] at ended
            rw [receives, ended]
            rfl
        | some ending' =>
            rw [ending, Option.map_some] at ended
            rw [receives_of_receive ended, receives_cancelled, Option.isSome_some, if_pos rfl,
              List.take_replicate, Nat.min_eq_left enough]
            rfl

/-- What receives get is the payloads of the frames in the stream, one after the other, and
    then only what befits the rest. -/
theorem receives_eq {connection : NWConnection} {payloads : List Bytes} {rest : Bytes}
    (valid : ∀ payload ∈ payloads, Wire.Valid payload)
    (here : connection.bytes = frames payloads ++ rest) (none : Malformed rest ∨ Cut rest)
    {n most : Nat} (enough : n ≤ most) :
    receives n connection =
      (payloads.map Except.ok ++ refusals rest connection.ending most).take n := by
  induction payloads generalizing connection n with
  | nil =>
      have bytes : connection.bytes = rest := here
      subst bytes
      exact receives_of_rest none enough
  | cons payload payloads ih =>
      cases n with
      | zero => rfl
      | succ n =>
          obtain ⟨valid', valids⟩ := List.forall_mem_cons.mp valid
          rw [frames_cons, List.append_assoc] at here
          obtain ⟨left, received, behind, ending⟩ := receive_of_frame valid' here
          rw [receives_of_receive received, ih valids behind (by omega), ending]
          rfl

/-- The payloads among the results. -/
def delivered (results : List (Except Failure Bytes)) : List Bytes :=
  results.filterMap Except.toOption

theorem delivered_ok (payloads : List Bytes) : delivered (payloads.map Except.ok) = payloads := by
  rw [delivered, List.filterMap_map]
  exact List.filterMap_some

theorem delivered_refusals (rest : Bytes) (ending : Option Ending) (most n : Nat) :
    delivered ((refusals rest ending most).take n) = [] := by
  apply List.filterMap_eq_nil_iff.mpr
  intro result inside
  have refused := List.mem_of_mem_take inside
  unfold refusals at refused
  split at refused
  · rcases List.mem_cons.mp refused with rfl | again
    · rfl
    · rw [List.eq_of_mem_replicate again]
      rfl
  · split at refused
    · rw [List.eq_of_mem_replicate refused]
      rfl
    · cases refused

/-- Nothing but whole payloads is delivered. -/
theorem delivered_receives {connection : NWConnection} {payloads : List Bytes} {rest : Bytes}
    (valid : ∀ payload ∈ payloads, Wire.Valid payload)
    (here : connection.bytes = frames payloads ++ rest) (none : Malformed rest ∨ Cut rest)
    (n : Nat) : delivered (receives n connection) = payloads.take n := by
  rw [receives_eq valid here none (Nat.le_refl n), List.take_append, delivered,
    List.filterMap_append, ← delivered, ← delivered, delivered_refusals, List.append_nil,
    ← List.map_take, delivered_ok]

theorem mapM_frame {payloads : List Bytes} (valid : ∀ payload ∈ payloads, Wire.Valid payload) :
    payloads.mapM Wire.frame = .ok (payloads.map prefixed) := by
  induction payloads with
  | nil => rfl
  | cons payload payloads ih =>
      obtain ⟨valid', valids⟩ := List.forall_mem_cons.mp valid
      rw [List.mapM_cons, Wire.frame_eq_ok.mpr ⟨valid', rfl⟩, ih valids]
      rfl

/-- What was framed is received as it was, however the stream is cut into chunks. `frame` and
    `unframe` are each other's inverses. Of any stream at all, the payloads of its frames are
    received up to what no frame begins, and then there is nothing but failures. -/
theorem framed_transport :
    (∀ payloads : List Bytes, (∀ payload ∈ payloads, Wire.Valid payload) →
      ∃ framed, payloads.mapM Wire.frame = .ok framed ∧
        ∀ connection : NWConnection, connection.bytes = framed.flatten →
          receives payloads.length connection = payloads.map .ok ∧
          ∀ n, delivered (receives n connection) = payloads.take n) ∧
    (∀ payload, Wire.Valid payload →
      ∃ framed, Wire.frame payload = .ok framed ∧ Wire.unframe framed = .ok payload) ∧
    (∀ framed payload, Wire.unframe framed = .ok payload → Wire.frame payload = .ok framed) ∧
    ∀ connection : NWConnection, ∃ payloads rest,
      (∀ payload ∈ payloads, Wire.Valid payload) ∧
      connection.bytes = frames payloads ++ rest ∧ (Malformed rest ∨ Cut rest) ∧
      ∀ n, receives n connection =
        (payloads.map Except.ok ++ refusals rest connection.ending n).take n := by
  refine ⟨?_, ?_, ?_, ?_⟩
  · intro payloads valid
    refine ⟨_, mapM_frame valid, fun connection here => ?_⟩
    have bytes : connection.bytes = frames payloads ++ [] := by
      rw [here, List.append_nil, frames, List.flatMap_def]
    have empty : Cut [] := .inl (by decide)
    constructor
    · rw [receives_eq valid bytes (.inr empty) (Nat.le_refl _),
        List.take_left' (List.length_map _)]
    · intro n
      exact delivered_receives valid bytes (.inr empty) n
  · intro payload valid
    have framed := Wire.frame_eq_ok.mpr ⟨valid, rfl⟩
    exact ⟨_, framed, Wire.unframe_eq_ok_iff_frame.mpr framed⟩
  · intro framed payload returned
    exact Wire.unframe_eq_ok_iff_frame.mp returned
  · intro connection
    obtain ⟨payloads, rest, valid, here, none⟩ := frames_cases connection.bytes
    exact ⟨payloads, rest, valid, here, none, fun n => receives_eq valid here none (Nat.le_refl n)⟩

/-- Two frames that are cut within their lengths and their payloads. -/
def chopped : NWConnection where
  chunks := [⟨[0, 0], by decide⟩, ⟨[0, 1, 9, 0, 0, 0], by decide⟩, ⟨[2, 7], by decide⟩,
    ⟨[8], by decide⟩]
  ending := some .complete
  early := true

theorem framed_transport_chopped : receives 2 chopped = [.ok [9], .ok [7, 8]] := by
  obtain ⟨framed, made, received⟩ := framed_transport.1 [[9], [7, 8]] (by decide)
  have frames : [[9], [7, 8]].mapM Wire.frame = .ok [[0, 0, 0, 1, 9], [0, 0, 0, 2, 7, 8]] := by
    decide
  obtain rfl := Except.ok.inj (frames.symm.trans made)
  exact (received chopped (by decide)).1

end FramedConnection

end QuadControl.Apple.Diagnostic
