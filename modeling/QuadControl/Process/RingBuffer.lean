import QuadControl.Lib.Reads
import QuadControl.Lib.Utf8

/-! # The tail of standard error

What a child process writes to its standard error is drained into a ring buffer, which drops
the oldest byte for each new one once it is full. It holds the end of all that was pushed.
-/

namespace QuadControl.Process

open Lib Lib.Utf8

/-- The size of the buffer that `drain_stderr` reads into. -/
def chunkSize : Nat := 4096

structure RingBuffer where
  bytes : Bytes
  limit : Nat
  deriving Repr, DecidableEq

namespace RingBuffer

def new (limit : Nat) : RingBuffer := ⟨[], limit⟩

variable (buffer : RingBuffer)

/-- The body of the loop of `push`. -/
def pushByte (byte : UInt8) : RingBuffer :=
  let kept := if buffer.bytes.length = buffer.limit then buffer.bytes.tail else buffer.bytes
  { buffer with bytes := kept ++ [byte] }

def push (data : Bytes) : RingBuffer := data.foldl pushByte buffer

/-- One push after the other. -/
def pushAll (pushes : List Bytes) : RingBuffer := pushes.foldl push buffer

/-- `drain_stderr`. The list ends with the read of no bytes. -/
def drainStderr (buffer : RingBuffer) : Reads Text UInt8 chunkSize → RingBuffer
  | .ok chunk :: reads => drainStderr (buffer.push chunk.items) reads
  | .error _ :: _ => buffer
  | [] => buffer

variable {buffer}

/-- One byte more pushes out the oldest one where there is no room for both. -/
theorem bytes_pushByte (room : 0 < buffer.limit) (within : buffer.bytes.length ≤ buffer.limit)
    (byte : UInt8) :
    (buffer.pushByte byte).bytes = (buffer.bytes ++ [byte]).rtake buffer.limit := by
  rw [pushByte, List.rtake, List.length_append, List.length_singleton]
  split
  · rename_i full
    have first : buffer.bytes.length + 1 - buffer.limit = 1 := by omega
    rw [first, List.drop_append_of_le_length (by omega), List.drop_one]
  · have none : buffer.bytes.length + 1 - buffer.limit = 0 := by omega
    rw [none, List.drop_zero]

/-- The buffer holds the last bytes of a stream, up to its limit. -/
structure Holds (buffer : RingBuffer) (limit : Nat) (stream : Bytes) : Prop where
  room : 0 < limit
  keeps : buffer.limit = limit
  tail : buffer.bytes = stream.rtake limit

variable {limit : Nat} {stream : Bytes}

theorem holds_new (room : 0 < limit) : (new limit).Holds limit [] :=
  ⟨room, rfl, (List.rtake_nil _).symm⟩

namespace Holds

variable (holds : buffer.Holds limit stream)

include holds

theorem pushByte (byte : UInt8) : (buffer.pushByte byte).Holds limit (stream ++ [byte]) := by
  obtain ⟨room, rfl, tail⟩ := holds
  have within : buffer.bytes.length ≤ buffer.limit := by
    rw [tail, List.rtake, List.length_drop]
    omega
  refine ⟨room, rfl, ?_⟩
  rw [bytes_pushByte room within, tail, rtake_append_rtake]

theorem push (data : Bytes) : (buffer.push data).Holds limit (stream ++ data) := by
  induction data generalizing buffer stream with
  | nil =>
      rw [List.append_nil]
      exact holds
  | cons byte data ih =>
      have later := ih (holds.pushByte byte)
      rw [List.append_assoc] at later
      exact later

theorem pushAll (pushes : List Bytes) :
    (buffer.pushAll pushes).Holds limit (stream ++ pushes.flatten) := by
  induction pushes generalizing buffer stream with
  | nil =>
      rw [List.flatten_nil, List.append_nil]
      exact holds
  | cons data pushes ih =>
      have later := ih (holds.push data)
      rw [List.append_assoc] at later
      exact later

theorem drainStderr (reads : Reads Text UInt8 chunkSize) :
    (buffer.drainStderr reads).Holds limit (stream ++ Reads.received reads) := by
  induction reads generalizing buffer stream with
  | nil =>
      rw [Reads.received, List.append_nil]
      exact holds
  | cons read reads ih =>
      cases read with
      | error failure =>
          rw [Reads.received, List.append_nil]
          exact holds
      | ok chunk =>
          have later := ih (holds.push chunk.items)
          rw [List.append_assoc] at later
          exact later

end Holds

theorem Holds.bytes_eq (holds : buffer.Holds limit stream) :
    buffer.bytes = stream.rtake (min limit stream.length) := by
  have same : stream.length - min limit stream.length = stream.length - limit := by omega
  rw [holds.tail, List.rtake, List.rtake, same]

/-- What is pushed or drained into a new buffer leaves its last bytes there, however it is
    cut into pieces. -/
theorem last_bytes (limit : Nat) (room : 0 < limit) :
    (∀ pushes : List Bytes, ((new limit).pushAll pushes).bytes =
      pushes.flatten.rtake (min limit pushes.flatten.length)) ∧
    ∀ reads : Reads Text UInt8 chunkSize, ((new limit).drainStderr reads).bytes =
      (Reads.received reads).rtake (min limit (Reads.received reads).length) :=
  ⟨fun pushes => ((holds_new room).pushAll pushes).bytes_eq,
    fun reads => ((holds_new room).drainStderr reads).bytes_eq⟩

theorem last_bytes_of_four :
    0 < 4 ∧ ((new 4).pushAll [[1, 2], [3, 4, 5, 6, 7], []]).bytes = [4, 5, 6, 7] ∧
      ((new 4).pushAll [[1, 2]]).bytes = [1, 2] :=
  have last := (last_bytes 4 (by decide)).1
  ⟨by decide, last _, last _⟩

end RingBuffer

end QuadControl.Process
