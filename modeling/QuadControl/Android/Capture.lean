import QuadControl.Lib.Reads
import QuadControl.Lib.Text
import QuadControl.Lib.Utf8

/-! # Output up to a limit

Two readers capture the output of a command: `capture` for the pairing commands, and
`read_limited` of the probe. Both read on once their limit is reached, so that the command
never blocks on a full pipe, and note that something was left out.
-/

namespace QuadControl.Android

open Lib Lib.Utf8

/-- The size of the buffer that both read into. -/
def captureSize : Nat := 4096

namespace Wireless

/-- `OUTPUT_LIMIT`. -/
def outputLimit : Nat := 64 * 1024

structure Captured where
  data : Bytes
  truncated : Bool
  deriving Repr, DecidableEq

/-- Subtraction of a `usize`: where it underflows, the thread panics or the number wraps. -/
def checkedSub (m n : Nat) : Option Nat := if n ≤ m then some (m - n) else none

/-- The loop of `capture` at some limit; `none` where the subtraction underflows. -/
def captureLoop (limit : Nat) (captured : Captured) :
    Reads Text UInt8 captureSize → Option (Except Text Captured)
  | .ok read :: reads => do
      let n := read.items.length
      let keep := min (← checkedSub limit captured.data.length) n
      captureLoop limit
        ⟨captured.data ++ read.items.take keep, captured.truncated || keep < n⟩ reads
  | .error error :: _ => some (.error error)
  | [] => some (.ok captured)

/-- `capture` with its limit as a parameter. -/
def captureAt (limit : Nat) (reads : Reads Text UInt8 captureSize) :
    Option (Except Text Captured) :=
  captureLoop limit ⟨[], false⟩ reads

def capture (reads : Reads Text UInt8 captureSize) : Option (Except Text Captured) :=
  captureAt outputLimit reads

end Wireless

namespace Probe

structure CapturedOutput where
  bytes : Bytes
  truncated : Bool
  deriving Repr, DecidableEq

/-- The loop of `read_limited`. -/
def readLoop (limit : Nat) (captured : CapturedOutput) :
    Reads Text UInt8 captureSize → Except Text CapturedOutput
  | .ok read :: reads =>
      let count := read.items.length
      let remaining := limit - captured.bytes.length
      let stored := min remaining count
      readLoop limit
        ⟨captured.bytes ++ read.items.take stored, captured.truncated || stored < count⟩ reads
  | .error error :: _ => .error error
  | [] => .ok captured

def readLimited (limit : Nat) (reads : Reads Text UInt8 captureSize) :
    Except Text CapturedOutput :=
  readLoop limit ⟨[], false⟩ reads

end Probe

/-! ### What is captured -/

/-- As much of a piece is kept as there is room for behind the beginning of a stream. -/
theorem take_append_kept (limit : Nat) (stream piece : Bytes) :
    stream.take limit ++ piece.take (min (limit - (stream.take limit).length) piece.length) =
      (stream ++ piece).take limit := by
  have room : limit - (stream.take limit).length = limit - stream.length := by
    rw [List.length_take]
    omega
  rw [room, List.take_append, ← List.take_eq_take_min]

/-- Something is left out of a piece, or was before, where all of it exceeds the limit. -/
theorem truncated_append (limit : Nat) (stream piece : Bytes) :
    (decide (limit < stream.length) ||
        decide (min (limit - (stream.take limit).length) piece.length < piece.length)) =
      decide (limit < (stream ++ piece).length) := by
  rw [← Bool.decide_or, decide_eq_decide, List.length_take, List.length_append]
  omega

/-- What a reader is to return: the failure of a read, or what it captures. -/
def outcome (limit : Nat) (stream : Bytes) (reads : Reads Text UInt8 captureSize) :
    Except Text (Bytes × Bool) :=
  match Reads.failure? reads with
  | some error => .error error
  | none =>
      let stream := stream ++ Reads.received reads
      .ok (stream.take limit, limit < stream.length)

theorem outcome_cons (limit : Nat) (stream : Bytes) (read : Piece UInt8 captureSize)
    (reads : Reads Text UInt8 captureSize) :
    outcome limit stream (.ok read :: reads) = outcome limit (stream ++ read.items) reads := by
  rw [outcome, outcome, Reads.failure?, Reads.received, List.append_assoc]

/-- The loop of `capture`, of which the beginning of a stream was captured already: there is
    never more than the limit, so that the subtraction does not underflow. -/
theorem Wireless.captureLoop_eq (limit : Nat) (stream : Bytes)
    (reads : Reads Text UInt8 captureSize) :
    captureLoop limit ⟨stream.take limit, limit < stream.length⟩ reads =
      some ((outcome limit stream reads).map fun (data, truncated) => ⟨data, truncated⟩) := by
  induction reads generalizing stream with
  | nil =>
      rw [captureLoop, outcome, Reads.received, List.append_nil]
      rfl
  | cons read reads ih =>
      cases read with
      | error failure => rfl
      | ok read =>
          have room : checkedSub limit (stream.take limit).length =
              some (limit - (stream.take limit).length) := by
            rw [checkedSub, if_pos (List.length_take_le _ _)]
          rw [captureLoop, room, outcome_cons, ← ih]
          show captureLoop limit _ reads = _
          rw [take_append_kept, truncated_append]

theorem Probe.readLoop_eq (limit : Nat) (stream : Bytes) (reads : Reads Text UInt8 captureSize) :
    readLoop limit ⟨stream.take limit, limit < stream.length⟩ reads =
      (outcome limit stream reads).map fun (bytes, truncated) => ⟨bytes, truncated⟩ := by
  induction reads generalizing stream with
  | nil =>
      rw [readLoop, outcome, Reads.received, List.append_nil]
      rfl
  | cons read reads ih =>
      cases read with
      | error failure => rfl
      | ok read =>
          rw [outcome_cons, ← ih, readLoop]
          show readLoop limit _ reads = _
          rw [take_append_kept, truncated_append]

/-- Whatever the limit and the reads, both readers return the beginning of the stream up to the
    limit, and whether there was more; the subtraction of the one never underflows. -/
theorem captured_beginning (limit : Nat) (reads : Reads Text UInt8 captureSize) :
    Wireless.captureAt limit reads =
        some ((Probe.readLimited limit reads).map fun output =>
          ⟨output.bytes, output.truncated⟩) ∧
      Probe.readLimited limit reads =
        match Reads.failure? reads with
        | some error => .error error
        | none =>
            let stream := Reads.received reads
            .ok ⟨stream.take (min limit stream.length), limit < stream.length⟩ := by
  have left := Wireless.captureLoop_eq limit [] reads
  have right := Probe.readLoop_eq limit [] reads
  have small : decide (limit < 0) = false := decide_eq_false (Nat.not_lt_zero limit)
  rw [List.take_nil, List.length_nil, small, outcome, List.nil_append] at left right
  rw [Wireless.captureAt, Probe.readLimited, left, right]
  cases Reads.failure? reads with
  | some error => exact ⟨rfl, rfl⟩
  | none =>
      have all : (Reads.received reads).take limit = _ := List.take_eq_take_min
      refine ⟨rfl, ?_⟩
      simp only [all]
      rfl

end QuadControl.Android
