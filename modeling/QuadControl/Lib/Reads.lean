import Mathlib.Data.List.DropRight

/-! # Streams that are read to their end

A stream is read into a buffer, a piece of any size at a time, until it ends or a read
fails. Its last elements can be kept piece by piece: of what came before, no more than
those are needed.
-/

namespace QuadControl.Lib

variable {α ε : Type}

/-- The last elements of a list that goes on need only its last elements. -/
theorem rtake_append_rtake (n : Nat) (list more : List α) :
    (list.rtake n ++ more).rtake n = (list ++ more).rtake n := by
  have whole : list.take (list.length - n) ++ list.rtake n = list := List.take_append_drop _ list
  have kept : (list.rtake n).length = list.length - (list.length - n) := List.length_drop
  have past : (list ++ more).length - n =
      (list.take (list.length - n)).length + ((list.rtake n ++ more).length - n) := by
    simp only [List.length_append, List.length_take, kept]
    omega
  calc (list.rtake n ++ more).rtake n
      = (list.take (list.length - n) ++ (list.rtake n ++ more)).drop
          ((list ++ more).length - n) := by
        rw [past, List.drop_length_add_append]
        rfl
    _ = (list ++ more).rtake n := by
        rw [← List.append_assoc, whole]
        rfl

/-- What a read puts into a buffer of some size. -/
structure Piece (α : Type) (size : Nat) where
  items : List α
  some : items ≠ []
  fits : items.length ≤ size

/-- What the reads of a stream return, up to the one that meets its end. -/
abbrev Reads (ε α : Type) (size : Nat) := List (Except ε (Piece α size))

namespace Reads

variable {size : Nat}

/-- What was read when the stream ended or a read failed. -/
def received : Reads ε α size → List α
  | .ok piece :: reads => piece.items ++ received reads
  | .error _ :: _ => []
  | [] => []

/-- The failure that the reading stopped at. -/
def failure? : Reads ε α size → Option ε
  | .ok _ :: reads => failure? reads
  | .error failure :: _ => some failure
  | [] => none

end Reads

end QuadControl.Lib
